import FriendGraph.Setting.Yaml.Scalar
import FriendGraph.Setting.Yaml.Tag

/-! # Tokens of a settings file

The tokens of a text in order (`tokens?`). Scalars, aliases, anchors and tags stand for
themselves. The indentation of block collections shows in tokens at which they start and end,
and a key is preceded by a token even when the text has no mark for it: the mark is the colon
after it. So whatever may turn out to be a key is remembered until it is clear (`Scan.key`); a
key stands on one line and is not longer than `longestKey`, except in flow collections.
-/

namespace FriendGraph.Setting.Yaml

/-- A token. -/
inductive Token where
  /-- A directive on the version. -/
  | version
  /-- A directive on the meaning of a handle. -/
  | handle (handle start : String)
  | documentStart
  | documentEnd
  | blockSequence
  | blockMapping
  /-- The end of a block collection. -/
  | blockEnd
  /-- The hyphen before an item. -/
  | entry
  | flowSequence
  | flowSequenceEnd
  | flowMapping
  | flowMappingEnd
  /-- The comma after an item or a member. -/
  | comma
  /-- What precedes a key. -/
  | key
  /-- What precedes the value of a key. -/
  | value
  | alias (name : String)
  | anchor (name : String)
  | tag (tag : Tag)
  | scalar (isPlain : Bool) (text : String)
deriving DecidableEq

/-- A level of indentation: a block collection, or one column further in. -/
structure Level where
  column : Int
  isBlock : Bool

/-- What may turn out to be a key. -/
structure Candidate where
  /-- Whether it has to. -/
  isRequired : Bool
  /-- The number of tokens before it. -/
  position : Nat
  index : Nat
  line : Nat
  column : Nat

/-- The kind of a flow collection. -/
inductive FlowKind where
  | mapping
  /-- A sequence outside of a pair. -/
  | sequence
  /-- A sequence in a pair that only its colon shows. -/
  | sequenceInPair
  /-- A sequence after a mark for a key. -/
  | sequenceInKey
deriving DecidableEq

/-- A flow collection, with the candidate that was there before it. -/
structure Flow where
  kind : FlowKind
  outer : Option Candidate

/-- What is known at a place between two tokens. -/
structure Scan where
  cursor : Cursor
  /-- The tokens so far, the last one first. -/
  tokens : List Token
  /-- The levels of indentation, the innermost one first. -/
  levels : List Level
  /-- The flow collections that are open, the innermost one first. -/
  flows : List Flow
  /-- What may turn out to be a key at the innermost level. -/
  key : Option Candidate
  /-- Whether something that starts here may. -/
  allowsKey : Bool
  /-- The place where a colon needs no space after it. -/
  colonPlace : Option Nat

namespace Scan

/-- The state before the first token. -/
def start (cursor : Cursor) : Scan := ⟨cursor, [], [], [], none, true, none⟩

/-- Whether the place lies in a flow collection. -/
def inFlow (scan : Scan) : Bool := !scan.flows.isEmpty

/-- The indentation of levels; outside of all of them it is negative. -/
def indentOf : List Level → Int
  | [] => -1
  | level :: _ => level.column

/-- The indentation at a place. -/
def indent (scan : Scan) : Int := indentOf scan.levels

/-- A further token. -/
def push (token : Token) (scan : Scan) : Scan := { scan with tokens := token :: scan.tokens }

/-- A token after so many tokens. -/
def insert (position : Nat) (token : Token) (scan : Scan) : Scan :=
  let later := scan.tokens.length - position
  { scan with tokens := scan.tokens.take later ++ token :: scan.tokens.drop later }

/-! ## Indentation -/

/-- Levels without the innermost ones that are no blocks. -/
def dropPlain (levels : List Level) : List Level := levels.dropWhile (!·.isBlock)

/-- The state with all levels closed that are further in than a column. -/
def closeLevels (column : Int) (scan : Scan) : Scan :=
  if scan.inFlow then scan
  else
    let isInner (level : Level) : Bool := column < level.column
    let closed := (scan.levels.takeWhile isInner).filter (·.isBlock)
    { scan with
      levels := scan.levels.dropWhile isInner
      tokens := closed.map (fun _ => Token.blockEnd) ++ scan.tokens }

/-- The state with a block collection opened at a column, if that is further in. Its token comes
after so many tokens. -/
def openLevel (column : Nat) (position : Nat) (token : Token) (scan : Scan) : Scan :=
  if scan.inFlow then scan
  else
    let levels :=
      match scan.levels with
      | level :: outer => if !level.isBlock ∧ level.column ≤ column then outer else level :: outer
      | [] => []
    if indentOf levels < column then
      { scan with levels := ⟨column, true⟩ :: levels }.insert position token
    else { scan with levels }

/-- The state with the indentation one column further in than a block collection. -/
def indentFurther (scan : Scan) : Scan :=
  match scan.levels with
  | level :: _ =>
    if !scan.inFlow ∧ level.isBlock then
      { scan with levels := ⟨level.column + 1, false⟩ :: scan.levels }
    else scan
  | [] => scan

/-! ## Keys -/

/-- The most characters between the start of a key and its colon. -/
def longestKey : Nat := 1024

/-- The state with the next token as a candidate for a key, where that is allowed. -/
def saveKey (scan : Scan) : Scan :=
  let place := scan.cursor
  let isRequired :=
    !scan.inFlow && scan.indent == place.column && scan.levels.head?.any (·.isBlock)
  if scan.allowsKey then
    { scan with
      key := some ⟨isRequired, scan.tokens.length, place.index, place.line, place.column⟩ }
  else scan

/-- The state without a candidate for a key; one that has to be a key cannot be dropped. -/
def dropKey? (scan : Scan) : Option Scan :=
  if scan.key.any (·.isRequired) then none else some { scan with key := none }

/-- The state without the candidate for a key if its line is over or it is too long. -/
def dropStaleKey? (scan : Scan) : Option Scan :=
  let isStale (candidate : Candidate) : Bool :=
    candidate.line < scan.cursor.line || candidate.index + longestKey < scan.cursor.index
  if !scan.inFlow ∧ scan.key.any isStale then scan.dropKey? else some scan

/-! ## Between tokens -/

/-- The state at the next token, after blanks, line breaks and comments. In a block collection no
tab is part of the indentation before a token. -/
def skipToToken? : Nat → Scan → Option Scan
  | 0, scan => some scan
  | fuel + 1, scan =>
    let cursor := scan.cursor
    let c := cursor.char
    if c = '\t' ∧ cursor.isLeading ∧ (cursor.column : Int) < scan.indent then do
      skipToToken? fuel { scan with cursor := ← skipEmptyLine? cursor }
    else if isBlank c then skipToToken? fuel { scan with cursor := cursor.next }
    else if isBreak c then
      skipToToken? fuel
        { scan with cursor := cursor.skipBreak, allowsKey := scan.allowsKey || !scan.inFlow }
    else if c = '#' then skipToToken? fuel { scan with cursor := cursor.skipLine }
    else some scan

/-- The state at the next token. -/
def nextPlace? (scan : Scan) : Option Scan :=
  skipToToken? (scan.cursor.rest.length + 1) scan

/-! ## Single tokens -/

/-- The number that digits of a version write; it has at most nine. -/
def versionNumber? (cursor : Cursor) : Option Cursor :=
  let digits := cursor.rest.takeWhile Char.isDigit
  if digits.isEmpty ∨ 9 < digits.length then none else some (cursor.advance digits.length)

/-- A directive, which takes a whole line. What it says counts only if it is on a handle. -/
def directiveToken? (cursor : Cursor) : Option (Token × Cursor) := do
  let name := cursor.next.rest.takeWhile isNameChar
  let after := cursor.advance (1 + name.length)
  if name.isEmpty ∨ !isSpace after.char then none
  else if name = "YAML".toList then
    let major ← versionNumber? (after.skipWhile isBlank)
    if major.char = '.' then return (.version, ← versionNumber? major.next) else none
  else if name = "TAG".toList then
    let (handle, start, rest) ← Tag.directive? after
    return (.handle handle start, rest)
  else return (.handle "" "", after.skipLine)

/-- Read a directive. -/
def directive? (scan : Scan) : Option Scan := do
  let closed ← (scan.closeLevels (-1)).dropKey?
  let (token, after) ← directiveToken? scan.cursor
  let lineEnd ← after.skipBlanks?
  if isLineEnd lineEnd.char then
    return { closed with cursor := lineEnd.skipBreak, allowsKey := false }.push token
  else none

/-- Read a mark at the edge of a document. Nothing may follow the mark of its end. -/
def documentMark? (token : Token) (scan : Scan) : Option Scan := do
  let closed ← (scan.closeLevels (-1)).dropKey?
  let marked := { closed with cursor := scan.cursor.advance 3, allowsKey := false }.push token
  if token = .documentEnd then
    let lineEnd ← marked.cursor.skipBlanks?
    if isLineEnd lineEnd.char then return { marked with cursor := lineEnd } else none
  else return marked

/-- The number of flow collections that may be open at once. -/
def deepestFlow : Nat := 255

/-- Read the start of a flow collection. -/
def openFlow? (kind : FlowKind) (token : Token) (scan : Scan) : Option Scan := do
  let saved := scan.saveKey.indentFurther
  if deepestFlow ≤ scan.flows.length then none
  else
    let after ← scan.cursor.next.skipBlanks?
    return { saved with
      cursor := after
      flows := ⟨kind, saved.key⟩ :: saved.flows
      key := none
      allowsKey := true }.push token

/-- The state after a pair that only its colon shows. -/
def endPair (scan : Scan) : Scan :=
  match scan.flows with
  | ⟨.sequenceInPair, outer⟩ :: further =>
    { scan with flows := ⟨.sequence, outer⟩ :: further }.push .flowMappingEnd
  | _ => scan

/-- Read the end of a flow collection. -/
def closeFlow? (token : Token) (scan : Scan) : Option Scan := do
  let dropped ← scan.dropKey?
  let ended := if token = .flowSequenceEnd then dropped.endPair else dropped
  let isMapping := token = .flowMappingEnd
  match ended.flows with
  | flow :: further =>
    if (flow.kind = .mapping) ≠ isMapping then none
    else
      let after ← scan.cursor.next.skipBlanks?
      return { ended with
        cursor := after
        flows := further
        key := flow.outer
        allowsKey := false
        colonPlace := if further.isEmpty then ended.colonPlace else some after.index }.push token
  | [] => none

/-- Read a comma. -/
def comma? (scan : Scan) : Option Scan := do
  let dropped ← scan.dropKey?
  let after ← scan.cursor.next.skipBlanks?
  return { dropped.endPair with cursor := after, allowsKey := true }.push .comma

/-- Read the hyphen before an item. After a tab no further hyphen may follow. -/
def entry? (scan : Scan) : Option Scan := do
  let place := scan.cursor
  let after ← place.next.skipBlanks?
  let isTabbed := place.next.blanks.contains '\t' && after.char == '-' && isSpace after.second
  if scan.inFlow || !scan.allowsKey || isTabbed then none
  else
    let opened := scan.openLevel place.column scan.tokens.length .blockSequence
    let isEmpty := isBreak after.char || isFlowMark after.char
    let moved := if isEmpty then opened.indentFurther else opened
    let dropped ← moved.dropKey?
    return { dropped with cursor := after, allowsKey := true }.push .entry

/-- The place after spaces, line breaks and comments. -/
def skipAfterMark : Nat → Cursor → Cursor
  | 0, cursor => cursor
  | fuel + 1, cursor =>
    if cursor.char = ' ' then skipAfterMark fuel cursor.next
    else if isBreak cursor.char then skipAfterMark fuel cursor.skipBreak
    else if cursor.char = '#' then skipAfterMark fuel cursor.skipLine
    else cursor

/-- Read the mark for a key. A space or a line break has to follow it, and no tab after that. -/
def keyMark? (scan : Scan) : Option Scan := do
  let place := scan.cursor
  let after := skipAfterMark (place.rest.length + 1) place.next
  let opened ←
    match scan.flows with
    | [] =>
      if scan.allowsKey then some (scan.openLevel place.column scan.tokens.length .blockMapping)
      else none
    | ⟨.sequence, outer⟩ :: further =>
      some { scan with flows := ⟨.sequenceInKey, outer⟩ :: further }
    | _ => some scan
  let dropped ← opened.dropKey?
  if after.index = place.index + 1 ∨ after.char = '\t' then none
  else return { dropped with cursor := after, allowsKey := !scan.inFlow }.push .key

/-- The place after a colon. After a tab alone no name may follow at once. -/
def skipColon? (cursor : Cursor) : Option Cursor := do
  let after := cursor.next
  if after.char ≠ '\t' then return after
  else
    let rest ← after.skipBlanks?
    if !after.blanks.contains ' ' && isNameChar rest.char then none else return rest

/-- The state in which a pair that only its colon shows has started, if it does, with its token
after so many tokens. -/
def startPair (position : Nat) (scan : Scan) : Scan :=
  match scan.flows with
  | ⟨.sequence, outer⟩ :: further =>
    { scan with flows := ⟨.sequenceInPair, outer⟩ :: further }.insert position .flowMapping
  | _ => scan

/-- Read a colon after what may be a key, or before a value without a key. -/
def colon? (scan : Scan) : Option Scan := do
  let place := scan.cursor
  let moved := { scan with cursor := ← skipColon? place }
  match scan.key with
  | some candidate =>
    let isSplit := candidate.line < place.line && scan.flows.head?.any (·.kind == .sequence)
    if isSplit then none
    else
      let keyed := (moved.insert candidate.position .key).startPair candidate.position
      let opened := keyed.openLevel candidate.column candidate.position .blockMapping
      return { opened.indentFurther with key := none, allowsKey := false }.push .value
  | none =>
    if !scan.inFlow ∧ !scan.allowsKey then none
    else
      let count := scan.tokens.length
      let opened := (moved.startPair count).openLevel place.column count .blockMapping
      return { opened.indentFurther with allowsKey := !scan.inFlow }.push .value

/-- The name of an alias or an anchor. -/
def nameAt (cursor : Cursor) : List Char :=
  cursor.rest.takeWhile fun c => !isSpace c && !isFlowMark c && c != '\ufeff'

/-- Read an alias or an anchor. -/
def named? (token : String → Token) (scan : Scan) : Option Scan :=
  let saved := scan.saveKey
  let name := nameAt scan.cursor.next
  if name.isEmpty then none
  else
    some ({ saved with
      cursor := scan.cursor.advance (1 + name.length)
      allowsKey := false }.push (token (String.ofList name)))

/-- Read a tag. -/
def tag? (scan : Scan) : Option Scan := do
  let saved := scan.saveKey
  let (tag, after) ← Tag.read? scan.inFlow scan.cursor
  return { saved with cursor := after, allowsKey := false }.push (.tag tag)

/-- Read a plain scalar. When its last line is over, a key may follow. -/
def plainScalar? (scan : Scan) : Option Scan := do
  let saved := scan.saveKey
  let levels := dropPlain scan.levels
  let (content, after) ← plain? scan.inFlow (indentOf levels + 1) scan.cursor
  return { saved with cursor := after, levels, allowsKey := after.isLeading }.push
    (.scalar true (String.ofList content))

/-- Read a quoted scalar. In a flow collection the colon after it needs no space. -/
def quotedScalar? (scan : Scan) : Option Scan := do
  let saved := scan.saveKey
  let (content, after) ← quoted? scan.inFlow scan.indent scan.cursor
  let next ← nextPlace? { saved with cursor := after, allowsKey := false }
  return { next with colonPlace := some next.cursor.index }.push
    (.scalar false (String.ofList content))

/-- Read a block scalar. -/
def blockScalar? (scan : Scan) : Option Scan := do
  let saved := scan.saveKey
  let levels := dropPlain scan.levels
  let (content, after) ← block? (indentOf levels) scan.cursor
  return { saved with cursor := after, levels, allowsKey := true }.push
    (.scalar false (String.ofList content))

/-! ## All tokens -/

/-- Whether a colon at the place is one between a key and a value. -/
def isColon (scan : Scan) : Bool :=
  let second := scan.cursor.second
  isSpace second ||
    (scan.inFlow && (isFlowMark second || scan.colonPlace == some scan.cursor.index))

/-- Read the token that a character starts. -/
def startedBy? (c : Char) (scan : Scan) : Option Scan :=
  let isAlone := isSpace scan.cursor.second
  if c = '[' then scan.openFlow? .sequence .flowSequence
  else if c = '\x7b' then scan.openFlow? .mapping .flowMapping
  else if c = ']' then scan.closeFlow? .flowSequenceEnd
  else if c = '\x7d' then scan.closeFlow? .flowMappingEnd
  else if c = ',' then scan.comma?
  else if c = '-' ∧ isAlone then scan.entry?
  else if c = '?' ∧ isAlone then scan.keyMark?
  else if c = ':' ∧ scan.isColon then scan.colon?
  else if c = '*' then scan.named? .alias
  else if c = '&' then scan.named? .anchor
  else if c = '!' then scan.tag?
  else if (c = '|' ∨ c = '>') ∧ !scan.inFlow then scan.blockScalar?
  else if c = '\x27' ∨ c = '"' then scan.quotedScalar?
  else if c = '%' ∨ c = '@' ∨ c = '\x60' then none
  else scan.plainScalar?

/-- Read a token. In a flow collection nothing may stand before the indentation. -/
def token? (scan : Scan) : Option Scan :=
  let cursor := scan.cursor
  if cursor.column = 0 ∧ cursor.char = '%' then scan.directive?
  else if cursor.isAtMark "---" then scan.documentMark? .documentStart
  else if cursor.isAtMark "..." then scan.documentMark? .documentEnd
  else if (cursor.column : Int) < scan.indent then none
  else scan.startedBy? cursor.char

/-- The tokens up to the end of the text, where no flow collection may be open. -/
def finish? (scan : Scan) : Option (List Token) := do
  let dropped ← scan.dropKey?
  if scan.inFlow then none else return (dropped.closeLevels (-1)).tokens.reverse

/-- The tokens so far and all further ones. -/
def tokens? : Nat → Scan → Option (List Token)
  | 0, _ => none
  | fuel + 1, scan => do
    let fresh ← (← scan.nextPlace?).dropStaleKey?
    let placed := fresh.closeLevels fresh.cursor.column
    if placed.cursor.rest.isEmpty then placed.finish? else tokens? fuel (← placed.token?)

end Scan

/-- The tokens of a text. -/
def tokens? (text : String) : Option (List Token) :=
  Scan.tokens? (text.length + 1) (Scan.start (Cursor.ofText text))

end FriendGraph.Setting.Yaml
