import FriendGraph.Hex
import FriendGraph.Setting.Yaml.Cursor

/-! # The texts of scalars

A scalar is plain, quoted or a block. In plain and quoted scalars a line break between two words
counts as a space, and of several line breaks all but the first one count; so words and the
gaps between them are read in turn (`plain?`, `quoted?`). In a block each line is kept as it is
from a common indentation on, and a folded block joins lines in the same way (`block?`). Every
reader takes the place of its scalar and answers with the text and the place after it.
-/

namespace FriendGraph.Setting.Yaml

/-- A text with the place after it. -/
abbrev Scanned := List Char × Cursor

/-! ## Gaps -/

/-- What stands between two words. -/
structure Gap where
  /-- The blanks before the first line break, the last one first. -/
  blanks : List Char
  /-- The number of line breaks. -/
  breaks : Nat
  /-- Whether the gap starts with a line break that was escaped. -/
  isEscaped : Bool

namespace Gap

/-- Nothing at all. -/
def empty : Gap := ⟨[], 0, false⟩

/-- Whether the gap has reached a further line. -/
def hasBroken (gap : Gap) : Bool := gap.isEscaped || gap.breaks != 0

/-- What a gap counts as, the last character first. -/
def text (gap : Gap) : List Char :=
  if gap.isEscaped then List.replicate gap.breaks '\n'
  else if gap.breaks = 0 then gap.blanks
  else if gap.breaks = 1 then [' ']
  else List.replicate (gap.breaks - 1) '\n'

/-- The rest of a gap, with the place after it. What a tab before the indentation leads to is up
to the scalar. -/
def skip? (onTab : Cursor → Option Cursor) (indent : Int) : Nat → Gap → Cursor →
    Option (Gap × Cursor)
  | 0, gap, cursor => some (gap, cursor)
  | fuel + 1, gap, cursor =>
    let c := cursor.char
    if isBlank c then
      if !gap.hasBroken then
        skip? onTab indent fuel { gap with blanks := c :: gap.blanks } cursor.next
      else if c = '\t' ∧ (cursor.column : Int) < indent then do
        skip? onTab indent fuel gap (← onTab cursor)
      else skip? onTab indent fuel gap cursor.next
    else if isBreak c then
      skip? onTab indent fuel { gap with blanks := [], breaks := gap.breaks + 1 } cursor.skipBreak
    else some (gap, cursor)

end Gap

/-! ## Plain scalars -/

/-- The word of a plain scalar that a text starts with. It ends at a space, at a colon before a
space, and in a flow collection at the marks of flow collections. -/
def plainWord (inFlow : Bool) : List Char → List Char
  | [] => []
  | c :: rest =>
    let following := rest.headD '\x00'
    let isColon := c == ':' && (isSpace following || (inFlow && isFlowMark following))
    if isSpace c || isColon || (inFlow && isFlowMark c) then []
    else c :: plainWord inFlow rest

/-- A line with a tab before the indentation has to be empty. -/
def skipEmptyLine? (cursor : Cursor) : Option Cursor :=
  cursor.skipBlanks?.filter (isLineEnd ·.char)

/-- The words of a plain scalar after a gap; the characters found before are the last one first. -/
def plainWords? (inFlow : Bool) (indent : Int) : Nat → List Char → Gap → Cursor → Option Scanned
  | 0, found, _, cursor => some (found, cursor)
  | fuel + 1, found, gap, cursor =>
    let word := plainWord inFlow cursor.rest
    if cursor.isAtEdge || cursor.char == '#' then some (found, cursor)
    else if inFlow && cursor.char == '-' && isFlowMark cursor.second then none
    else if word.isEmpty then some (found, cursor)
    else do
      let found := word.reverse ++ gap.text ++ found
      let after := cursor.advance word.length
      let (gap, next) ← Gap.skip? skipEmptyLine? indent (after.rest.length + 1) Gap.empty after
      if next.index = after.index ∨ (!inFlow ∧ (next.column : Int) < indent) then
        some (found, next)
      else plainWords? inFlow indent fuel found gap next

/-- A plain scalar. Its further lines are at least as far in as the indentation. -/
def plain? (inFlow : Bool) (indent : Int) (cursor : Cursor) : Option Scanned := do
  if inFlow ∧ (cursor.column : Int) < indent then none
  else
    let (found, after) ← plainWords? inFlow indent (cursor.rest.length + 1) [] Gap.empty cursor
    return (found.reverse, after)

/-! ## Quoted scalars -/

/-- The characters that escapes of one letter stand for. -/
def letterEscapes : List (Char × Char) :=
  [('0', '\x00'), ('a', '\x07'), ('b', '\x08'), ('t', '\t'), ('\t', '\t'), ('n', '\n'),
    ('v', '\x0b'), ('f', '\x0c'), ('r', '\r'), ('e', '\x1b'), (' ', ' '), ('"', '"'), ('/', '/'),
    ('\\', '\\'), ('N', '\u0085'), ('_', '\u00a0'), ('L', '\u2028'), ('P', '\u2029')]

/-- The number of digits after the letter of an escape by number. -/
def escapeDigits? (letter : Char) : Option Nat :=
  [('x', 2), ('u', 4), ('U', 8)].lookup letter

/-- The number that hexadecimal digits write. -/
def hexNumber? (digits : List Char) : Option Nat :=
  digits.foldlM (fun total c => (Hex.value? c).map (total * 16 + ·)) 0

/-- The character that an escape after its backslash stands for, with the length of the escape. -/
def escape? : List Char → Option (Char × Nat)
  | [] => none
  | letter :: rest =>
    match escapeDigits? letter with
    | none => (letterEscapes.lookup letter).map (·, 1)
    | some count => do
      let number ← hexNumber? (rest.take count)
      if count ≤ rest.length ∧ number.isValidChar then some (Char.ofNat number, count + 1) else none

/-- A word of a quoted scalar, up to white space, a quote or an escaped line break; it is told
whether the latter ends it. The characters found are the last one first. -/
def quotedWord? (quote : Char) : Nat → List Char → Cursor → Option (List Char × Bool × Cursor)
  | 0, found, cursor => some (found, false, cursor)
  | fuel + 1, found, cursor =>
    let c := cursor.char
    if isSpace c then some (found, false, cursor)
    else if c = '\x27' ∧ quote = '\x27' ∧ cursor.second = '\x27' then
      quotedWord? quote fuel (c :: found) (cursor.advance 2)
    else if c = quote then some (found, false, cursor)
    else if c = '\\' ∧ quote = '"' then
      if isBreak cursor.second then some (found, true, cursor.next.skipBreak)
      else do
        let (meant, length) ← escape? (cursor.rest.drop 1)
        quotedWord? quote fuel (meant :: found) (cursor.advance (length + 1))
    else quotedWord? quote fuel (c :: found) cursor.next

/-- The words and gaps of a quoted scalar up to its closing quote; the characters found are the
last one first. -/
def quotedWords? (quote : Char) (indent : Int) : Nat → List Char → Cursor → Option Scanned
  | 0, _, _ => none
  | fuel + 1, found, cursor =>
    if cursor.isAtEdge || cursor.rest.isEmpty || (cursor.column : Int) < indent then none
    else do
      let (found, isEscaped, after) ←
        quotedWord? quote (cursor.rest.length + 1) found cursor
      if after.char = quote then return (found, after.next)
      else
        let (gap, next) ←
          Gap.skip? (fun _ => none) indent (after.rest.length + 1) ⟨[], 0, isEscaped⟩ after
        quotedWords? quote indent fuel (gap.text ++ found) next

/-- A quoted scalar, and the blanks after it. Only what can follow a value or a key may follow. -/
def quoted? (inFlow : Bool) (indent : Int) (cursor : Cursor) : Option Scanned := do
  let (found, closed) ←
    quotedWords? cursor.char indent (cursor.rest.length + 1) [] cursor.next
  let after ← closed.skipBlanks?
  let c := after.char
  let isEnd := isLineEnd c || (inFlow && (c == ',' || c == ']' || c == '\x7d'))
  let isKey := c == ':' && (inFlow || after.line == cursor.line)
  if isEnd || isKey then return (found.reverse, after) else none

/-! ## Block scalars -/

/-- What becomes of the line breaks at the end of a block. -/
inductive Chomping where
  /-- None is kept. -/
  | strip
  /-- One is kept. -/
  | clip
  /-- All are kept. -/
  | keep
deriving DecidableEq

/-- The chomping that a sign asks for. -/
def Chomping.ofSign? (c : Char) : Option Chomping :=
  if c = '+' then some keep else if c = '-' then some strip else none

/-- The sign and the digit at the head of a block, in either order, with the place after them.
The digit says how far in the block is, and is not zero. -/
def blockHead? (cursor : Cursor) : Option (Chomping × Nat × Cursor) :=
  let digit (c : Char) : Nat := c.toNat - '0'.toNat
  match Chomping.ofSign? cursor.char with
  | some chomping =>
    let after := cursor.next
    if !after.char.isDigit then some (chomping, 0, after)
    else if after.char = '0' then none
    else some (chomping, digit after.char, after.next)
  | none =>
    if !cursor.char.isDigit then some (.clip, 0, cursor)
    else if cursor.char = '0' then none
    else
      let after := cursor.next
      match Chomping.ofSign? after.char with
      | some chomping => some (chomping, digit cursor.char, after.next)
      | none => some (.clip, digit cursor.char, after)

/-- Empty lines and the spaces before a line up to an indentation: the number of lines and the
place after them. -/
def skipIndent (indent : Nat) : Nat → Nat → Cursor → Nat × Cursor
  | 0, breaks, cursor => (breaks, cursor)
  | fuel + 1, breaks, cursor =>
    let spaces := (cursor.rest.takeWhile (· == ' ')).length
    let after := cursor.advance (min spaces (indent - cursor.column))
    if isBreak after.char then skipIndent indent fuel (breaks + 1) after.skipBreak
    else (breaks, after)

/-- Empty lines and the spaces before the first line that is not empty: the number of lines, the
most spaces on one of them, and the place after them. -/
def skipFirstIndent : Nat → Nat → Nat → Cursor → Nat × Nat × Cursor
  | 0, breaks, widest, cursor => (breaks, widest, cursor)
  | fuel + 1, breaks, widest, cursor =>
    let after := cursor.skipWhile (· == ' ')
    let widest := max widest after.column
    if isBreak after.char then skipFirstIndent fuel (breaks + 1) widest after.skipBreak
    else (breaks, widest, after)

/-- What has been read of a block. -/
structure Block where
  /-- The characters found, the last one first. -/
  found : List Char
  /-- Whether the last line has ended. -/
  hasEnded : Bool
  /-- The number of empty lines after it. -/
  emptyLines : Nat
  /-- Whether the last line starts with a blank. -/
  isIndented : Bool

/-- The line breaks between the last line and a further one, the last one first. Where neither
starts with a blank, a folded block has a space for a single line break and leaves out the first
one of several. -/
def Block.breaks (block : Block) (isLiteral startsBlank : Bool) : List Char :=
  let empty := List.replicate block.emptyLines '\n'
  if !isLiteral && block.hasEnded && !block.isIndented && !startsBlank then
    if block.emptyLines = 0 then [' '] else empty
  else if block.hasEnded then empty ++ ['\n']
  else empty

/-- The lines of a block that are as far in as its indentation. -/
def blockLines (isLiteral : Bool) (indent : Nat) : Nat → Block → Cursor → Block × Cursor
  | 0, block, cursor => (block, cursor)
  | fuel + 1, block, cursor =>
    if cursor.column ≠ indent ∨ cursor.rest.isEmpty then (block, cursor)
    else
      let startsBlank := isBlank cursor.char
      let line := cursor.rest.takeWhile (!isLineEnd ·)
      let found := line.reverse ++ block.breaks isLiteral startsBlank ++ block.found
      let after := cursor.skipLine
      if after.rest.isEmpty then (⟨found, false, 0, startsBlank⟩, after)
      else
        let (emptyLines, next) := skipIndent indent (after.rest.length + 1) 0 after.skipBreak
        blockLines isLiteral indent fuel ⟨found, true, emptyLines, startsBlank⟩ next

/-- The text of a block. A last line that nothing ends counts as ended. -/
def Block.text (chomping : Chomping) (indent : Nat) (block : Block) (after : Cursor) : List Char :=
  let isCut := after.rest.isEmpty && max indent 1 ≤ after.column
  let ends := (if block.hasEnded then 1 else 0) + (if isCut then 1 else 0)
  let kept :=
    match chomping with
    | .strip => 0
    | .clip => ends
    | .keep => ends + block.emptyLines
  block.found.reverse ++ List.replicate kept '\n'

/-- The text of a block without lines at the end of the file. -/
def emptyBlock (chomping : Chomping) (hasLine : Bool) (emptyLines : Nat) : List Char :=
  match chomping with
  | .strip => []
  | .clip => if hasLine then ['\n'] else []
  | .keep => if hasLine then List.replicate (max 1 emptyLines) '\n' else []

/-- A block scalar inside a given indentation. -/
def block? (indent : Int) (cursor : Cursor) : Option Scanned := do
  let isLiteral := cursor.char == '|'
  let (chomping, digit, head) ← blockHead? cursor.next
  let headEnd ← head.skipBlanks?
  if !isLineEnd headEnd.char then none
  else
    let first := headEnd.skipBreak
    if first.char = '\t' then none
    else
      let fuel := first.rest.length + 1
      let (emptyLines, inner, start) :=
        if digit = 0 then
          let (breaks, widest, start) := skipFirstIndent fuel 0 0 first
          (breaks, max widest (indent + 1).toNat, start)
        else
          let inner := (max indent 0).toNat + digit
          let (breaks, start) := skipIndent inner fuel 0 first
          (breaks, inner, start)
      if start.rest.isEmpty then
        return (emptyBlock chomping (start.line != cursor.line) emptyLines, start)
      else if start.column < inner ∧ indent < start.column then none
      else
        let (block, after) := blockLines isLiteral inner fuel ⟨[], false, emptyLines, false⟩ start
        return (block.text chomping inner after, after)

end FriendGraph.Setting.Yaml
