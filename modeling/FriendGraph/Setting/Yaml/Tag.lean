import FriendGraph.Hex
import FriendGraph.Setting.Yaml.Cursor

/-! # Tags

A tag is an exclamation mark with a name, which may have a handle before it (`!!int`,
`!handle!name`), or a whole name in angle brackets (`!<name>`). A handle stands for what a
directive says of it (`directive?`). In names a character may be written as an escape.
-/

namespace FriendGraph.Setting.Yaml

/-- A tag as it is written. -/
structure Tag where
  handle : String
  name : String
deriving DecidableEq

namespace Tag

/-- The characters of the names of tags in angle brackets. -/
def isVerbatimChar (c : Char) : Bool :=
  c.isAlphanum || c == '-' || "#;/?:@&=+$,_.!~*\x27()[]%".toList.contains c

/-- The characters of all other names of tags. -/
def isShortChar (c : Char) : Bool := isVerbatimChar c && !isFlowMark c && c != '!'

/-- The byte that a percent sign with two digits stands for. -/
def byte? : List Char → Option Nat
  | '%' :: high :: low :: _ => do return (← Hex.value? high) * 16 + (← Hex.value? low)
  | _ => none

/-- The character that an escape stands for, and its length: one byte that is the number of the
character, or the two bytes of that number. -/
def escape? (chars : List Char) : Option (Char × Nat) := do
  let first ← byte? chars
  if first < 128 then return (Char.ofNat first, 3)
  else
    let second ← byte? (chars.drop 3)
    if 192 ≤ first ∧ first < 216 ∧ 128 ≤ second ∧ second < 192 then
      return (Char.ofNat (first * 256 + second), 6)
    else none

/-- The characters of a name, with the place after them. -/
def chars? (kind : Char → Bool) : Nat → Cursor → Option (List Char × Cursor)
  | 0, cursor => some ([], cursor)
  | fuel + 1, cursor =>
    if !kind cursor.char then some ([], cursor)
    else do
      let (c, length) ← if cursor.char = '%' then escape? cursor.rest else some (cursor.char, 1)
      let (further, after) ← chars? kind fuel (cursor.advance length)
      return (c :: further, after)

/-- A handle: an exclamation mark, a name, and an exclamation mark if there is one. -/
def handle? (cursor : Cursor) : Option (List Char × Cursor) :=
  if cursor.char ≠ '!' then none
  else
    let name := cursor.next.rest.takeWhile isNameChar
    let after := cursor.advance (1 + name.length)
    if after.char = '!' then some ('!' :: name ++ ['!'], after.next) else some ('!' :: name, after)

/-- Whether a handle is closed by an exclamation mark of its own. -/
def isClosed (handle : List Char) : Bool := 2 ≤ handle.length && handle.getLast? == some '!'

/-- The parts of a tag. An exclamation mark alone is a name. -/
def parts? (cursor : Cursor) : Option (Tag × Cursor) := do
  let fuel := cursor.rest.length
  if cursor.second = '<' then
    let (name, after) ← chars? isVerbatimChar fuel (cursor.advance 2)
    if after.char = '>' then return (⟨"", String.ofList name⟩, after.next) else none
  else
    let (handle, named) ← handle? cursor
    let (name, after) ← chars? isShortChar fuel named
    if isClosed handle then
      if name.isEmpty then none else return (⟨String.ofList handle, String.ofList name⟩, after)
    else
      let whole := handle.drop 1 ++ name
      if whole.isEmpty then return (⟨"", "!"⟩, after)
      else return (⟨"!", String.ofList whole⟩, after)

/-- A tag, which something has to separate from what follows. -/
def read? (inFlow : Bool) (cursor : Cursor) : Option (Tag × Cursor) :=
  (parts? cursor).filter fun (_, after) => isSpace after.char || (inFlow && isFlowMark after.char)

/-- A handle with the start of names that a directive declares for it. -/
def directive? (cursor : Cursor) : Option (String × String × Cursor) := do
  let (handle, named) ← handle? (cursor.skipWhile isBlank)
  if handle ≠ ['!'] ∧ !isClosed handle then none
  else
    let start := named.skipWhile isBlank
    let fuel := start.rest.length
    if start.char ≠ '!' ∧ !isShortChar start.char then none
    else
      let (name, after) ← chars? isVerbatimChar fuel start
      if isSpace after.char then return (String.ofList handle, String.ofList name, after) else none

end Tag

end FriendGraph.Setting.Yaml
