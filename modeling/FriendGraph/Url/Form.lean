import FriendGraph.Url.Percent

/-! # Form-encoded pairs

A list of names with values is written `name=value&name=value`: letters, digits and `*-._`
stand as they are, a space becomes a plus sign and all else is percent-encoded. Reading splits
at ampersands and then at the first equals sign, turns plus signs into spaces and decodes.
-/

namespace FriendGraph.Form

/-- Letters, digits and `*-._`. -/
def isPlain (c : Char) : Bool :=
  c.isAlphanum || c == '*' || c == '-' || c == '.' || c == '_'

/-- A character in a name or a value. -/
def encodeChar (c : Char) : List Char :=
  if c = ' ' then ['+'] else Percent.encodeChar isPlain c

/-- A name or a value. -/
def encodeText (text : String) : List Char := text.toList.flatMap encodeChar

/-- A name with its value. -/
def encodePair (pair : String × String) : List Char :=
  encodeText pair.1 ++ '=' :: encodeText pair.2

/-- Pairs joined by ampersands. -/
def encode (pairs : List (String × String)) : List Char :=
  ['&'].intercalate (pairs.map encodePair)

/-- A text cut at the first occurrence of a character, with what stands after it. -/
def splitFirst (mark : Char) : List Char → List Char × Option (List Char)
  | [] => ([], none)
  | c :: rest =>
    if c = mark then ([], some rest)
    else
      let split := splitFirst mark rest
      (c :: split.1, split.2)

/-- The text that an encoded name or value stands for. -/
def decodeText? (chars : List Char) : Option String :=
  Percent.decode? (chars.map fun c => if c = '+' then ' ' else c)

/-- The pair that a written pair stands for; without an equals sign the value is empty. -/
def decodePair? (chars : List Char) : Option (String × String) := do
  let split := splitFirst '=' chars
  let name ← decodeText? split.1
  let value ← decodeText? (split.2.getD [])
  return (name, value)

/-- The pairs that a form-encoded text stands for; nothing between two ampersands is no pair. -/
def decode? (chars : List Char) : Option (List (String × String)) :=
  ((chars.splitOn '&').filter (!·.isEmpty)).mapM decodePair?

end FriendGraph.Form
