/-! # Places in a settings file

A cursor is a place in a text: what is left of the text, how far in the place lies, and where it
lies on its line. A line ends with a line feed, a carriage return, or both in this order. The
end of the text counts as a NUL character, and a NUL character as the end of the text
(`Cursor.ofText`).
-/

namespace FriendGraph.Setting.Yaml

/-! ## Characters -/

/-- Space and tab. -/
def isBlank (c : Char) : Bool := c == ' ' || c == '\t'

/-- The characters that end a line. -/
def isBreak (c : Char) : Bool := c == '\n' || c == '\r'

/-- The ends of lines and the end of the text. -/
def isLineEnd (c : Char) : Bool := isBreak c || c == '\x00'

/-- Whatever separates words: blanks, the ends of lines and the end of the text. -/
def isSpace (c : Char) : Bool := isBlank c || isLineEnd c

/-- The marks of flow mappings and flow sequences. -/
def isFlowMark (c : Char) : Bool :=
  c == ',' || c == '[' || c == ']' || c == '\x7b' || c == '\x7d'

/-- The characters of names: letters, digits, hyphen and underscore. -/
def isNameChar (c : Char) : Bool := c.isAlphanum || c == '-' || c == '_'

/-! ## Cursors -/

/-- A place in a text. -/
structure Cursor where
  rest : List Char
  /-- The number of characters before the place. -/
  index : Nat
  /-- The number of lines before the line of the place. -/
  line : Nat
  /-- The number of characters before the place on its line. -/
  column : Nat
  /-- Whether nothing but blanks stands before the place on its line. -/
  isLeading : Bool

namespace Cursor

/-- The start of a text. -/
def ofText (text : String) : Cursor := ⟨text.toList.takeWhile (· != '\x00'), 0, 0, 0, true⟩

/-- The character at the place. -/
def char (cursor : Cursor) : Char := cursor.rest.headD '\x00'

/-- The character after the one at the place. -/
def second (cursor : Cursor) : Char := (cursor.rest.drop 1).headD '\x00'

/-- The place after the character at the place. A carriage return before a line feed ends no line
of its own. -/
def next (cursor : Cursor) : Cursor :=
  match cursor.rest with
  | [] => cursor
  | c :: rest =>
    if c = '\n' ∨ (c = '\r' ∧ rest.head? ≠ some '\n') then
      ⟨rest, cursor.index + 1, cursor.line + 1, 0, true⟩
    else
      ⟨rest, cursor.index + 1, cursor.line, cursor.column + 1,
        cursor.isLeading && (isBlank c || c == '\r')⟩

/-- The place after so many characters. -/
def advance : Nat → Cursor → Cursor
  | 0, cursor => cursor
  | count + 1, cursor => advance count cursor.next

/-- The place after all characters of a kind. -/
def skipWhile (kind : Char → Bool) (cursor : Cursor) : Cursor :=
  cursor.advance (cursor.rest.takeWhile kind).length

/-- The place after the end of the line, if the line ends at the place. -/
def skipBreak (cursor : Cursor) : Cursor :=
  if cursor.char = '\r' ∧ cursor.second = '\n' then cursor.advance 2
  else if isBreak cursor.char then cursor.next
  else cursor

/-- The place at the end of the line. -/
def skipLine (cursor : Cursor) : Cursor := cursor.skipWhile (!isLineEnd ·)

/-- The blanks at the place. -/
def blanks (cursor : Cursor) : List Char := cursor.rest.takeWhile isBlank

/-- The place after the blanks at the place and the comment after them. A comment without a blank
before it is no comment, and nothing else may start like one. -/
def skipBlanks? (cursor : Cursor) : Option Cursor :=
  let after := cursor.skipWhile isBlank
  if after.char = '#' then
    if cursor.blanks.isEmpty then none else some after.skipLine
  else some after

/-- Whether a mark of three characters at the edge of a document stands at the place. -/
def isAtMark (mark : String) (cursor : Cursor) : Bool :=
  cursor.column == 0 && mark.toList.isPrefixOf cursor.rest && isSpace (cursor.advance 3).char

/-- Whether the edge of a document is at the place. -/
def isAtEdge (cursor : Cursor) : Bool := cursor.isAtMark "---" || cursor.isAtMark "..."

end Cursor

end FriendGraph.Setting.Yaml
