import FriendGraph.Hex

/-! # JSON values and their text

A JSON value keeps what its text says: a number its literal, an object its members in order
with repeated names. A string is a text unless one of its escapes is half of a surrogate pair;
such a string is grammatical but stands for no text (`none`).

Writing escapes the quote, the backslash and the control characters below the space, and puts
no blanks.
-/

namespace FriendGraph

/-- A JSON value. -/
inductive Json where
  | null
  | bool (value : Bool)
  /-- A number with its literal. -/
  | number (literal : List Char)
  /-- A string with its text, if it stands for one. -/
  | string (text : Option String)
  | array (items : List Json)
  /-- An object with its members in order. -/
  | object (members : List (Option String × Json))

namespace Json

/-- A string that stands for a text. -/
def ofString (text : String) : Json := string (some text)

/-- The number of an integer. -/
def ofInt (value : Int) : Json := number (toString value).toList

/-- An object with the given members. -/
def ofMembers (members : List (String × Json)) : Json :=
  object (members.map fun member => (some member.1, member.2))

/-- A character inside a written string. -/
def escapeChar (c : Char) : List Char :=
  if c = '"' then ['\\', '"']
  else if c = '\\' then ['\\', '\\']
  else if c = '\x08' then ['\\', 'b']
  else if c = '\t' then ['\\', 't']
  else if c = '\n' then ['\\', 'n']
  else if c = '\x0c' then ['\\', 'f']
  else if c = '\r' then ['\\', 'r']
  else if c < ' ' then
    ['\\', 'u', '0', '0', Hex.digit (c.toNat / 16), Hex.digit (c.toNat % 16)]
  else [c]

/-- A written string, with its quotes. -/
def renderString (text : String) : List Char :=
  '"' :: (text.toList.flatMap escapeChar ++ ['"'])

mutual

/-- The text of a value, without blanks. -/
def render : Json → List Char
  | null => "null".toList
  | bool true => "true".toList
  | bool false => "false".toList
  | number literal => literal
  | string text => renderString (text.getD "")
  | array items => '[' :: (renderItems items ++ [']'])
  | object members => '\x7b' :: (renderMembers members ++ ['\x7d'])

/-- The items of an array, separated by commas. -/
def renderItems : List Json → List Char
  | [] => []
  | [item] => render item
  | item :: rest => render item ++ ',' :: renderItems rest

/-- The members of an object, separated by commas. -/
def renderMembers : List (Option String × Json) → List Char
  | [] => []
  | [(name, value)] => renderString (name.getD "") ++ ':' :: render value
  | (name, value) :: rest =>
    renderString (name.getD "") ++ ':' :: (render value ++ ',' :: renderMembers rest)

end

/-- The text of a value. -/
def text (value : Json) : String := String.ofList value.render

end Json

end FriendGraph
