import FriendGraph.Json

/-! # Reading JSON

`Json.parse?` reads a text that is one JSON value with blanks around it, and nothing else. The
grammar is the strict one: no comments, no trailing commas, no leading zeros, no control
characters inside strings. An escape `\u` with any four digits is grammatical; whether the
escapes of a string make up a text is decided when the string is put together (`assemble?`).
-/

namespace FriendGraph.Json

/-- Space, tab, line feed and carriage return. -/
def isBlank (c : Char) : Bool := c == ' ' || c == '\t' || c == '\n' || c == '\r'

/-- A text from its first character that is no blank. -/
def skipBlanks (chars : List Char) : List Char := chars.dropWhile isBlank

/-! ## Strings -/

/-- One element of a written string: a character, or the sixteen-bit unit of a `\u` escape. -/
inductive Piece where
  | char (c : Char)
  | unit (value : Nat)

/-- The character that a one-letter escape stands for. -/
def escaped? (c : Char) : Option Char :=
  if c = '"' then some '"'
  else if c = '\\' then some '\\'
  else if c = '/' then some '/'
  else if c = 'b' then some '\x08'
  else if c = 'f' then some '\x0c'
  else if c = 'n' then some '\n'
  else if c = 'r' then some '\r'
  else if c = 't' then some '\t'
  else none

/-- The value of four hexadecimal digits. -/
def unitOf? (a b c d : Char) : Option Nat := do
  let first ← Hex.value? a
  let second ← Hex.value? b
  let third ← Hex.value? c
  let fourth ← Hex.value? d
  return ((first * 16 + second) * 16 + third) * 16 + fourth

/-- The elements of a string up to its closing quote, and what stands after it. -/
def pieces? : List Char → Option (List Piece × List Char)
  | [] => none
  | '"' :: rest => some ([], rest)
  | '\\' :: 'u' :: a :: b :: c :: d :: rest => do
    let value ← unitOf? a b c d
    let (later, after) ← pieces? rest
    return (.unit value :: later, after)
  | '\\' :: c :: rest => do
    let char ← escaped? c
    let (later, after) ← pieces? rest
    return (.char char :: later, after)
  | c :: rest =>
    if c < ' ' then none
    else do
      let (later, after) ← pieces? rest
      return (.char c :: later, after)

/-- Whether a unit is the first half of a surrogate pair. -/
def isHighHalf (value : Nat) : Bool := 0xD800 ≤ value && value < 0xDC00

/-- Whether a unit is the second half of a surrogate pair. -/
def isLowHalf (value : Nat) : Bool := 0xDC00 ≤ value && value < 0xE000

/-- The text that the elements of a string make up, unless a half of a pair is left alone. -/
def assemble? : List Piece → Option (List Char)
  | [] => some []
  | .char c :: rest => do return c :: (← assemble? rest)
  | .unit high :: .unit low :: rest =>
    if isHighHalf high then
      if isLowHalf low then do
        let char := Char.ofNat (0x10000 + (high - 0xD800) * 0x400 + (low - 0xDC00))
        return char :: (← assemble? rest)
      else none
    else if isLowHalf high then none
    else do return Char.ofNat high :: (← assemble? (.unit low :: rest))
  | .unit value :: rest =>
    if isHighHalf value || isLowHalf value then none
    else do return Char.ofNat value :: (← assemble? rest)

/-- The string after an opening quote, and what stands after it. -/
def string? (chars : List Char) : Option (Option String × List Char) := do
  let (pieces, rest) ← pieces? chars
  return ((assemble? pieces).map String.ofList, rest)

/-! ## Numbers -/

/-- A nonempty run of digits, and what stands after it. -/
def digits? (chars : List Char) : Option (List Char × List Char) :=
  match chars.takeWhile Char.isDigit with
  | [] => none
  | digits => some (digits, chars.dropWhile Char.isDigit)

/-- The whole part of a number: a zero alone or digits that start with another one. -/
def whole? (chars : List Char) : Option (List Char × List Char) := do
  let (digits, rest) ← digits? chars
  if digits.head? = some '0' ∧ 1 < digits.length then none else some (digits, rest)

/-- A fraction, if a point follows. -/
def fraction? (chars : List Char) : Option (List Char × List Char) :=
  match chars with
  | '.' :: rest => do
    let (digits, after) ← digits? rest
    return ('.' :: digits, after)
  | _ => some ([], chars)

/-- An exponent, if its letter follows. -/
def exponent? (chars : List Char) : Option (List Char × List Char) :=
  match chars with
  | letter :: rest =>
    if letter = 'e' ∨ letter = 'E' then
      match rest with
      | sign :: more =>
        if sign = '+' ∨ sign = '-' then do
          let (digits, after) ← digits? more
          return (letter :: sign :: digits, after)
        else do
          let (digits, after) ← digits? rest
          return (letter :: digits, after)
      | [] => none
    else some ([], chars)
  | [] => some ([], [])

/-- The literal of a number, and what stands after it. -/
def number? (chars : List Char) : Option (List Char × List Char) := do
  let (sign, unsigned) :=
    match chars with
    | '-' :: rest => (['-'], rest)
    | _ => ([], chars)
  let (whole, afterWhole) ← whole? unsigned
  let (fraction, afterFraction) ← fraction? afterWhole
  let (exponent, after) ← exponent? afterFraction
  return (sign ++ whole ++ fraction ++ exponent, after)

/-! ## Values -/

mutual

/-- The value at the start of a text, and what stands after it. Every value, item and member
costs one unit of fuel. -/
def value? : Nat → List Char → Option (Json × List Char)
  | 0, _ => none
  | fuel + 1, chars =>
    match skipBlanks chars with
    | 'n' :: 'u' :: 'l' :: 'l' :: rest => some (.null, rest)
    | 't' :: 'r' :: 'u' :: 'e' :: rest => some (.bool true, rest)
    | 'f' :: 'a' :: 'l' :: 's' :: 'e' :: rest => some (.bool false, rest)
    | '"' :: rest => (string? rest).map fun read => (.string read.1, read.2)
    | '[' :: rest =>
      match skipBlanks rest with
      | ']' :: after => some (.array [], after)
      | more => (items? fuel more).map fun read => (.array read.1, read.2)
    | '\x7b' :: rest =>
      match skipBlanks rest with
      | '\x7d' :: after => some (.object [], after)
      | more => (members? fuel more).map fun read => (.object read.1, read.2)
    | more => (number? more).map fun read => (.number read.1, read.2)

/-- The items of an array from the first of them to its closing bracket. -/
def items? : Nat → List Char → Option (List Json × List Char)
  | 0, _ => none
  | fuel + 1, chars => do
    let (item, afterItem) ← value? fuel chars
    match skipBlanks afterItem with
    | ']' :: after => return ([item], after)
    | ',' :: more =>
      let (later, after) ← items? fuel more
      return (item :: later, after)
    | _ => none

/-- The members of an object from the first of them to its closing brace. -/
def members? : Nat → List Char → Option (List (Option String × Json) × List Char)
  | 0, _ => none
  | fuel + 1, chars =>
    match skipBlanks chars with
    | '"' :: rest => do
      let (name, afterName) ← string? rest
      match skipBlanks afterName with
      | ':' :: more =>
        let (value, afterValue) ← value? fuel more
        match skipBlanks afterValue with
        | '\x7d' :: after => return ([(name, value)], after)
        | ',' :: further =>
          let (later, after) ← members? fuel further
          return ((name, value) :: later, after)
        | _ => none
      | _ => none
    | _ => none

end

/-- The value that a text is; twice its length is more fuel than its values, items and members
need. -/
def parse? (text : String) : Option Json := do
  let (value, rest) ← value? (2 * text.length + 2) text.toList
  if (skipBlanks rest).isEmpty then some value else none

/-- The text of a string that stands for one. -/
def asText? : Json → Option String
  | string text => text
  | _ => none

/-- The value of a member of an object: absent, present once, or repeated (`none`). -/
def member? (name : String) (members : List (Option String × Json)) : Option (Option Json) :=
  match members.filter fun candidate => candidate.1 == some name with
  | [] => some none
  | [found] => some (some found.2)
  | _ => none

end FriendGraph.Json
