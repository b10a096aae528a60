/-! # Decimal numbers in texts

The texts that are read as numbers: whole numbers with an optional sign (`readInt?`,
`readNat?`), and decimal numbers with an optional fraction and exponent, or the names of
infinity and of no number (`Decimal.read?`).
-/

namespace FriendGraph

/-- The value of a sequence of decimal digits. -/
def digitsValue (digits : List Char) : Nat :=
  digits.foldl (fun total c => total * 10 + (c.toNat - '0'.toNat)) 0

/-- A nonempty sequence of digits as a number. -/
def readDigits? (chars : List Char) : Option Nat :=
  if chars.isEmpty || !chars.all Char.isDigit then none else some (digitsValue chars)

/-- A natural number of digits, with an optional plus sign. -/
def readNat? (text : String) : Option Nat :=
  match text.toList with
  | '+' :: digits => readDigits? digits
  | digits => readDigits? digits

/-- A whole number of digits, with an optional sign. -/
def readInt? (text : String) : Option Int :=
  match text.toList with
  | '-' :: digits => (readDigits? digits).map fun value => -(value : Int)
  | '+' :: digits => (readDigits? digits).map Int.ofNat
  | digits => (readDigits? digits).map Int.ofNat

/-- A number as it is written in decimal. -/
inductive Decimal where
  /-- The digits times a power of ten. -/
  | finite (isNegative : Bool) (digits : Nat) (exponent : Int)
  | infinite (isNegative : Bool)
  | notANumber
deriving DecidableEq

namespace Decimal

/-- The exponent after its letter: digits with an optional sign. -/
def exponent? (chars : List Char) : Option Int := readInt? (String.ofList chars)

/-- Digits with an optional point among them and an optional exponent. -/
def finite? (isNegative : Bool) (chars : List Char) : Option Decimal := do
  let isMark (c : Char) : Bool := c == 'e' || c == 'E'
  let mantissa := chars.takeWhile (!isMark ·)
  let exponent ←
    match chars.dropWhile (!isMark ·) with
    | [] => some 0
    | _ :: rest => exponent? rest
  let whole := mantissa.takeWhile Char.isDigit
  let fraction ←
    match mantissa.dropWhile Char.isDigit with
    | [] => some []
    | '.' :: rest => if rest.all Char.isDigit then some rest else none
    | _ => none
  let value ← readDigits? (whole ++ fraction)
  return finite isNegative value (exponent - fraction.length)

/-- The names of infinity and of no number, in any letter case. -/
def named? (isNegative : Bool) (chars : List Char) : Option Decimal :=
  let name := String.ofList (chars.map Char.toLower)
  if name = "inf" ∨ name = "infinity" then some (infinite isNegative)
  else if name = "nan" then some notANumber
  else none

/-- The number that a text is. -/
def read? (text : String) : Option Decimal :=
  let unsigned? (isNegative : Bool) (chars : List Char) : Option Decimal :=
    (named? isNegative chars).or (finite? isNegative chars)
  match text.toList with
  | '-' :: rest => unsigned? true rest
  | '+' :: rest => unsigned? false rest
  | rest => unsigned? false rest

end Decimal

end FriendGraph
