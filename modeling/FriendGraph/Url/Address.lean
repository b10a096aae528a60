import FriendGraph.Hex

/-! # Numeric addresses

A host that ends in a number is an address of four bytes, written as up to four numbers in
decimal, octal or hexadecimal, the last of which fills up the rest (`Ipv4.read?`). An address of
sixteen bytes is written as eight pieces of up to four hexadecimal digits, the last two of which may
be written as four decimal numbers; two colons stand once for one or more pieces that are zero
(`Ipv6.read?`).
-/

namespace FriendGraph.Url

/-- The number that digits to a base write. -/
def digitsToBase? (base : Nat) (digits : List Char) : Option Nat :=
  digits.foldlM
    (fun total c => do
      let digit ← Hex.value? c
      if digit < base then some (total * base + digit) else none)
    0

namespace Ipv4

/-- The value of a part: hexadecimal after `0x`, octal after `0`, else decimal. -/
def part? (chars : List Char) : Option Nat :=
  match chars with
  | [] => none
  | '0' :: 'x' :: digits => digitsToBase? 16 digits
  | '0' :: 'X' :: digits => digitsToBase? 16 digits
  | '0' :: digits => digitsToBase? 8 digits
  | digits => digitsToBase? 10 digits

/-- The parts of a host, without the empty one after a final dot. -/
def parts (host : List Char) : List (List Char) :=
  let all := host.splitOn '.'
  if 1 < all.length ∧ all.getLast? = some [] then all.dropLast else all

/-- Whether the last part is a number, so that the host has to be an address. -/
def endsInNumber (host : List Char) : Bool :=
  match (parts host).getLast? with
  | some part => !part.isEmpty && (part.all Char.isDigit || (part? part).isSome)
  | none => false

/-- The number of the address that a host is. -/
def read? (host : List Char) : Option Nat := do
  let values ← (parts host).mapM part?
  let leading := values.dropLast
  let last ← values.getLast?
  if 3 < leading.length ∨ leading.any (256 ≤ ·) ∨ Nat.pow 256 (4 - leading.length) ≤ last then none
  else
    let start := leading.foldl (fun total part => total * 256 + part) 0
    return start * Nat.pow 256 (4 - leading.length) + last

/-- A decimal number below 256 without a leading zero. -/
def byte? (digits : List Char) : Option Nat :=
  if digits.isEmpty ∨ 3 < digits.length ∨ (digits.head? = some '0' ∧ digits ≠ ['0']) then none
  else (digitsToBase? 10 digits).filter (· < 256)

/-- The two pieces that four decimal numbers with dots between them are. -/
def pieces? (chars : List Char) : Option (List Nat) := do
  match ← (chars.splitOn '.').mapM byte? with
  | [first, second, third, fourth] => return [first * 256 + second, third * 256 + fourth]
  | _ => none

/-- An address as four decimal numbers. -/
def text (number : Nat) : String :=
  ".".intercalate ([24, 16, 8, 0].map fun shift => toString (number / Nat.pow 2 shift % 256))

end Ipv4

namespace Ipv6

/-- The number of pieces of an address. -/
def length : Nat := 8

/-- A piece: one to four hexadecimal digits. -/
def piece? (digits : List Char) : Option Nat :=
  if digits.isEmpty ∨ 4 < digits.length then none else digitsToBase? 16 digits

/-- The pieces of a part of an address, the last of which may be written in decimal. -/
def pieces? (mayEndInDecimal : Bool) (chars : List Char) : Option (List Nat) := do
  if chars.isEmpty then return []
  else
    let written := chars.splitOn ':'
    let last := written.getLast?.getD []
    if mayEndInDecimal ∧ last.contains '.' then
      return (← written.dropLast.mapM piece?) ++ (← Ipv4.pieces? last)
    else written.mapM piece?

/-- A text cut at the first two colons. -/
def cut : List Char → List Char × Option (List Char)
  | [] => ([], none)
  | ':' :: ':' :: rest => ([], some rest)
  | c :: rest =>
    let (before, after) := cut rest
    (c :: before, after)

/-- The pieces of the address that a text is. -/
def read? (chars : List Char) : Option (List Nat) := do
  match cut chars with
  | (whole, none) => (← pieces? true whole) |> fun pieces =>
    if pieces.length = length then return pieces else none
  | (before, some after) =>
    let first ← pieces? false before
    let last ← pieces? true after
    if first.length + last.length < length then
      return first ++ List.replicate (length - first.length - last.length) 0 ++ last
    else none

/-- How many pieces from a place on are zero. -/
def zerosFrom (pieces : List Nat) (place : Nat) : Nat :=
  ((pieces.drop place).takeWhile (· == 0)).length

/-- The place of the longest run of zeros, of the first one if there are several. -/
def longestZeros (pieces : List Nat) : Nat :=
  (List.range pieces.length).foldl
    (fun best place => if zerosFrom pieces best < zerosFrom pieces place then place else best) 0

/-- An address in hexadecimal, with two colons for the longest run of zeros, unless that is one
piece. -/
def text (pieces : List Nat) : String :=
  let write (part : List Nat) : String :=
    ":".intercalate (part.map fun piece => String.ofList (Nat.toDigits 16 piece))
  let place := longestZeros pieces
  let zeros := zerosFrom pieces place
  if zeros < 2 then write pieces
  else write (pieces.take place) ++ "::" ++ write (pieces.drop (place + zeros))

end Ipv6

end FriendGraph.Url
