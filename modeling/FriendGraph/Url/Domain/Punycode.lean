/-! # Labels in ASCII

A label with characters beyond ASCII has a form in ASCII: the characters of ASCII in it, and
after the last hyphen a sequence of numbers that says which further characters stand where.
Each number has as many digits as it needs, in base 36, and which digit ends a number depends
on a bias that follows the numbers before (`decode?`).
-/

namespace FriendGraph.Url.Domain.Punycode

/-- The value of a digit: letters, and then the ten usual digits. -/
def digit? (c : Char) : Option Nat :=
  if c.isLower then some (c.toNat - 'a'.toNat)
  else if c.isUpper then some (c.toNat - 'A'.toNat)
  else if c.isDigit then some (c.toNat - '0'.toNat + 26)
  else none

/-- The value that a digit in a place has to be below to be the last one. -/
def threshold (bias place : Nat) : Nat := max 1 (min 26 (place - bias))

/-- A number, and what stands after it. -/
def number? (bias : Nat) : Nat → Nat → Nat → List Char → Option (Nat × List Char)
  | _, _, _, [] => none
  | place, weight, total, c :: rest => do
    let digit ← digit? c
    let last := threshold bias place
    let sum := total + digit * weight
    if digit < last then return (sum, rest)
    else number? bias (place + 36) (weight * (36 - last)) sum rest

/-- The bias that comes of a number, with so many steps for making it small. -/
def settle : Nat → Nat → Nat → Nat
  | 0, base, delta => base + 36 * delta / (delta + 38)
  | fuel + 1, base, delta =>
    if delta ≤ 455 then base + 36 * delta / (delta + 38) else settle fuel (base + 36) (delta / 35)

/-- The bias after a number that made the label as long as it says. -/
def adapt (delta count : Nat) (isFirst : Bool) : Nat :=
  let damped := if isFirst then delta / 700 else delta / 2
  settle (delta.log2 + 1) 0 (damped + damped / count)

/-- The label with the characters that a sequence of numbers adds, from a bias, the number of the
character before and the place after it on. -/
def extend? : Nat → Bool → Nat → Nat → Nat → List Char → List Char → Option (List Char)
  | _, _, _, _, _, label, [] => some label
  | 0, _, _, _, _, _, _ => none
  | fuel + 1, isFirst, bias, code, place, label, digits => do
    let (delta, rest) ← number? bias 36 1 0 digits
    let count := label.length + 1
    let code := code + (place + delta) / count
    let place := (place + delta) % count
    if code.isValidChar then
      let longer := label.take place ++ Char.ofNat code :: label.drop place
      extend? fuel false (adapt delta count isFirst) code (place + 1) longer rest
    else none

/-- The label that a form in ASCII stands for. -/
def decode? (chars : List Char) : Option (List Char) :=
  let tail := (chars.reverse.takeWhile (· != '-')).reverse
  let plain := (chars.take (chars.length - tail.length)).dropLast
  if plain.isEmpty ∧ chars.contains '-' then none
  else extend? tail.length true 72 128 0 plain tail

end FriendGraph.Url.Domain.Punycode
