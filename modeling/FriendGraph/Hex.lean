/-! # Hexadecimal text of byte strings

A byte is written as two lower-case digits, the high half first. Reading takes either letter case
(`value?_digit`), a whole number of bytes and nothing else; what was written reads back
(`decode?_encode`).
-/

namespace FriendGraph.Hex

/-- The sixteen digits in order of value. -/
def digits : List Char := "0123456789abcdef".toList

/-- The digit of a half byte. -/
def digit (value : Nat) : Char := digits.getD value '0'

/-- The value of a digit in either letter case. -/
def value? (c : Char) : Option Nat := digits.findIdx? (· == c.toLower)

/-- The two digits of a byte. -/
def byteChars (byte : UInt8) : List Char := [digit (byte.toNat / 16), digit (byte.toNat % 16)]

/-- The digits of a byte string. -/
def encodeChars (bytes : List UInt8) : List Char := bytes.flatMap byteChars

/-- The byte string that a sequence of digits stands for. -/
def decodeChars? : List Char → Option (List UInt8)
  | [] => some []
  | [_] => none
  | high :: low :: rest => do
    let high ← value? high
    let low ← value? low
    let bytes ← decodeChars? rest
    return UInt8.ofNat (high * 16 + low) :: bytes

/-- The text of a byte string. -/
def encode (bytes : List UInt8) : String := String.ofList (encodeChars bytes)

/-- The byte string of a text of digit pairs. -/
def decode? (text : String) : Option (List UInt8) := decodeChars? text.toList

/-- A digit has its value in either letter case. -/
theorem value?_digit {n : Nat} (small : n < 16) :
    value? (digit n) = some n ∧ value? (digit n).toUpper = some n := by
  have each : ∀ n ∈ List.range 16,
      value? (digit n) = some n ∧ value? (digit n).toUpper = some n := by decide
  exact each n (List.mem_range.mpr small)

/-- The digits of a byte string stand for that byte string. -/
theorem decodeChars?_encodeChars (bytes : List UInt8) :
    decodeChars? (encodeChars bytes) = some bytes := by
  induction bytes with
  | nil => rfl
  | cons byte rest inductionHypothesis =>
    have small : byte.toNat < 256 := byte.toNat_lt
    have step : encodeChars (byte :: rest)
        = digit (byte.toNat / 16) :: digit (byte.toNat % 16) :: encodeChars rest := rfl
    rw [step, decodeChars?, (value?_digit (by omega)).1, (value?_digit (by omega)).1,
      inductionHypothesis]
    have whole : byte.toNat / 16 * 16 + byte.toNat % 16 = byte.toNat := by omega
    simp only [Option.bind_eq_bind, Option.bind_some, whole, UInt8.ofNat_toNat]
    rfl

/-- Reading a written byte string gives it back. -/
theorem decode?_encode (bytes : List UInt8) : decode? (encode bytes) = some bytes := by
  simp [decode?, encode, decodeChars?_encodeChars]

end FriendGraph.Hex
