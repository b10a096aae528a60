import FriendGraph.Hex

/-! # Percent-encoding

A character outside the set that may stand as it is becomes a percent sign and two upper-case
digits for each byte of its UTF-8 form. Reading turns every percent sign with two digits after
it into a byte (`decodeBytes_encodeBytes`) and takes the UTF-8 form of all else
(`decodeBytes_cons`).
-/

namespace FriendGraph.Percent

/-- The UTF-8 form of a text. -/
def utf8 (chars : List Char) : List UInt8 := chars.flatMap String.utf8EncodeChar

/-- The text of which a byte string is the UTF-8 form. -/
def ofUtf8? (bytes : List UInt8) : Option String := String.fromUTF8? ⟨bytes.toArray⟩

/-- An upper-case hexadecimal digit. -/
def digit (value : Nat) : Char := (Hex.digit value).toUpper

/-- A byte as a percent sign and two digits. -/
def encodeByte (byte : UInt8) : List Char :=
  ['%', digit (byte.toNat / 16), digit (byte.toNat % 16)]

/-- A character, as it is when it may stand so, byte by byte otherwise. -/
def encodeChar (keeps : Char → Bool) (c : Char) : List Char :=
  if keeps c then [c] else (String.utf8EncodeChar c).flatMap encodeByte

/-- A text with all characters encoded that may not stand as they are. -/
def encode (keeps : Char → Bool) (chars : List Char) : List Char :=
  chars.flatMap (encodeChar keeps)

/-- The bytes that a text stands for. -/
def decodeBytes : List Char → List UInt8
  | [] => []
  | '%' :: high :: low :: rest =>
    match Hex.value? high, Hex.value? low with
    | some first, some second => UInt8.ofNat (first * 16 + second) :: decodeBytes rest
    | _, _ => String.utf8EncodeChar '%' ++ decodeBytes (high :: low :: rest)
  | c :: rest => String.utf8EncodeChar c ++ decodeBytes rest

/-- The text that a percent-encoded text stands for, when its bytes are UTF-8. -/
def decode? (chars : List Char) : Option String := ofUtf8? (decodeBytes chars)

/-- A text reads back from its UTF-8 form and from no other bytes. -/
theorem ofUtf8?_eq_some_iff {bytes : List UInt8} {text : String} :
    ofUtf8? bytes = some text ↔ bytes = utf8 text.toList := by
  have encoded : (⟨bytes.toArray⟩ : ByteArray) = text.toByteArray ↔ bytes = utf8 text.toList := by
    rw [← String.utf8Encode_toList, List.utf8Encode, utf8, ByteArray.ext_iff,
      List.data_toByteArray]
    exact ⟨fun same => congrArg Array.toList same, fun same => congrArg List.toArray same⟩
  rw [ofUtf8?, String.fromUTF8?, ← encoded]
  split
  · next valid =>
    rw [Option.some.injEq]
    exact ⟨fun same => same ▸ rfl, fun same => String.toByteArray_inj.mp same⟩
  · next invalid =>
    refine iff_of_false (fun same => nomatch same) fun same => invalid ?_
    rw [same]
    exact text.isValidUTF8

/-- An encoded byte reads as that byte. -/
theorem decodeBytes_encodeByte (byte : UInt8) (rest : List Char) :
    decodeBytes (encodeByte byte ++ rest) = byte :: decodeBytes rest := by
  have small : byte.toNat < 256 := byte.toNat_lt
  have whole : byte.toNat / 16 * 16 + byte.toNat % 16 = byte.toNat := by omega
  simp only [encodeByte, List.cons_append, List.nil_append, decodeBytes, digit,
    (Hex.value?_digit (show byte.toNat / 16 < 16 by omega)).2,
    (Hex.value?_digit (show byte.toNat % 16 < 16 by omega)).2, whole, UInt8.ofNat_toNat]

/-- Bytes are decoded as they were encoded, whatever stands after them. -/
theorem decodeBytes_encodeBytes (bytes : List UInt8) (rest : List Char) :
    decodeBytes (bytes.flatMap encodeByte ++ rest) = bytes ++ decodeBytes rest := by
  induction bytes with
  | nil => rfl
  | cons byte more inductionHypothesis =>
    rw [List.flatMap_cons, List.append_assoc, decodeBytes_encodeByte, inductionHypothesis]
    rfl

/-- A character that is no percent sign reads as its UTF-8 form. -/
theorem decodeBytes_cons {c : Char} (plain : c ≠ '%') (rest : List Char) :
    decodeBytes (c :: rest) = String.utf8EncodeChar c ++ decodeBytes rest := by
  rw [decodeBytes]
  intro _ _ _ same
  exact absurd same plain

end FriendGraph.Percent
