import Mathlib.Data.List.TakeWhile
import FriendGraph.Url.Form

/-! # Form-encoded pairs read back

Whatever the names and values are, the pairs that are read from a form-encoded text are those that
were written (`Form.decode?_encode`), so different pairs are written differently
(`Form.encode_inj`). No name and no value can end a pair or start another one, because the marks
between names, values and pairs do not occur in what is written for a character
(`Form.mem_encodeChar`).
-/

namespace FriendGraph.Form

/-! ## Cutting a text at a mark -/

/-- A text is split at the first mark. -/
theorem splitFirst_append (mark : Char) (chars rest : List Char) :
    (splitFirst mark (chars ++ mark :: rest)).1 = chars.takeWhile (· ≠ mark) ∧
      (mark ∉ chars → splitFirst mark (chars ++ mark :: rest) = (chars, some rest)) := by
  induction chars with
  | nil => simp [splitFirst]
  | cons c chars inductionHypothesis =>
    rw [List.cons_append, splitFirst]
    by_cases same : c = mark
    · simp [same]
    · rw [if_neg same, List.takeWhile_cons_of_pos (by simpa using same)]
      refine ⟨congrArg (c :: ·) inductionHypothesis.1, fun absent => ?_⟩
      rw [inductionHypothesis.2 fun later => absent (List.mem_cons_of_mem c later)]

/-- A text is whole exactly when the mark is not in it. -/
theorem splitFirst_snd_eq_none_iff {mark : Char} {chars : List Char} :
    (splitFirst mark chars).2 = none ↔ mark ∉ chars := by
  induction chars with
  | nil => exact iff_of_true rfl List.not_mem_nil
  | cons c rest inductionHypothesis =>
    rw [splitFirst, List.mem_cons, not_or]
    by_cases same : c = mark
    · rw [if_pos same]
      exact iff_of_false nofun fun absent => absent.1 same.symm
    · rw [if_neg same]
      exact inductionHypothesis.trans (and_iff_right (Ne.symm same)).symm

/-- A text without the mark is not split. -/
theorem splitFirst_of_not_mem {mark : Char} {chars : List Char} (absent : mark ∉ chars) :
    splitFirst mark chars = (chars, none) := by
  induction chars with
  | nil => rfl
  | cons c rest inductionHypothesis =>
    rw [List.mem_cons, not_or] at absent
    rw [splitFirst, if_neg (Ne.symm absent.1), inductionHypothesis absent.2]

/-! ## Names and values -/

/-- The characters that are written: plain ones, the plus sign for a space, and escapes. -/
def IsWritten (c : Char) : Prop := isPlain c = true ∨ c = '+' ∨ c = '%'

instance : DecidablePred IsWritten := fun _ => inferInstanceAs (Decidable (_ ∨ _ ∨ _))

theorem isPlain_digit_of_mem_range : ∀ n ∈ List.range 16, isPlain (Percent.digit n) = true := by
  decide

/-- A byte is written with plain characters and the percent sign. -/
theorem mem_encodeByte {byte : UInt8} {c : Char} (written : c ∈ Percent.encodeByte byte) :
    isPlain c = true ∨ c = '%' := by
  have small : byte.toNat < 256 := byte.toNat_lt
  have high := isPlain_digit_of_mem_range (byte.toNat / 16) (List.mem_range.mpr (by omega))
  have low := isPlain_digit_of_mem_range (byte.toNat % 16) (List.mem_range.mpr (by omega))
  simp only [Percent.encodeByte, List.mem_cons, List.not_mem_nil, or_false] at written
  rcases written with rfl | rfl | rfl
  · exact .inr rfl
  · exact .inl high
  · exact .inl low

/-- Nothing else is written for a character than plain characters, a plus sign and escapes. -/
theorem mem_encodeChar {source c : Char} (written : c ∈ encodeChar source) : IsWritten c := by
  unfold encodeChar Percent.encodeChar at written
  split at written
  · exact .inr (.inl (List.mem_singleton.mp written))
  split at written
  · next plain =>
    rw [List.mem_singleton.mp written]
    exact .inl plain
  · obtain ⟨byte, _, inside⟩ := List.mem_flatMap.mp written
    exact (mem_encodeByte inside).imp_right .inr

/-- A mark that is not written does not come up in a written text. -/
theorem not_mem_encodeText {mark : Char} (unwritten : ¬IsWritten mark) (text : String) :
    mark ∉ encodeText text := by
  intro present
  obtain ⟨source, _, written⟩ := List.mem_flatMap.mp present
  exact unwritten (mem_encodeChar written)

/-- A space is read for a plus sign. -/
def unplus (c : Char) : Char := if c = '+' then ' ' else c

/-- The escapes of bytes hold no plus sign. -/
theorem map_unplus_encodeBytes (bytes : List UInt8) :
    (bytes.flatMap Percent.encodeByte).map unplus = bytes.flatMap Percent.encodeByte := by
  have other (c : Char) (written : c ∈ bytes.flatMap Percent.encodeByte) : unplus c = c := by
    obtain ⟨byte, _, inside⟩ := List.mem_flatMap.mp written
    apply if_neg
    rintro rfl
    exact absurd (mem_encodeByte inside) (by decide)
  rw [List.map_congr_left other, List.map_id']

/-- What is written for a character reads as the character, whatever follows. -/
theorem decodeBytes_encodeChar (c : Char) (rest : List Char) :
    Percent.decodeBytes ((encodeChar c).map unplus ++ rest) =
      String.utf8EncodeChar c ++ Percent.decodeBytes rest := by
  unfold encodeChar Percent.encodeChar
  split
  · next space =>
    subst space
    exact Percent.decodeBytes_cons (by decide) rest
  split
  · next plain =>
    have noPlus : c ≠ '+' := by
      rintro rfl
      exact absurd plain (by decide)
    have noEscape : c ≠ '%' := by
      rintro rfl
      exact absurd plain (by decide)
    rw [List.map_singleton, unplus, if_neg noPlus]
    exact Percent.decodeBytes_cons noEscape rest
  · rw [map_unplus_encodeBytes, Percent.decodeBytes_encodeBytes]

/-- Characters are decoded as they were encoded. -/
theorem decodeBytes_encodeChars (chars : List Char) :
    Percent.decodeBytes ((chars.flatMap encodeChar).map unplus) = Percent.utf8 chars := by
  induction chars with
  | nil => rfl
  | cons c rest inductionHypothesis =>
    rw [List.flatMap_cons, List.map_append, decodeBytes_encodeChar, inductionHypothesis]
    rfl

/-- An encoded name or value stands for its text. -/
theorem decodeText?_encodeText (text : String) : decodeText? (encodeText text) = some text := by
  have bytes := decodeBytes_encodeChars text.toList
  exact Percent.ofUtf8?_eq_some_iff.mpr bytes

/-! ## Pairs -/

/-- A pair is decoded as it was encoded. -/
theorem decodePair?_encodePair (pair : String × String) :
    decodePair? (encodePair pair) = some pair := by
  have noMark : '=' ∉ encodeText pair.1 := not_mem_encodeText (by decide) pair.1
  rw [decodePair?, encodePair, (splitFirst_append '=' _ _).2 noMark, decodeText?_encodeText]
  simp only [Option.bind_eq_bind, Option.bind_some, Option.getD_some, decodeText?_encodeText]
  rfl

/-- No pair holds the mark between pairs. -/
theorem not_mem_encodePair (pair : String × String) : '&' ∉ encodePair pair := by
  rw [encodePair, List.mem_append, List.mem_cons, not_or, not_or]
  exact ⟨not_mem_encodeText (by decide) _, by decide, not_mem_encodeText (by decide) _⟩

theorem encodePair_ne_nil (pair : String × String) : encodePair pair ≠ [] :=
  List.append_ne_nil_of_right_ne_nil _ (List.cons_ne_nil _ _)

/-- The written pairs are what stands between the ampersands. -/
theorem splitOn_encode (pairs : List (String × String)) :
    ((encode pairs).splitOn '&').filter (!·.isEmpty) = pairs.map encodePair := by
  cases pairs with
  | nil => rfl
  | cons pair rest =>
    have apart : ∀ written ∈ (pair :: rest).map encodePair, '&' ∉ written := by
      intro written member
      obtain ⟨source, _, rfl⟩ := List.mem_map.mp member
      exact not_mem_encodePair source
    rw [encode, List.splitOn_intercalate '&' apart (List.cons_ne_nil _ _), List.filter_eq_self]
    intro written member
    obtain ⟨source, _, rfl⟩ := List.mem_map.mp member
    rw [List.isEmpty_eq_false_iff.mpr (encodePair_ne_nil source)]
    rfl

/-- Written pairs are read back, in their order. -/
theorem decode?_encode (pairs : List (String × String)) : decode? (encode pairs) = some pairs := by
  have reads : decodePair? ∘ encodePair = pure := funext decodePair?_encodePair
  rw [decode?, splitOn_encode, List.mapM_map, reads]
  exact List.mapM_pure.trans (congrArg some (List.map_id _))

/-- Different pairs are written differently. -/
theorem encode_inj {pairs others : List (String × String)} :
    encode pairs = encode others ↔ pairs = others := by
  refine ⟨fun same => Option.some.inj ?_, fun same => by rw [same]⟩
  rw [← decode?_encode, same, decode?_encode]

end FriendGraph.Form
