import FriendGraph.Setting.Environment
import FriendGraph.Setting.Reading

/-! # The spelling of values in the environment

A variable that spells a truth value, an integer or a number is read as one, and where a text is
wanted that value is printed. So the text of the variable is kept exactly if it spells no such value
or is spelled as the value is printed (`Setting.KeepsSpelling`, `Setting.asText?_ofVariable_iff`).
That goes for every text with a character that no number and no truth value has
(`Setting.keepsSpelling_of_not_isNumeral`), as most paths and all addresses have.
-/

namespace FriendGraph.Setting

variable {text : String} {chars : List Char}

/-- The texts that are truth values, in any letter case. -/
def IsTruth (value : String) : Prop :=
  value.map Char.toLower = "true" ∨ value.map Char.toLower = "false"

/-- A text is what is printed for the value that it spells, if it spells one. -/
structure KeepsSpelling (value : String) : Prop where
  /-- Truth values are printed in lower case. -/
  truth : IsTruth value → value = value.map Char.toLower
  /-- Integers are printed without a plus sign and leading zeros. -/
  integer : ∀ found, readInteger? value = some found → value = toString found
  /-- Other numbers are printed with the fewest digits and without an exponent. -/
  number : readInteger? value = none → ∀ found, Decimal.read? value = some found →
    value = (Binary.nearest found).text

/-- A character that numbers and truth values have. -/
def IsNumeralChar (c : Char) : Prop := c.isAlphanum = true ∨ c = '+' ∨ c = '-' ∨ c = '.'

instance : DecidablePred IsNumeralChar := fun _ => inferInstanceAs (Decidable (_ ∨ _ ∨ _ ∨ _))

/-- The characters of a text may be those of a number or a truth value. -/
def IsNumeral (chars : List Char) : Prop := ∀ c ∈ chars, IsNumeralChar c

-- The quantifier runs over the characters of the text, not over all characters.
instance : DecidablePred IsNumeral := fun chars => List.decidableBAll IsNumeralChar chars

/-! ## Characters of numbers and truth values -/

/-- A digit may stand in a numeral. -/
theorem isNumeralChar_of_isDigit {c : Char} (digit : c.isDigit = true) : IsNumeralChar c :=
  .inl (Bool.or_eq_true_iff.mpr (.inr digit))

/-- Whatever is a letter or a digit in lower case may stand in a numeral. -/
theorem isNumeralChar_of_toLower {c : Char} (lowered : c.toLower.isAlphanum = true) :
    IsNumeralChar c := by
  left
  by_cases upper : 'A'.val ≤ c.val ∧ c.val ≤ 'Z'.val
  · have isUpper : c.isUpper = true := decide_eq_true upper
    have isAlpha : c.isAlpha = true := Bool.or_eq_true_iff.mpr (.inl isUpper)
    exact Bool.or_eq_true_iff.mpr (.inl isAlpha)
  · have same : c.toLower = c := dif_neg upper
    rwa [same] at lowered

/-- Digits make a numeral. -/
theorem isNumeral_of_all_isDigit (digits : chars.all Char.isDigit = true) : IsNumeral chars :=
  fun c mem => isNumeralChar_of_isDigit (List.all_eq_true.mp digits c mem)

/-- Letters and digits, in whatever case, make a numeral. -/
theorem isNumeral_of_map_toLower {name : List Char} (alphanumeric : name.all Char.isAlphanum = true)
    (lowered : chars.map Char.toLower = name) : IsNumeral chars := by
  intro c mem
  subst lowered
  exact isNumeralChar_of_toLower (List.all_eq_true.mp alphanumeric _ (List.mem_map_of_mem mem))

/-- A text is a numeral if both its parts are. -/
theorem isNumeral_of_span (p : Char → Bool) (taken : IsNumeral (chars.takeWhile p))
    (dropped : IsNumeral (chars.dropWhile p)) : IsNumeral chars := by
  rw [← List.takeWhile_append_dropWhile (p := p) (l := chars)]
  exact List.forall_mem_append.mpr ⟨taken, dropped⟩

/-- What is read as digits is a numeral. -/
theorem isNumeral_of_readDigits? {value : Nat} (read : readDigits? chars = some value) :
    IsNumeral chars := by
  rw [readDigits?] at read
  split at read
  · cases read
  · next digits =>
    simp only [Bool.or_eq_true, Bool.not_eq_true', not_or, Bool.not_eq_false] at digits
    exact isNumeral_of_all_isDigit digits.2

/-- What is read as an integer with a sign is a numeral. -/
theorem isNumeral_of_readInt? {value : Int} (read : readInt? text = some value) :
    IsNumeral text.toList := by
  rw [readInt?] at read
  split at read
  · next digits signed =>
    obtain ⟨_, read, -⟩ := Option.map_eq_some_iff.mp read
    obtain ⟨_, read, -⟩ := Option.bind_eq_some_iff.mp read
    rw [signed]
    exact List.forall_mem_cons.mpr ⟨.inr (.inr (.inl rfl)), isNumeral_of_readDigits? read⟩
  · next digits signed =>
    obtain ⟨_, read, -⟩ := Option.map_eq_some_iff.mp read
    rw [signed]
    exact List.forall_mem_cons.mpr ⟨.inr (.inl rfl), isNumeral_of_readDigits? read⟩
  · obtain ⟨_, read, -⟩ := Option.map_eq_some_iff.mp read
    exact isNumeral_of_readDigits? read

/-- What is read as an integer is a numeral. -/
theorem isNumeral_of_readInteger? {value : Int} (read : readInteger? text = some value) :
    IsNumeral text.toList :=
  isNumeral_of_readInt? (Option.filter_eq_some_iff.mp read).1

/-- Digits that end, or go on with a point and digits. -/
theorem isNumeral_of_point
    (ends : chars.dropWhile Char.isDigit = [] ∨
      ∃ rest, chars.dropWhile Char.isDigit = '.' :: rest ∧ rest.all Char.isDigit = true) :
    IsNumeral chars := by
  apply isNumeral_of_span Char.isDigit (isNumeral_of_all_isDigit List.all_takeWhile)
  rcases ends with ends | ⟨rest, ends, digits⟩
  · rw [ends]
    exact List.forall_mem_nil _
  · rw [ends]
    exact List.forall_mem_cons.mpr ⟨.inr (.inr (.inr rfl)), isNumeral_of_all_isDigit digits⟩

/-- What is read as a finite number is a numeral. -/
theorem isNumeral_of_finite? {isNegative : Bool} {found : Decimal}
    (read : Decimal.finite? isNegative chars = some found) : IsNumeral chars := by
  simp only [Decimal.finite?] at read
  apply isNumeral_of_span fun c => !(c == 'e' || c == 'E')
  · apply isNumeral_of_point
    split at read <;> obtain ⟨_, -, read⟩ := Option.bind_eq_some_iff.mp read <;> split at read
    · next ends => exact .inl ends
    · next rest ends => exact .inr ⟨rest, ends, (Option.ite_none_right_eq_some.mp read).1⟩
    · cases read
    · next ends => exact .inl ends
    · next rest ends => exact .inr ⟨rest, ends, (Option.ite_none_right_eq_some.mp read).1⟩
    · cases read
  · split at read
    · next ends =>
      rw [ends]
      exact List.forall_mem_nil _
    · next mark rest marked =>
      obtain ⟨exponent, isExponent, -⟩ := Option.bind_eq_some_iff.mp read
      have isMark := List.head?_dropWhile_not (fun c => !(c == 'e' || c == 'E')) chars
      rw [marked] at isMark ⊢
      have letter : mark = 'e' ∨ mark = 'E' := by
        simpa only [List.head?_cons, Bool.not_eq_false', Bool.or_eq_true, beq_iff_eq] using isMark
      refine List.forall_mem_cons.mpr ⟨?_, ?_⟩
      · rcases letter with rfl | rfl <;> exact .inl rfl
      · have numeral := isNumeral_of_readInt? isExponent
        rwa [String.toList_ofList] at numeral

/-- What is read as a named number is a numeral. -/
theorem isNumeral_of_named? {isNegative : Bool} {found : Decimal}
    (read : Decimal.named? isNegative chars = some found) : IsNumeral chars := by
  have isName {name : String} (alphanumeric : name.toList.all Char.isAlphanum = true)
      (lowered : String.ofList (chars.map Char.toLower) = name) : IsNumeral chars := by
    apply isNumeral_of_map_toLower alphanumeric
    rw [← lowered, String.toList_ofList]
  simp only [Decimal.named?] at read
  split at read
  · next infinite =>
    rcases infinite with short | long
    · exact isName rfl short
    · exact isName rfl long
  split at read
  · next undefined => exact isName rfl undefined
  · cases read

/-- What is read as a number is a numeral. -/
theorem isNumeral_of_read? {found : Decimal} (read : Decimal.read? text = some found) :
    IsNumeral text.toList := by
  have unsigned {isNegative : Bool} {rest : List Char}
      (read : (Decimal.named? isNegative rest).or (Decimal.finite? isNegative rest) = some found) :
      IsNumeral rest := by
    rcases Option.or_eq_some_iff.mp read with named | ⟨-, finite⟩
    · exact isNumeral_of_named? named
    · exact isNumeral_of_finite? finite
  simp only [Decimal.read?] at read
  split at read
  · next rest signed =>
    rw [signed]
    exact List.forall_mem_cons.mpr ⟨.inr (.inr (.inl rfl)), unsigned read⟩
  · next rest signed =>
    rw [signed]
    exact List.forall_mem_cons.mpr ⟨.inr (.inl rfl), unsigned read⟩
  · exact unsigned read

/-! ## Printing what was read -/

/-- A text with another character than those of numbers and truth values is kept. -/
theorem keepsSpelling_of_not_isNumeral (other : ¬IsNumeral text.toList) : KeepsSpelling text where
  truth spelled := by
    have isWord {word : String} (alphanumeric : word.toList.all Char.isAlphanum = true)
        (lowered : text.map Char.toLower = word) : False := by
      apply other
      apply isNumeral_of_map_toLower alphanumeric
      rw [← lowered, String.toList_map]
    rcases spelled with isTrue | isFalse
    · exact (isWord rfl isTrue).elim
    · exact (isWord rfl isFalse).elim
  integer found read := absurd (isNumeral_of_readInteger? read) other
  number _ found read := absurd (isNumeral_of_read? read) other

namespace KeepsSpelling

variable {value : String}

/-- A word for a truth value keeps its spelling in lower case only. -/
theorem iff_of_word {word : String} (isWord : word = "true" ∨ word = "false")
    (lowered : value.map Char.toLower = word) : KeepsSpelling value ↔ word = value := by
  have noInteger : readInteger? word = none := by rcases isWord with rfl | rfl <;> decide +kernel
  have noNumber : Decimal.read? word = none := by rcases isWord with rfl | rfl <;> decide +kernel
  constructor
  · intro keeps
    have isTruth : IsTruth value := by rwa [IsTruth, lowered]
    exact lowered.symm.trans (keeps.truth isTruth).symm
  · intro same
    subst same
    exact ⟨fun _ => lowered.symm, by simp [noInteger], by simp [noNumber]⟩

/-- An integer keeps its spelling exactly when that is the one it is printed in. -/
theorem iff_of_integer {found : Int} (noTruth : ¬IsTruth value)
    (isInteger : readInteger? value = some found) :
    KeepsSpelling value ↔ toString found = value := by
  constructor
  · intro keeps
    exact (keeps.integer found isInteger).symm
  · intro printed
    refine ⟨fun spelled => absurd spelled noTruth, ?_, by simp [isInteger]⟩
    intro other read
    cases isInteger.symm.trans read
    exact printed.symm

/-- A number keeps its spelling exactly when that is the one its nearest float is printed in. -/
theorem iff_of_number {found : Decimal} (noTruth : ¬IsTruth value)
    (noInteger : readInteger? value = none) (isNumber : Decimal.read? value = some found) :
    KeepsSpelling value ↔ (Binary.nearest found).text = value := by
  constructor
  · intro keeps
    exact (keeps.number noInteger found isNumber).symm
  · intro printed
    refine ⟨fun spelled => absurd spelled noTruth, by simp [noInteger], ?_⟩
    intro _ other read
    cases isNumber.symm.trans read
    exact printed.symm

/-- What is neither a truth value nor a number keeps its spelling. -/
theorem of_text (noTruth : ¬IsTruth value) (noInteger : readInteger? value = none)
    (noNumber : Decimal.read? value = none) : KeepsSpelling value :=
  ⟨fun spelled => absurd spelled noTruth, by simp [noInteger], by simp [noNumber]⟩

end KeepsSpelling

/-- A text is what is printed for the value of a variable exactly if it is spelled that way. -/
theorem asText?_ofVariable_iff {value : String} :
    (ofVariable value).asText? = some value ↔ KeepsSpelling value := by
  simp only [ofVariable]
  split
  · next isTrue =>
    rw [KeepsSpelling.iff_of_word (.inl rfl) isTrue, asText?, Option.some_inj]
  next notTrue =>
  split
  · next isFalse =>
    rw [KeepsSpelling.iff_of_word (.inr rfl) isFalse, asText?, Option.some_inj]
  next notFalse =>
  have noTruth : ¬IsTruth value := not_or.mpr ⟨notTrue, notFalse⟩
  split
  · next found isInteger =>
    rw [KeepsSpelling.iff_of_integer noTruth isInteger, asText?, Option.some_inj]
  next noInteger =>
  split
  · next found isNumber =>
    rw [KeepsSpelling.iff_of_number noTruth noInteger isNumber, asText?, Option.some_inj]
  · next noNumber =>
    exact iff_of_true rfl (.of_text noTruth noInteger noNumber)

end FriendGraph.Setting
