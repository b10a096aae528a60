import FriendGraph.Proofs.Grammar

/-! # Written JSON reads back

What is written for a value reads as that value and as nothing else (`Json.parse?_text`), as long as
the value is one that is written at all: its strings and names are texts and its numbers are
integers (`Json.Written`). The written text is one of the many that the grammar has for the value
(`Json.Written.spells`): it has no blanks, and a character of a string is written as it is, after a
backslash or as an escape of four digits (`Json.exists_spellsPiece_escapeChar`), so no text can end
its string early, whatever stands in it.
-/

namespace FriendGraph.Json

/-! ## Strings -/

/-- A control character is written with four digits. -/
theorem toNat_lt_of_control {c : Char} (control : c < ' ') : c.toNat < 32 := by
  rw [Char.lt_def, UInt32.lt_iff_toNat_lt] at control
  exact control

/-- The escape of a small unit is read as that unit. -/
theorem unitOf?_digits {n : Nat} (small : n < 256) :
    unitOf? '0' '0' (Hex.digit (n / 16)) (Hex.digit (n % 16)) = some n := by
  have zero : Hex.value? '0' = some 0 := by decide
  rw [unitOf?, zero, (Hex.value?_digit (by omega)).1, (Hex.value?_digit (by omega)).1]
  exact congrArg some (by omega)

/-- A character is put together as it is. -/
theorem assemble?_char (c : Char) (pieces : List Piece) :
    assemble? (.char c :: pieces) = (assemble? pieces).map (c :: ·) := by
  rw [assemble?]
  cases assemble? pieces <;> rfl

/-- A unit below the surrogates stands for its character. -/
theorem assemble?_unit {n : Nat} (small : n < 0xD800) (pieces : List Piece) :
    assemble? (.unit n :: pieces) = (assemble? pieces).map (Char.ofNat n :: ·) := by
  have noHigh : isHighHalf n = false := by
    rw [isHighHalf, decide_eq_false (by omega), Bool.false_and]
  have noLow : isLowHalf n = false := by
    rw [isLowHalf, decide_eq_false (by omega), Bool.false_and]
  match pieces with
  | [] => simp [assemble?, noHigh, noLow]
  | .char c :: rest =>
    simp only [assemble?, noHigh, noLow]
    cases assemble? rest <;> rfl
  | .unit m :: rest =>
    rw [assemble?, noHigh, noLow]
    cases assemble? (.unit m :: rest) <;> rfl

/-- What is written for a character is one of its spellings. -/
theorem exists_spellsPiece_escapeChar (c : Char) :
    ∃ piece, SpellsPiece piece (escapeChar c) ∧
      ∀ pieces, assemble? (piece :: pieces) = (assemble? pieces).map (c :: ·) := by
  have letter : ∀ {letter}, escaped? letter = some c →
      ∃ piece, SpellsPiece piece ['\\', letter] ∧
        ∀ pieces, assemble? (piece :: pieces) = (assemble? pieces).map (c :: ·) :=
    fun means => ⟨.char c, .letter means, assemble?_char c⟩
  unfold escapeChar
  split
  · next same => exact letter (by rw [same]; rfl)
  split
  · next same => exact letter (by rw [same]; rfl)
  split
  · next same => exact letter (same ▸ rfl)
  split
  · next same => exact letter (same ▸ rfl)
  split
  · next same => exact letter (same ▸ rfl)
  split
  · next same => exact letter (same ▸ rfl)
  split
  · next same => exact letter (same ▸ rfl)
  split
  · next control =>
    have small := toNat_lt_of_control control
    refine ⟨.unit c.toNat, .digits (unitOf?_digits (by omega)), fun pieces => ?_⟩
    rw [assemble?_unit (by omega), Char.ofNat_toNat]
  · next noQuote noBackslash _ _ _ _ _ noControl =>
    exact ⟨.char c, .plain noQuote noBackslash noControl, assemble?_char c⟩

/-- What is written for a text is one of its spellings. -/
theorem spellsText_escaped (text : String) :
    SpellsText (some text) (text.toList.flatMap escapeChar) := by
  suffices spelled : ∀ chars : List Char, ∃ pieces,
      SpellsPieces pieces (chars.flatMap escapeChar) ∧ assemble? pieces = some chars by
    obtain ⟨pieces, spells, assembled⟩ := spelled text.toList
    exact ⟨pieces, spells, by rw [assembled, Option.map_some, String.ofList_toList]⟩
  intro chars
  induction chars with
  | nil => exact ⟨[], .nil, rfl⟩
  | cons c chars inductionHypothesis =>
    obtain ⟨pieces, spells, assembled⟩ := inductionHypothesis
    obtain ⟨piece, first, means⟩ := exists_spellsPiece_escapeChar c
    refine ⟨piece :: pieces, ?_, by rw [means, assembled, Option.map_some]⟩
    rw [List.flatMap_cons]
    exact .cons first spells

/-! ## Integers -/

/-- A numeral consists of digits. -/
theorem isDigit_of_mem_numeral {n : Nat} {c : Char} (member : c ∈ Nat.toDigits 10 n) :
    c.isDigit = true :=
  Nat.isDigit_of_mem_toDigits (by decide) (Nat.le_refl 10) member

/-- The numeral of an integer has the digits of its size, after a sign if it is negative. -/
theorem toString_cases (value : Int) :
    (0 ≤ value ∧ (toString value).toList = Nat.toDigits 10 value.toNat) ∨
      (value < 0 ∧ (toString value).toList = '-' :: Nat.toDigits 10 (-value).toNat) := by
  rw [Int.toString_eq_repr, Int.repr_eq_if]
  split
  · next positive => exact .inl ⟨positive, Nat.toList_repr⟩
  · next negative =>
    refine .inr ⟨Int.not_le.mp negative, ?_⟩
    rw [String.toList_append, Nat.toList_repr]
    rfl

/-- The digits of a number start with a zero only if it is zero. -/
theorem eq_zero_of_head?_toDigits {n : Nat} (zero : (Nat.toDigits 10 n).head? = some '0') :
    n = 0 := by
  induction n using Nat.strongRecOn with
  | ind n inductionHypothesis =>
    by_cases small : n < 10
    · rw [Nat.toDigits_of_lt_base small] at zero
      have digit : n.digitChar = '0' := Option.some.inj zero
      have all : ∀ m < 10, m.digitChar = '0' → m = 0 := by decide
      exact all n small digit
    · have shorter : (Nat.toDigits 10 (n / 10)).head? = some '0' := by
        rwa [Nat.toDigits_of_base_le (by decide) (by omega), List.head?_append,
          List.head?_eq_some_head Nat.toDigits_ne_nil, Option.some_or,
          ← List.head?_eq_some_head Nat.toDigits_ne_nil] at zero
      have none := inductionHypothesis (n / 10) (by omega) shorter
      omega

/-- A numeral is a whole part, since it does not start with a zero that goes on. -/
theorem isWhole_toDigits (n : Nat) : IsWhole (Nat.toDigits 10 n) where
  nonempty := Nat.toDigits_ne_nil
  all := fun _ => isDigit_of_mem_numeral
  proper := by
    intro zero
    rw [eq_zero_of_head?_toDigits zero]
    rfl

/-- The numeral of an integer is the literal of a number. -/
theorem isNumeral_toString (value : Int) : IsNumeral (toString value).toList := by
  have literal : ∀ {sign} (_ : IsSign sign) n, IsNumeral (sign ++ Nat.toDigits 10 n) := by
    intro sign isSign n
    have parts := IsNumeral.parts isSign (isWhole_toDigits n) .none .none
    rwa [List.append_nil, List.append_nil] at parts
  rcases toString_cases value with ⟨-, shape⟩ | ⟨-, shape⟩
  · rw [shape]
    exact literal .plus _
  · rw [shape]
    exact literal .minus _

/-! ## Values -/

/-- A value that is written as what it is: its strings and names are texts, and its numbers are
integers. -/
inductive Written : Json → Prop
  | null : Written .null
  | bool (value : Bool) : Written (.bool value)
  | integer (value : Int) : Written (ofInt value)
  | text (value : String) : Written (ofString value)
  | array (items : List Json) (written : ∀ item ∈ items, Written item) : Written (.array items)
  | object (members : List (Option String × Json)) (named : ∀ member ∈ members, member.1.isSome)
      (written : ∀ member ∈ members, Written member.2) : Written (.object members)

/-- An object with texts for names is written if its values are. -/
theorem Written.ofMembers {members : List (String × Json)}
    (written : ∀ member ∈ members, Written member.2) : Written (.ofMembers members) := by
  refine .object _ ?_ ?_
  · intro member mem
    obtain ⟨source, _, rfl⟩ := List.mem_map.mp mem
    rfl
  · intro member mem
    obtain ⟨source, among, rfl⟩ := List.mem_map.mp mem
    exact written source among

/-- A value between marks as it is written. -/
def slotOf (value : Json) : Slot := ⟨[], value, value.render, []⟩

/-- A member as it is written. -/
def entryOf (member : Option String × Json) : Entry :=
  ⟨[], member.1, (member.1.getD "").toList.flatMap escapeChar, [], slotOf member.2⟩

theorem isLaidOut_slotOf (value : Json) : (slotOf value).IsLaidOut := ⟨isBlanks_nil, isBlanks_nil⟩

/-- A value in its slot is written as it is rendered. -/
theorem written_slotOf (value : Json) : (slotOf value).written = value.render :=
  List.append_nil value.render

theorem isLaidOut_entryOf {member : Option String × Json} (named : member.1.isSome) :
    (entryOf member).IsLaidOut where
  before := isBlanks_nil
  named := by
    obtain ⟨name, value⟩ := member
    obtain ⟨name, rfl⟩ := Option.isSome_iff_exists.mp named
    exact spellsText_escaped name
  between := isBlanks_nil
  laidOut := isLaidOut_slotOf member.2

/-- A member is written as its name, a colon and its value. -/
theorem written_entryOf (member : Option String × Json) :
    (entryOf member).written = renderString (member.1.getD "") ++ ':' :: member.2.render := by
  rw [Entry.written, renderString, entryOf, written_slotOf, List.cons_append, List.append_assoc]
  rfl

/-- Items are rendered with commas between them. -/
theorem renderItems_eq (items : List Json) :
    renderItems items = commas ((items.map slotOf).map Slot.written) := by
  induction items with
  | nil => rfl
  | cons item items inductionHypothesis =>
    cases items with
    | nil =>
      rw [List.map_singleton, List.map_singleton, commas_singleton, written_slotOf]
      rfl
    | cons second items =>
      rw [List.map_cons, List.map_cons, List.map_cons, List.map_cons, commas_cons_cons,
        written_slotOf]
      exact congrArg (item.render ++ ',' :: ·) inductionHypothesis

/-- Members are rendered with commas between them. -/
theorem renderMembers_eq (members : List (Option String × Json)) :
    renderMembers members = commas ((members.map entryOf).map Entry.written) := by
  induction members with
  | nil => rfl
  | cons member members inductionHypothesis =>
    cases members with
    | nil =>
      rw [List.map_singleton, List.map_singleton, commas_singleton, written_entryOf]
      rfl
    | cons second members =>
      obtain ⟨name, value⟩ := member
      rw [List.map_cons, List.map_cons, List.map_cons, List.map_cons, commas_cons_cons,
        written_entryOf, List.append_assoc, List.cons_append]
      exact congrArg
        (fun later => renderString (name.getD "") ++ ':' :: (value.render ++ ',' :: later))
        inductionHypothesis

/-- The text of an array spells it. -/
theorem spells_render_array {items : List Json}
    (spelled : ∀ item ∈ items, Spells item item.render) :
    Spells (.array items) (render (.array items)) := by
  rcases eq_or_ne items [] with rfl | nonempty
  · exact .emptyArray isBlanks_nil
  have values : (items.map slotOf).map Slot.value = items := by
    rw [List.map_map]
    exact List.map_id items
  have spells : Spells (.array ((items.map slotOf).map Slot.value)) _ :=
    .array (mt List.map_eq_nil_iff.mp nonempty)
      (List.forall_mem_map.mpr fun item _ => isLaidOut_slotOf item)
      (List.forall_mem_map.mpr spelled)
  rwa [values, ← renderItems_eq] at spells

/-- The text of an object spells it. -/
theorem spells_render_object {members : List (Option String × Json)}
    (named : ∀ member ∈ members, member.1.isSome)
    (spelled : ∀ member ∈ members, Spells member.2 member.2.render) :
    Spells (.object members) (render (.object members)) := by
  rcases eq_or_ne members [] with rfl | nonempty
  · exact .emptyObject isBlanks_nil
  have whole : (members.map entryOf).map Entry.member = members := by
    rw [List.map_map]
    exact List.map_id members
  have spells : Spells (.object ((members.map entryOf).map Entry.member)) _ :=
    .object (mt List.map_eq_nil_iff.mp nonempty)
      (List.forall_mem_map.mpr fun member among => isLaidOut_entryOf (named member among))
      (List.forall_mem_map.mpr spelled)
  rwa [whole, ← renderMembers_eq] at spells

/-- What is written for a value is one of its texts. -/
theorem Written.spells {value : Json} (written : Written value) : Spells value value.render := by
  induction written with
  | null => exact .null
  | bool value =>
    cases value with
    | true => exact .truth
    | false => exact .falsehood
  | integer value => exact .number (isNumeral_toString value)
  | text value => exact .string (spellsText_escaped value)
  | array items _ spelled => exact spells_render_array spelled
  | object members named _ spelled => exact spells_render_object named spelled

/-- The text of a written value is one of its texts. -/
theorem Written.spelledBy {value : Json} (written : Written value) :
    value.SpelledBy value.text := by
  refine ⟨[], value.render, [], ?_, isBlanks_nil, written.spells, isBlanks_nil⟩
  rw [Json.text, String.toList_ofList, List.append_nil, List.nil_append]

/-- The text of a written value is JSON and reads as the value. -/
theorem parse?_text {value : Json} (written : Written value) : parse? value.text = some value :=
  parse?_of_spelledBy written.spelledBy

/-- Written values with one text are the same. -/
theorem eq_of_text_eq {first second : Json} (firstWritten : Written first)
    (secondWritten : Written second) (same : first.text = second.text) : first = second :=
  Option.some.inj <| by rw [← parse?_text firstWritten, same, parse?_text secondWritten]

end FriendGraph.Json
