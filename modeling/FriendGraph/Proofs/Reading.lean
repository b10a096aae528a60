import FriendGraph.Proofs.Grammar

/-! # What is read is JSON

The reader takes nothing but texts of values: what it has read of a text is blanks and then a text
of the value (`Json.exists_spells_of_value?`). With every text of a value being read as the value,
a text is read as a value exactly when it is one of its texts (`Json.parse?_eq_some_iff`), and it is
refused exactly when it is a text of none.
-/

namespace FriendGraph.Json

/-- What is skipped before a text are blanks. -/
theorem exists_skipBlanks (chars : List Char) :
    ∃ blanks, IsBlanks blanks ∧ chars = blanks ++ skipBlanks chars :=
  ⟨chars.takeWhile isBlank, fun _ => List.mem_takeWhile_imp,
    (List.takeWhile_append_dropWhile).symm⟩

/-! ## Strings -/

/-- What is read of a string is spelled. -/
theorem exists_spells_of_pieces? {chars rest : List Char} {pieces : List Piece}
    (read : pieces? chars = some (pieces, rest)) :
    ∃ spelled, chars = spelled ++ '"' :: rest ∧ SpellsPieces pieces spelled := by
  fun_induction pieces? chars generalizing pieces rest with
  | case1 => nomatch read
  | case2 rest =>
    cases read
    exact ⟨[], rfl, .nil⟩
  | case3 a b c d more inductionHypothesis =>
    obtain ⟨value, means, read⟩ := Option.bind_eq_some_iff.mp read
    obtain ⟨⟨later, after⟩, readLater, same⟩ := Option.bind_eq_some_iff.mp read
    cases same
    obtain ⟨spelled, rfl, spells⟩ := inductionHypothesis readLater
    exact ⟨_, rfl, .cons (.digits means) spells⟩
  | case4 letter more other inductionHypothesis =>
    obtain ⟨c, means, read⟩ := Option.bind_eq_some_iff.mp read
    obtain ⟨⟨later, after⟩, readLater, same⟩ := Option.bind_eq_some_iff.mp read
    cases same
    obtain ⟨spelled, rfl, spells⟩ := inductionHypothesis readLater
    exact ⟨_, rfl, .cons (.letter means) spells⟩
  | case5 => nomatch read
  | case6 c more noQuote noUnit noLetter plain inductionHypothesis =>
    obtain ⟨⟨later, after⟩, readLater, same⟩ := Option.bind_eq_some_iff.mp read
    cases same
    obtain ⟨spelled, rfl, spells⟩ := inductionHypothesis readLater
    have noBackslash : c ≠ '\\' := by
      intro same
      obtain ⟨first, later, shape⟩ := List.exists_cons_of_ne_nil
        (List.append_ne_nil_of_right_ne_nil spelled (List.cons_ne_nil '"' rest))
      exact noLetter first later same shape
    exact ⟨_, rfl, .cons (.plain noQuote noBackslash plain) spells⟩

/-- What is read as a text spells it. -/
theorem exists_spells_of_string? {chars rest : List Char} {text : Option String}
    (read : string? chars = some (text, rest)) :
    ∃ spelled, chars = spelled ++ '"' :: rest ∧ SpellsText text spelled := by
  obtain ⟨⟨pieces, after⟩, readPieces, same⟩ := Option.bind_eq_some_iff.mp read
  cases same
  obtain ⟨spelled, shape, spells⟩ := exists_spells_of_pieces? readPieces
  exact ⟨spelled, shape, pieces, spells, rfl⟩

/-! ## Numbers -/

section Numbers

variable {chars rest digits : List Char}

/-- What is read as digits is a run of them. -/
theorem isDigits_of_digits? (read : digits? chars = some (digits, rest)) :
    chars = digits ++ rest ∧ IsDigits digits := by
  rw [digits?] at read
  split at read
  · cases read
  · next nonempty =>
    cases read
    exact ⟨(List.takeWhile_append_dropWhile).symm, nonempty, fun _ => List.mem_takeWhile_imp⟩

/-- What is read as a whole part is one. -/
theorem isWhole_of_whole? (read : whole? chars = some (digits, rest)) :
    chars = digits ++ rest ∧ IsWhole digits := by
  obtain ⟨⟨found, after⟩, readDigits, same⟩ := Option.bind_eq_some_iff.mp read
  obtain ⟨shape, run⟩ := isDigits_of_digits? readDigits
  dsimp only at same
  split at same
  · cases same
  · next proper =>
    cases same
    refine ⟨shape, run, fun zero => ?_⟩
    obtain ⟨c, more, rfl⟩ := List.exists_cons_of_ne_nil run.nonempty
    cases Option.some.inj zero
    cases more with
    | nil => rfl
    | cons => exact absurd ⟨rfl, by simp⟩ proper

/-- What is read as a fraction is one. -/
theorem isFraction_of_fraction? {fraction : List Char}
    (read : fraction? chars = some (fraction, rest)) :
    chars = fraction ++ rest ∧ IsFraction fraction := by
  unfold fraction? at read
  split at read
  · obtain ⟨⟨digits, after⟩, readDigits, same⟩ := Option.bind_eq_some_iff.mp read
    cases same
    obtain ⟨rfl, run⟩ := isDigits_of_digits? readDigits
    exact ⟨rfl, .point run⟩
  · cases read
    exact ⟨rfl, .none⟩

/-- What is read as an exponent is one. -/
theorem isExponent_of_exponent? {exponent : List Char}
    (read : exponent? chars = some (exponent, rest)) :
    chars = exponent ++ rest ∧ IsExponent exponent := by
  unfold exponent? at read
  split at read
  · next letter more =>
    split at read
    · next marked =>
      split at read
      · next sign later =>
        split at read
        · next signed =>
          obtain ⟨⟨digits, after⟩, readDigits, same⟩ := Option.bind_eq_some_iff.mp read
          cases same
          obtain ⟨rfl, run⟩ := isDigits_of_digits? readDigits
          exact ⟨rfl, .signed marked signed run⟩
        · obtain ⟨⟨digits, after⟩, readDigits, same⟩ := Option.bind_eq_some_iff.mp read
          cases same
          obtain ⟨shape, run⟩ := isDigits_of_digits? readDigits
          exact ⟨congrArg (letter :: ·) shape, .unsigned marked run⟩
      · nomatch read
    · cases read
      exact ⟨rfl, .none⟩
  · cases read
    exact ⟨rfl, .none⟩

/-- What is read of a number is a literal. -/
theorem isNumeral_of_number? {literal : List Char} (read : number? chars = some (literal, rest)) :
    chars = literal ++ rest ∧ IsNumeral literal := by
  rw [number?.eq_def] at read
  split at read
  next sign unsigned signed =>
  have start : chars = sign ++ unsigned ∧ IsSign sign := by
    split at signed
    · cases signed
      exact ⟨rfl, .minus⟩
    · cases signed
      exact ⟨rfl, .plus⟩
  obtain ⟨rfl, isSign⟩ := start
  obtain ⟨⟨whole, afterWhole⟩, readWhole, readRest⟩ := Option.bind_eq_some_iff.mp read
  obtain ⟨⟨fraction, afterFraction⟩, readFraction, readRest⟩ := Option.bind_eq_some_iff.mp readRest
  obtain ⟨⟨exponent, after⟩, readExponent, same⟩ := Option.bind_eq_some_iff.mp readRest
  cases same
  obtain ⟨rfl, isWhole⟩ := isWhole_of_whole? readWhole
  obtain ⟨rfl, isFraction⟩ := isFraction_of_fraction? readFraction
  obtain ⟨rfl, isExponent⟩ := isExponent_of_exponent? readExponent
  refine ⟨?_, .parts isSign isWhole isFraction isExponent⟩
  simp only [List.append_assoc]

end Numbers

/-! ## Values -/

/-- A value that is read with some fuel is spelled, after blanks. -/
def SoundValue (fuel : Nat) : Prop :=
  ∀ {chars rest : List Char} {value : Json}, value? fuel chars = some (value, rest) →
    ∃ before text, chars = before ++ (text ++ rest) ∧ IsBlanks before ∧ Spells value text

/-- Items that are read with some fuel are spelled. -/
def SoundItems (fuel : Nat) : Prop :=
  ∀ {chars rest : List Char} {items : List Json}, items? fuel chars = some (items, rest) →
    ∃ slots, slots ≠ [] ∧ slots.map Slot.value = items ∧
      chars = commas (slots.map Slot.written) ++ ']' :: rest ∧
      (∀ slot ∈ slots, slot.IsLaidOut) ∧ ∀ slot ∈ slots, Spells slot.value slot.text

/-- Members that are read with some fuel are spelled. -/
def SoundMembers (fuel : Nat) : Prop :=
  ∀ {chars rest : List Char} {members : List (Option String × Json)},
    members? fuel chars = some (members, rest) →
      ∃ entries, entries ≠ [] ∧ entries.map Entry.member = members ∧
        chars = commas (entries.map Entry.written) ++ '\x7d' :: rest ∧
        (∀ entry ∈ entries, entry.IsLaidOut) ∧
        ∀ entry ∈ entries, Spells entry.slot.value entry.slot.text

theorem commas_cons_of_ne_nil (text : List Char) {texts : List (List Char)} (more : texts ≠ []) :
    commas (text :: texts) = text ++ ',' :: commas texts := by
  obtain ⟨second, texts, rfl⟩ := List.exists_cons_of_ne_nil more
  exact commas_cons_cons text second texts

/-- A value that is read fills a slot. -/
theorem SoundValue.exists_slot {fuel : Nat} (sound : SoundValue fuel) {chars rest : List Char}
    {value : Json} (read : value? fuel chars = some (value, rest)) :
    ∃ slot : Slot, slot.value = value ∧ chars = slot.written ++ skipBlanks rest ∧
      slot.IsLaidOut ∧ Spells slot.value slot.text := by
  obtain ⟨before, text, rfl, blank, spells⟩ := sound read
  obtain ⟨after, alsoBlank, shape⟩ := exists_skipBlanks rest
  refine ⟨⟨before, value, text, after⟩, rfl, ?_, ⟨blank, alsoBlank⟩, spells⟩
  rw [Slot.written, List.append_assoc, List.append_assoc, ← shape]

/-- Items are read soundly with more fuel if values and items are with less. -/
theorem SoundItems.succ {fuel : Nat} (soundValue : SoundValue fuel) (soundItems : SoundItems fuel) :
    SoundItems (fuel + 1) := by
  intro chars rest items read
  obtain ⟨⟨item, afterItem⟩, readItem, readRest⟩ := Option.bind_eq_some_iff.mp read
  obtain ⟨slot, rfl, rfl, laidOut, spells⟩ := soundValue.exists_slot readItem
  dsimp only at readRest
  split at readRest
  · next after closed =>
    cases readRest
    refine ⟨[slot], List.cons_ne_nil _ _, rfl, ?_, List.forall_mem_singleton.mpr laidOut,
      List.forall_mem_singleton.mpr spells⟩
    rw [List.map_singleton, commas_singleton, closed]
  · next more continued =>
    obtain ⟨⟨later, after⟩, readLater, same⟩ := Option.bind_eq_some_iff.mp readRest
    cases same
    obtain ⟨slots, some, rfl, rfl, allLaidOut, allSpell⟩ := soundItems readLater
    refine ⟨slot :: slots, List.cons_ne_nil _ _, rfl, ?_,
      List.forall_mem_cons.mpr ⟨laidOut, allLaidOut⟩, List.forall_mem_cons.mpr ⟨spells, allSpell⟩⟩
    rw [List.map_cons, commas_cons_of_ne_nil _ (mt List.map_eq_nil_iff.mp some), continued,
      List.append_assoc, List.cons_append]
  · nomatch readRest

/-- Members are read soundly with more fuel if values and members are with less. -/
theorem SoundMembers.succ {fuel : Nat} (soundValue : SoundValue fuel)
    (soundMembers : SoundMembers fuel) : SoundMembers (fuel + 1) := by
  intro chars rest members read
  obtain ⟨before, blank, shape⟩ := exists_skipBlanks chars
  rw [members?] at read
  split at read
  · next quoted opened =>
    obtain ⟨⟨name, afterName⟩, readName, readRest⟩ := Option.bind_eq_some_iff.mp read
    obtain ⟨spelled, rfl, named⟩ := exists_spells_of_string? readName
    obtain ⟨between, alsoBlank, shapeName⟩ := exists_skipBlanks afterName
    dsimp only at readRest
    split at readRest
    · next more colon =>
      obtain ⟨⟨value, afterValue⟩, readValue, readLast⟩ := Option.bind_eq_some_iff.mp readRest
      obtain ⟨slot, rfl, rfl, laidOut, spells⟩ := soundValue.exists_slot readValue
      have whole : chars = Entry.written ⟨before, name, spelled, between, slot⟩ ++
          skipBlanks afterValue := by
        rw [shape, opened, shapeName, colon, Entry.written]
        simp only [List.append_assoc, List.cons_append]
      have entryLaidOut : Entry.IsLaidOut ⟨before, name, spelled, between, slot⟩ :=
        ⟨blank, named, alsoBlank, laidOut⟩
      dsimp only at readLast
      split at readLast
      · next after closed =>
        cases readLast
        refine ⟨[_], List.cons_ne_nil _ _, rfl, ?_, List.forall_mem_singleton.mpr entryLaidOut,
          List.forall_mem_singleton.mpr spells⟩
        rw [whole, List.map_singleton, commas_singleton, closed]
      · next further continued =>
        obtain ⟨⟨later, after⟩, readLater, same⟩ := Option.bind_eq_some_iff.mp readLast
        cases same
        obtain ⟨entries, some, rfl, rfl, allLaidOut, allSpell⟩ := soundMembers readLater
        refine ⟨_ :: entries, List.cons_ne_nil _ _, rfl, ?_,
          List.forall_mem_cons.mpr ⟨entryLaidOut, allLaidOut⟩,
          List.forall_mem_cons.mpr ⟨spells, allSpell⟩⟩
        rw [whole, List.map_cons, commas_cons_of_ne_nil _ (mt List.map_eq_nil_iff.mp some),
          continued, List.append_assoc, List.cons_append]
      · cases readLast
    · cases readRest
  · cases read

/-- Values are read soundly with more fuel if items and members are with less. -/
theorem SoundItems.succ_value {fuel : Nat} (soundItems : SoundItems fuel)
    (soundMembers : SoundMembers fuel) : SoundValue (fuel + 1) := by
  intro chars rest value read
  obtain ⟨before, blank, shape⟩ := exists_skipBlanks chars
  suffices spelled : ∃ text, skipBlanks chars = text ++ rest ∧ Spells value text by
    obtain ⟨text, start, spells⟩ := spelled
    exact ⟨before, text, by rw [← start]; exact shape, blank, spells⟩
  rw [value?] at read
  split at read
  · next start =>
    cases read
    exact ⟨_, start, .null⟩
  · next start =>
    cases read
    exact ⟨_, start, .truth⟩
  · next start =>
    cases read
    exact ⟨_, start, .falsehood⟩
  · next start =>
    obtain ⟨⟨text, after⟩, readText, same⟩ := Option.map_eq_some_iff.mp read
    cases same
    obtain ⟨spelled, rfl, spells⟩ := exists_spells_of_string? readText
    refine ⟨_, ?_, .string spells⟩
    rw [start, List.cons_append, List.append_assoc, List.singleton_append]
  · next opened start =>
    split at read
    · next closed =>
      cases read
      obtain ⟨blanks, isBlank, shapeOpened⟩ := exists_skipBlanks opened
      refine ⟨_, ?_, .emptyArray isBlank⟩
      rw [start, shapeOpened, closed, List.cons_append, List.append_assoc, List.singleton_append]
    · rw [items?_skipBlanks] at read
      obtain ⟨⟨items, after⟩, readItems, same⟩ := Option.map_eq_some_iff.mp read
      cases same
      obtain ⟨slots, some, rfl, rfl, laidOut, spells⟩ := soundItems readItems
      refine ⟨_, ?_, .array some laidOut spells⟩
      rw [start, List.cons_append, List.append_assoc, List.singleton_append]
  · next opened start =>
    split at read
    · next closed =>
      cases read
      obtain ⟨blanks, isBlank, shapeOpened⟩ := exists_skipBlanks opened
      refine ⟨_, ?_, .emptyObject isBlank⟩
      rw [start, shapeOpened, closed, List.cons_append, List.append_assoc, List.singleton_append]
    · rw [members?_skipBlanks] at read
      obtain ⟨⟨members, after⟩, readMembers, same⟩ := Option.map_eq_some_iff.mp read
      cases same
      obtain ⟨entries, some, rfl, rfl, laidOut, spells⟩ := soundMembers readMembers
      refine ⟨_, ?_, .object some laidOut spells⟩
      rw [start, List.cons_append, List.append_assoc, List.singleton_append]
  · obtain ⟨⟨literal, after⟩, readLiteral, same⟩ := Option.map_eq_some_iff.mp read
    cases same
    obtain ⟨start, numeral⟩ := isNumeral_of_number? readLiteral
    exact ⟨literal, start, .number numeral⟩

/-- **What is read of a text is a text of the value**, with blanks before it. -/
theorem exists_spells_of_value? (fuel : Nat) :
    SoundValue fuel ∧ SoundItems fuel ∧ SoundMembers fuel := by
  induction fuel with
  | zero =>
    refine ⟨?_, ?_, ?_⟩
    · intro _ _ _ read
      cases read
    · intro _ _ _ read
      cases read
    · intro _ _ _ read
      cases read
  | succ fuel inductionHypothesis =>
    obtain ⟨soundValue, soundItems, soundMembers⟩ := inductionHypothesis
    exact ⟨soundItems.succ_value soundMembers, SoundItems.succ soundValue soundItems,
      SoundMembers.succ soundValue soundMembers⟩

/-- **A text reads as a value exactly when it is one of its texts.** -/
theorem parse?_eq_some_iff {text : String} {value : Json} :
    parse? text = some value ↔ SpelledBy value text := by
  refine ⟨fun read => ?_, parse?_of_spelledBy⟩
  obtain ⟨⟨found, rest⟩, readValue, ended⟩ := Option.bind_eq_some_iff.mp read
  dsimp only at ended
  split at ended
  · next blank =>
    cases ended
    obtain ⟨before, chars, shape, isBlank, spells⟩ := (exists_spells_of_value? _).1 readValue
    exact ⟨before, chars, rest, shape, isBlank, spells,
      skipBlanks_eq_nil_iff.mp (List.isEmpty_iff.mp blank)⟩
  · cases ended

end FriendGraph.Json
