import Mathlib.Data.List.DropRight
import FriendGraph.Json.Reader

/-! # The grammar of JSON

Which texts a value has is said here without a reader: blanks may stand around every value, item,
name and member, every character of a string has several spellings, and the literal of a number is
kept (`Json.Spells`). The reader accepts all of them, each with the value that it spells
(`Json.Spells.readsAs`, `Json.parse?_of_spelledBy`).

Only a number does not show where it ends, so what stands after it matters (`Json.Ends`). A value
needs fuel for twice as many values as its text has characters.
-/

namespace FriendGraph.Json

/-! ## Blanks -/

/-- Nothing but blanks. -/
def IsBlanks (chars : List Char) : Prop := ∀ c ∈ chars, isBlank c = true

theorem isBlanks_nil : IsBlanks [] := fun _ member => nomatch member

/-- Blanks are skipped together with those behind them. -/
theorem skipBlanks_append {blanks : List Char} (blank : IsBlanks blanks) (rest : List Char) :
    skipBlanks (blanks ++ rest) = skipBlanks rest :=
  List.dropWhile_append_of_pos blank

/-- Nothing is skipped before a character that is no blank. -/
theorem skipBlanks_cons {c : Char} (solid : isBlank c = false) (rest : List Char) :
    skipBlanks (c :: rest) = c :: rest := by
  rw [skipBlanks, List.dropWhile_cons, solid, if_neg Bool.false_ne_true]

theorem skipBlanks_skipBlanks (chars : List Char) :
    skipBlanks (skipBlanks chars) = skipBlanks chars :=
  List.dropWhile_idempotent isBlank chars

/-- Skipping comes to the end exactly when there are only blanks. -/
theorem skipBlanks_eq_nil_iff {chars : List Char} : skipBlanks chars = [] ↔ IsBlanks chars :=
  List.dropWhile_eq_nil_iff

/-! ## Strings -/

/-- The spellings of an element of a string: a character as it is, a letter after a backslash, or
four digits. -/
inductive SpellsPiece : Piece → List Char → Prop
  | plain {c : Char} (noQuote : c ≠ '"') (noBackslash : c ≠ '\\') (noControl : ¬c < ' ') :
      SpellsPiece (.char c) [c]
  | letter {letter c : Char} (means : escaped? letter = some c) :
      SpellsPiece (.char c) ['\\', letter]
  | digits {a b c d : Char} {value : Nat} (means : unitOf? a b c d = some value) :
      SpellsPiece (.unit value) ['\\', 'u', a, b, c, d]

/-- The spellings of the elements of a string, one after the other. -/
inductive SpellsPieces : List Piece → List Char → Prop
  | nil : SpellsPieces [] []
  | cons {piece : Piece} {pieces : List Piece} {chars more : List Char}
      (first : SpellsPiece piece chars) (later : SpellsPieces pieces more) :
      SpellsPieces (piece :: pieces) (chars ++ more)

/-- What stands between the quotes of a string with a text, or of one that stands for no text. -/
def SpellsText (text : Option String) (chars : List Char) : Prop :=
  ∃ pieces, SpellsPieces pieces chars ∧ (assemble? pieces).map String.ofList = text

/-- An element is read whatever stands after it. -/
theorem SpellsPiece.read {piece : Piece} {chars : List Char} (spelled : SpellsPiece piece chars)
    (rest : List Char) :
    pieces? (chars ++ rest) = (pieces? rest).map fun read => (piece :: read.1, read.2) := by
  cases spelled with
  | @plain c noQuote noBackslash noControl =>
    rw [List.cons_append, List.nil_append, pieces?, if_neg noControl]
    · cases pieces? rest <;> rfl
    · exact noQuote
    · intro _ _ _ _ _ same
      exact absurd same noBackslash
    · intro _ _ same
      exact absurd same noBackslash
  | @letter letter c means =>
    have other : letter ≠ 'u' := by
      rintro rfl
      cases means
    rw [List.cons_append, List.cons_append, List.nil_append, pieces?]
    · rw [means]
      cases pieces? rest <;> rfl
    · intro _ _ _ _ _ same
      exact absurd same other
  | digits means =>
    simp only [List.cons_append, List.nil_append, pieces?, means]
    cases pieces? rest <;> rfl

/-- The elements of a string are read up to its closing quote. -/
theorem SpellsPieces.read {pieces : List Piece} {chars : List Char}
    (spelled : SpellsPieces pieces chars) (rest : List Char) :
    pieces? (chars ++ '"' :: rest) = some (pieces, rest) := by
  induction spelled with
  | nil => rfl
  | cons first _ inductionHypothesis =>
    rw [List.append_assoc, first.read, inductionHypothesis]
    rfl

/-- A string is read up to its closing quote. -/
theorem string?_of_spells {text : Option String} {chars : List Char}
    (spelled : SpellsText text chars) (rest : List Char) :
    string? (chars ++ '"' :: rest) = some (text, rest) := by
  obtain ⟨pieces, each, rfl⟩ := spelled
  rw [string?, each.read]
  rfl

/-! ## Numbers -/

/-- Digits, at least one. -/
structure IsDigits (digits : List Char) : Prop where
  nonempty : digits ≠ []
  all : ∀ c ∈ digits, c.isDigit = true

/-- The whole part of a number: digits of which the first one is a zero only if it stands alone. -/
structure IsWhole (digits : List Char) : Prop extends IsDigits digits where
  proper : digits.head? = some '0' → digits = ['0']

/-- A minus or nothing. -/
inductive IsSign : List Char → Prop
  | plus : IsSign []
  | minus : IsSign ['-']

/-- A point with digits after it, or nothing. -/
inductive IsFraction : List Char → Prop
  | none : IsFraction []
  | point {digits : List Char} (run : IsDigits digits) : IsFraction ('.' :: digits)

/-- An exponent with or without a sign, or nothing. -/
inductive IsExponent : List Char → Prop
  | none : IsExponent []
  | unsigned {letter : Char} {digits : List Char} (marked : letter = 'e' ∨ letter = 'E')
      (run : IsDigits digits) : IsExponent (letter :: digits)
  | signed {letter sign : Char} {digits : List Char} (marked : letter = 'e' ∨ letter = 'E')
      (signed : sign = '+' ∨ sign = '-') (run : IsDigits digits) :
      IsExponent (letter :: sign :: digits)

/-- The literal of a number. -/
inductive IsNumeral : List Char → Prop
  | parts {sign whole fraction exponent : List Char} (isSign : IsSign sign)
      (isWhole : IsWhole whole) (isFraction : IsFraction fraction)
      (isExponent : IsExponent exponent) : IsNumeral (sign ++ whole ++ fraction ++ exponent)

/-- What may stand after digits: nothing that could be more of them. -/
def EndsDigits (rest : List Char) : Prop := ∀ c ∈ rest.head?, c.isDigit = false

/-- What may stand after a number: nothing that could be more of it. -/
def Delimits (rest : List Char) : Prop :=
  ∀ c ∈ rest.head?, c.isDigit = false ∧ c ≠ '.' ∧ ¬(c = 'e' ∨ c = 'E')

theorem delimits_nil : Delimits [] := fun _ head => nomatch head

/-- A character that cannot stand in a number ends one. -/
theorem delimits_cons {c : Char} (rest : List Char)
    (stops : c.isDigit = false ∧ c ≠ '.' ∧ ¬(c = 'e' ∨ c = 'E')) : Delimits (c :: rest) := by
  intro first head
  cases Option.mem_some.mp head
  exact stops

/-- A character that is no digit ends a run of digits. -/
theorem endsDigits_cons {c : Char} (rest : List Char) (stops : c.isDigit = false) :
    EndsDigits (c :: rest) := by
  intro first head
  cases Option.mem_some.mp head
  exact stops

section Delimited

variable {rest : List Char}

theorem Delimits.endsDigits (delimited : Delimits rest) : EndsDigits rest :=
  fun c head => (delimited c head).1

/-- A run of digits is read to its end. -/
theorem digits?_append {digits : List Char} (run : IsDigits digits) (ends : EndsDigits rest) :
    digits? (digits ++ rest) = some (digits, rest) := by
  have taken : rest.takeWhile Char.isDigit = [] := by
    cases rest with
    | nil => rfl
    | cons c rest => rw [List.takeWhile_cons, ends c rfl, if_neg Bool.false_ne_true]
  have dropped : rest.dropWhile Char.isDigit = rest := by
    cases rest with
    | nil => rfl
    | cons c rest => rw [List.dropWhile_cons, ends c rfl, if_neg Bool.false_ne_true]
  rw [digits?, List.takeWhile_append_of_pos run.all, List.dropWhile_append_of_pos run.all, taken,
    dropped, List.append_nil]
  split
  · exact absurd rfl run.nonempty
  · rfl

/-- A whole part is read to its end. -/
theorem whole?_append {whole : List Char} (isWhole : IsWhole whole) (ends : EndsDigits rest) :
    whole? (whole ++ rest) = some (whole, rest) := by
  have proper : ¬(whole.head? = some '0' ∧ 1 < whole.length) := by
    rintro ⟨zero, long⟩
    rw [isWhole.proper zero] at long
    exact absurd long (by decide)
  rw [whole?, digits?_append isWhole.toIsDigits ends]
  exact if_neg proper

/-- Before an exponent the digits end, and no fraction follows. -/
theorem head_exponent {exponent : List Char} (isExponent : IsExponent exponent)
    (delimited : Delimits rest) :
    ∀ c ∈ (exponent ++ rest).head?, c.isDigit = false ∧ c ≠ '.' := by
  have letter : ∀ {c : Char}, c = 'e' ∨ c = 'E' → c.isDigit = false ∧ c ≠ '.' := by
    rintro c (rfl | rfl) <;> decide
  intro c head
  cases isExponent with
  | none => exact ⟨(delimited c head).1, (delimited c head).2.1⟩
  | unsigned marked =>
    cases Option.mem_some.mp head
    exact letter marked
  | signed marked =>
    cases Option.mem_some.mp head
    exact letter marked

/-- An exponent is read to its end. -/
theorem exponent?_append {exponent : List Char} (isExponent : IsExponent exponent)
    (delimited : Delimits rest) : exponent? (exponent ++ rest) = some (exponent, rest) := by
  cases isExponent with
  | none =>
    cases rest with
    | nil => rfl
    | cons c rest => exact if_neg (delimited c rfl).2.2
  | @unsigned letter digits marked digitsOnly =>
    obtain ⟨first, later, shape⟩ := List.exists_cons_of_ne_nil digitsOnly.nonempty
    have unsigned : ¬(first = '+' ∨ first = '-') := by
      have digit : first.isDigit = true := digitsOnly.all first (shape ▸ List.mem_cons_self)
      rintro (rfl | rfl) <;> exact absurd digit (by decide)
    have read := digits?_append digitsOnly delimited.endsDigits
    rw [shape, List.cons_append] at read
    rw [shape, List.cons_append, List.cons_append, exponent?, if_pos marked]
    simp only [if_neg unsigned, read]
    rfl
  | signed marked signed digitsOnly =>
    rw [List.cons_append, List.cons_append, exponent?, if_pos marked]
    simp only [if_pos signed, digits?_append digitsOnly delimited.endsDigits]
    rfl

/-- A fraction is read to its end. -/
theorem fraction?_append {fraction : List Char} (isFraction : IsFraction fraction)
    (stops : ∀ c ∈ rest.head?, c.isDigit = false ∧ c ≠ '.') :
    fraction? (fraction ++ rest) = some (fraction, rest) := by
  cases isFraction with
  | none =>
    cases rest with
    | nil => rfl
    | cons c rest =>
      rw [List.nil_append, fraction?]
      intro _ same
      exact (stops c rfl).2 (List.cons.inj same).1
  | point digitsOnly =>
    rw [List.cons_append, fraction?, digits?_append digitsOnly fun c head => (stops c head).1]
    rfl

/-- Digits end before a fraction. -/
theorem endsDigits_fraction {fraction : List Char} (isFraction : IsFraction fraction)
    (ends : EndsDigits rest) : EndsDigits (fraction ++ rest) := by
  cases isFraction with
  | none => exact ends
  | point => exact endsDigits_cons _ (by decide)

/-- What starts a number. -/
def IsNumeric (c : Char) : Prop := c = '-' ∨ c.isDigit = true

instance : DecidablePred IsNumeric := fun _ => inferInstanceAs (Decidable (_ ∨ _))

/-- No character that a numeral starts with is a blank. -/
theorem isBlank_of_numeric {c : Char} (numeric : IsNumeric c) : isBlank c = false := by
  rw [Bool.eq_false_iff]
  intro blank
  simp only [isBlank, Bool.or_eq_true, beq_iff_eq] at blank
  rcases blank with ((rfl | rfl) | rfl) | rfl <;> exact absurd numeric (by decide)

/-- A whole part starts with a digit. -/
theorem IsWhole.exists_eq_cons {whole : List Char} (isWhole : IsWhole whole) :
    ∃ c more, whole = c :: more ∧ c.isDigit = true := by
  obtain ⟨c, more, rfl⟩ := List.exists_cons_of_ne_nil isWhole.nonempty
  exact ⟨c, more, rfl, isWhole.all c List.mem_cons_self⟩

/-- A numeral starts with a digit or a sign. -/
theorem IsNumeral.exists_eq_cons {literal : List Char} (numeral : IsNumeral literal) :
    ∃ c more, literal = c :: more ∧ IsNumeric c := by
  obtain ⟨isSign, isWhole, -, -⟩ := numeral
  obtain ⟨c, more, rfl, digit⟩ := isWhole.exists_eq_cons
  cases isSign with
  | plus => exact ⟨c, _, rfl, .inr digit⟩
  | minus => exact ⟨'-', _, rfl, .inl rfl⟩

/-- A literal is read up to where it is delimited. -/
theorem number?_append {literal : List Char} (numeral : IsNumeral literal)
    (delimited : Delimits rest) : number? (literal ++ rest) = some (literal, rest) := by
  obtain @⟨sign, whole, fraction, exponent, isSign, isWhole, isFraction, isExponent⟩ := numeral
  have stops := head_exponent isExponent delimited
  have readWhole : whole? (whole ++ (fraction ++ (exponent ++ rest))) =
      some (whole, fraction ++ (exponent ++ rest)) :=
    whole?_append isWhole (endsDigits_fraction isFraction fun c head => (stops c head).1)
  have readFraction := fraction?_append isFraction stops
  have readExponent := exponent?_append isExponent delimited
  cases isSign with
  | plus =>
    have unsigned : ∀ more, whole ++ (fraction ++ (exponent ++ rest)) ≠ '-' :: more := by
      intro more same
      obtain ⟨c, later, rfl, digit⟩ := isWhole.exists_eq_cons
      rw [(List.cons.inj same).1] at digit
      exact absurd digit (by decide)
    simp only [List.append_assoc, List.nil_append]
    rw [number?]
    · simp only [Option.bind_eq_bind, Option.bind_some, readWhole, readFraction, readExponent,
        List.nil_append, List.append_assoc, Option.pure_def]
    · exact unsigned
  | minus =>
    simp only [List.append_assoc, List.cons_append, List.nil_append]
    rw [number?]
    simp only [Option.bind_eq_bind, Option.bind_some, readWhole, readFraction, readExponent,
      List.cons_append, List.nil_append, List.append_assoc, Option.pure_def]

end Delimited

/-! ## Values -/

/-- A value as it stands between two marks, with what is before and after it. -/
structure Slot where
  before : List Char
  value : Json
  text : List Char
  after : List Char

/-- The text of a value with what is around it. -/
def Slot.written (slot : Slot) : List Char := slot.before ++ (slot.text ++ slot.after)

/-- Around the value there are blanks only. -/
structure Slot.IsLaidOut (slot : Slot) : Prop where
  before : IsBlanks slot.before
  after : IsBlanks slot.after

/-- A member of an object: its name in quotes, and its value after a colon. -/
structure Entry where
  before : List Char
  name : Option String
  quoted : List Char
  between : List Char
  slot : Slot

/-- A name with its value. -/
def Entry.member (entry : Entry) : Option String × Json := (entry.name, entry.slot.value)

/-- The text of a member. -/
def Entry.written (entry : Entry) : List Char :=
  entry.before ++ '"' :: (entry.quoted ++ '"' :: (entry.between ++ ':' :: entry.slot.written))

/-- The name is spelled between the quotes, and everything else around it and the value is blank. -/
structure Entry.IsLaidOut (entry : Entry) : Prop where
  before : IsBlanks entry.before
  named : SpellsText entry.name entry.quoted
  between : IsBlanks entry.between
  laidOut : entry.slot.IsLaidOut

/-- Texts with commas between them. -/
def commas (texts : List (List Char)) : List Char := [','].intercalate texts

/-- A text of a value, without blanks around it. -/
inductive Spells : Json → List Char → Prop
  | null : Spells .null ['n', 'u', 'l', 'l']
  | truth : Spells (.bool true) ['t', 'r', 'u', 'e']
  | falsehood : Spells (.bool false) ['f', 'a', 'l', 's', 'e']
  | number {literal : List Char} (numeral : IsNumeral literal) : Spells (.number literal) literal
  | string {text : Option String} {chars : List Char} (spelled : SpellsText text chars) :
      Spells (.string text) ('"' :: (chars ++ ['"']))
  | emptyArray {blanks : List Char} (blank : IsBlanks blanks) :
      Spells (.array []) ('[' :: (blanks ++ [']']))
  | array {slots : List Slot} (nonempty : slots ≠ []) (laidOut : ∀ slot ∈ slots, slot.IsLaidOut)
      (spelled : ∀ slot ∈ slots, Spells slot.value slot.text) :
      Spells (.array (slots.map Slot.value)) ('[' :: (commas (slots.map Slot.written) ++ [']']))
  | emptyObject {blanks : List Char} (blank : IsBlanks blanks) :
      Spells (.object []) ('\x7b' :: (blanks ++ ['\x7d']))
  | object {entries : List Entry} (nonempty : entries ≠ [])
      (laidOut : ∀ entry ∈ entries, entry.IsLaidOut)
      (spelled : ∀ entry ∈ entries, Spells entry.slot.value entry.slot.text) :
      Spells (.object (entries.map Entry.member))
        ('\x7b' :: (commas (entries.map Entry.written) ++ ['\x7d']))

/-- What may stand after a value: anything unless the value is a number. -/
def Ends (value : Json) (rest : List Char) : Prop :=
  ∀ literal, value = number literal → Delimits rest

/-- A value is read from a text whatever it ends with, given fuel for twice as many values as the
text has characters. -/
def ReadsAs (value : Json) (chars : List Char) : Prop :=
  ∀ fuel rest, 2 * chars.length ≤ fuel → value.Ends rest →
    value? fuel (chars ++ rest) = some (value, rest)

theorem commas_singleton (text : List Char) : commas [text] = text := List.intercalate_singleton

theorem commas_cons_cons (text second : List Char) (texts : List (List Char)) :
    commas (text :: second :: texts) = text ++ ',' :: commas (second :: texts) := by
  rw [commas, List.intercalate_cons_cons, List.append_assoc]
  rfl

/-- What may stand after a number may stand there behind blanks as well. -/
theorem delimits_of_blanks {blanks rest : List Char} (blank : IsBlanks blanks)
    (delimited : Delimits rest) : Delimits (blanks ++ rest) := by
  cases blanks with
  | nil => exact delimited
  | cons c blanks =>
    refine delimits_cons _ ?_
    have solid := blank c List.mem_cons_self
    simp only [isBlank, Bool.or_eq_true, beq_iff_eq] at solid
    rcases solid with ((rfl | rfl) | rfl) | rfl <;> decide

/-! ### Blanks do not matter -/

/-- A value is read behind blanks as it is without them. -/
theorem value?_skipBlanks (fuel : Nat) (chars : List Char) :
    value? fuel (skipBlanks chars) = value? fuel chars := by
  cases fuel with
  | zero => rfl
  | succ fuel => rw [value?, value?, skipBlanks_skipBlanks]

/-- Items are read behind blanks as they are without them. -/
theorem items?_skipBlanks (fuel : Nat) (chars : List Char) :
    items? fuel (skipBlanks chars) = items? fuel chars := by
  cases fuel with
  | zero => rfl
  | succ fuel => rw [items?, items?, value?_skipBlanks]

/-- Members are read behind blanks as they are without them. -/
theorem members?_skipBlanks (fuel : Nat) (chars : List Char) :
    members? fuel (skipBlanks chars) = members? fuel chars := by
  cases fuel with
  | zero => rfl
  | succ fuel => rw [members?, members?, skipBlanks_skipBlanks]

/-- Blanks before a value make no difference. -/
theorem value?_append_of_blanks {blanks : List Char} (blank : IsBlanks blanks) (fuel : Nat)
    (rest : List Char) : value? fuel (blanks ++ rest) = value? fuel rest := by
  rw [← value?_skipBlanks, skipBlanks_append blank, value?_skipBlanks]

/-! ### Every text of a value is read -/

/-- A value is read between marks, up to what is after it. -/
theorem Slot.IsLaidOut.read {slot : Slot} (laidOut : slot.IsLaidOut)
    (reads : ReadsAs slot.value slot.text) {fuel : Nat} (enough : 2 * slot.written.length ≤ fuel)
    {rest : List Char} (delimited : Delimits rest) :
    value? fuel (slot.written ++ rest) = some (slot.value, slot.after ++ rest) := by
  rw [Slot.written, List.length_append, List.length_append] at enough
  rw [Slot.written, List.append_assoc, List.append_assoc, value?_append_of_blanks laidOut.before]
  exact reads fuel _ (by omega) fun _ _ => delimits_of_blanks laidOut.after delimited

/-- Items are read up to the bracket that closes them. -/
theorem items?_of_slots {slots : List Slot} (nonempty : slots ≠ [])
    (laidOut : ∀ slot ∈ slots, slot.IsLaidOut)
    (reads : ∀ slot ∈ slots, ReadsAs slot.value slot.text) (fuel : Nat)
    (enough : 2 * (commas (slots.map Slot.written)).length + 1 ≤ fuel) (rest : List Char) :
    items? fuel (commas (slots.map Slot.written) ++ ']' :: rest) =
      some (slots.map Slot.value, rest) := by
  induction slots generalizing fuel with
  | nil => exact absurd rfl nonempty
  | cons slot slots inductionHypothesis =>
    obtain _ | fuel := fuel
    · exact absurd enough (Nat.not_succ_le_zero _)
    have first := laidOut slot List.mem_cons_self
    have readFirst := reads slot List.mem_cons_self
    cases slots with
    | nil =>
      rw [List.map_singleton, commas_singleton] at enough ⊢
      rw [items?, first.read readFirst (by omega) (delimits_cons rest (by decide))]
      simp only [Option.bind_eq_bind, Option.bind_some]
      rw [skipBlanks_append first.after]
      rfl
    | cons second slots =>
      rw [List.map_cons, List.map_cons, commas_cons_cons, List.length_append,
        List.length_cons] at enough
      -- The item costs a unit of fuel, and its comma has paid for two.
      have more := inductionHypothesis (List.cons_ne_nil _ _)
        (fun slot member => laidOut slot (List.mem_cons_of_mem _ member))
        (fun slot member => reads slot (List.mem_cons_of_mem _ member)) fuel
        (by rw [List.map_cons]; omega)
      rw [List.map_cons, List.map_cons, commas_cons_cons, List.append_assoc, List.cons_append,
        items?, first.read readFirst (by omega) (delimits_cons _ (by decide))]
      simp only [Option.bind_eq_bind, Option.bind_some]
      rw [skipBlanks_append first.after, skipBlanks_cons (by decide)]
      rw [List.map_cons] at more
      simp only [more]
      rfl

/-- A member is read up to what is after its value. -/
theorem members?_of_entry {entry : Entry} (laidOut : entry.IsLaidOut)
    (reads : ReadsAs entry.slot.value entry.slot.text) {fuel : Nat}
    (enough : 2 * entry.written.length ≤ fuel) {rest : List Char} (delimited : Delimits rest) :
    members? (fuel + 1) (entry.written ++ rest) =
      match skipBlanks rest with
      | '\x7d' :: after => some ([entry.member], after)
      | ',' :: further => (members? fuel further).bind fun later =>
          some (entry.member :: later.1, later.2)
      | _ => none := by
  rw [Entry.written, List.length_append, List.length_cons, List.length_append, List.length_cons,
    List.length_append, List.length_cons] at enough
  have readValue := laidOut.laidOut.read reads (show _ ≤ fuel by omega) delimited
  rw [Entry.written, List.append_assoc, List.cons_append, List.append_assoc, List.cons_append,
    List.append_assoc, List.cons_append, ← members?_skipBlanks, skipBlanks_append laidOut.before,
    members?_skipBlanks, members?, skipBlanks_cons (by decide)]
  simp only [string?_of_spells laidOut.named, Option.bind_eq_bind, Option.bind_some]
  rw [skipBlanks_append laidOut.between, skipBlanks_cons (by decide)]
  simp only [readValue, Option.bind_some]
  rw [skipBlanks_append laidOut.laidOut.after]
  rfl

/-- Members are read up to the brace that closes them. -/
theorem members?_of_entries {entries : List Entry} (nonempty : entries ≠ [])
    (laidOut : ∀ entry ∈ entries, entry.IsLaidOut)
    (reads : ∀ entry ∈ entries, ReadsAs entry.slot.value entry.slot.text) (fuel : Nat)
    (enough : 2 * (commas (entries.map Entry.written)).length + 1 ≤ fuel) (rest : List Char) :
    members? fuel (commas (entries.map Entry.written) ++ '\x7d' :: rest) =
      some (entries.map Entry.member, rest) := by
  induction entries generalizing fuel with
  | nil => exact absurd rfl nonempty
  | cons entry entries inductionHypothesis =>
    obtain _ | fuel := fuel
    · exact absurd enough (Nat.not_succ_le_zero _)
    have first := laidOut entry List.mem_cons_self
    have readFirst := reads entry List.mem_cons_self
    cases entries with
    | nil =>
      rw [List.map_singleton, commas_singleton] at enough ⊢
      rw [members?_of_entry first readFirst (by omega) (delimits_cons rest (by decide)),
        skipBlanks_cons (by decide)]
      rfl
    | cons second entries =>
      rw [List.map_cons, List.map_cons, commas_cons_cons, List.length_append,
        List.length_cons] at enough
      have more := inductionHypothesis (List.cons_ne_nil _ _)
        (fun entry member => laidOut entry (List.mem_cons_of_mem _ member))
        (fun entry member => reads entry (List.mem_cons_of_mem _ member)) fuel
        (by rw [List.map_cons]; omega)
      rw [List.map_cons, List.map_cons, commas_cons_cons, List.append_assoc, List.cons_append,
        members?_of_entry first readFirst (by omega) (delimits_cons _ (by decide)),
        skipBlanks_cons (by decide)]
      rw [List.map_cons] at more
      simp only [more]
      rfl

/-- A text of a value starts with no blank and with no bracket that closes. -/
theorem Spells.exists_eq_cons {value : Json} {chars : List Char} (spelled : Spells value chars) :
    ∃ c more, chars = c :: more ∧ isBlank c = false ∧ c ≠ ']' := by
  cases spelled with
  | number numeral =>
    obtain ⟨c, more, rfl, numeric⟩ := numeral.exists_eq_cons
    refine ⟨c, more, rfl, isBlank_of_numeric numeric, ?_⟩
    rintro rfl
    exact absurd numeric (by decide)
  | _ => exact ⟨_, _, rfl, by decide, by decide⟩

/-- A text that is not empty is read if it is read with any fuel at all. -/
theorem readsAs_of_succ {value : Json} {chars : List Char} (nonempty : chars ≠ [])
    (reads : ∀ fuel rest, 2 * chars.length ≤ fuel + 1 → value.Ends rest →
      value? (fuel + 1) (chars ++ rest) = some (value, rest)) : ReadsAs value chars := by
  intro fuel rest enough ends
  obtain _ | fuel := fuel
  · exact absurd (List.length_eq_zero_iff.mp (by omega)) nonempty
  · exact reads fuel rest enough ends

/-- A sign or a digit starts a number. -/
theorem value?_of_numeric {c : Char} (numeric : IsNumeric c) (fuel : Nat) (rest : List Char) :
    value? (fuel + 1) (c :: rest) =
      (number? (c :: rest)).map fun read => (.number read.1, read.2) := by
  rw [value?, skipBlanks_cons (isBlank_of_numeric numeric)]
  split
  case h_7 => rfl
  all_goals
    next same =>
      cases (List.cons.inj same).1
      exact absurd numeric (by decide)

/-- A numeral is read as its number. -/
theorem readsAs_number {literal : List Char} (numeral : IsNumeral literal) :
    ReadsAs (.number literal) literal := by
  obtain ⟨c, more, shape, numeric⟩ := numeral.exists_eq_cons
  refine readsAs_of_succ (shape ▸ List.cons_ne_nil c more) fun fuel rest _ ends => ?_
  have read := number?_append numeral (ends literal rfl)
  rw [shape, List.cons_append] at read ⊢
  rw [value?_of_numeric numeric, read]
  rfl

/-- The spelling of a text is read as that text. -/
theorem readsAs_string {text : Option String} {chars : List Char}
    (spelled : SpellsText text chars) : ReadsAs (.string text) ('"' :: (chars ++ ['"'])) := by
  refine readsAs_of_succ (List.cons_ne_nil _ _) fun fuel rest _ _ => ?_
  rw [List.cons_append, List.append_assoc, List.singleton_append, value?,
    skipBlanks_cons (by decide)]
  change (string? _).map _ = _
  rw [string?_of_spells spelled]
  rfl

/-- An array with a first item. -/
theorem value?_bracket {chars : List Char} (further : ∀ rest, skipBlanks chars ≠ ']' :: rest)
    (fuel : Nat) :
    value? (fuel + 1) ('[' :: chars) =
      (items? fuel chars).map fun read => (.array read.1, read.2) := by
  rw [value?, skipBlanks_cons (by decide), ← items?_skipBlanks]
  cases shape : skipBlanks chars with
  | nil => simp only [shape]
  | cons c rest =>
    simp only [shape]
    split
    · next same => exact absurd (shape.trans same) (further _)
    · rfl

/-- An object with a first member. -/
theorem value?_brace {chars : List Char} (further : ∀ rest, skipBlanks chars ≠ '\x7d' :: rest)
    (fuel : Nat) :
    value? (fuel + 1) ('\x7b' :: chars) =
      (members? fuel chars).map fun read => (.object read.1, read.2) := by
  rw [value?, skipBlanks_cons (by decide), ← members?_skipBlanks]
  cases shape : skipBlanks chars with
  | nil => simp only [shape]
  | cons c rest =>
    simp only [shape]
    split
    · next same => exact absurd (shape.trans same) (further _)
    · rfl

/-- Texts between commas start with the first of them. -/
theorem exists_commas_eq_append (first : List Char) (texts : List (List Char)) :
    ∃ more, commas (first :: texts) = first ++ more := by
  cases texts with
  | nil => exact ⟨[], by rw [commas_singleton, List.append_nil]⟩
  | cons second texts => exact ⟨_, commas_cons_cons first second texts⟩

/-- Slots whose values are read are read as their array. -/
theorem readsAs_array {slots : List Slot} (nonempty : slots ≠ [])
    (laidOut : ∀ slot ∈ slots, slot.IsLaidOut)
    (spelled : ∀ slot ∈ slots, Spells slot.value slot.text)
    (reads : ∀ slot ∈ slots, ReadsAs slot.value slot.text) :
    ReadsAs (.array (slots.map Slot.value))
      ('[' :: (commas (slots.map Slot.written) ++ [']'])) := by
  refine readsAs_of_succ (List.cons_ne_nil _ _) fun fuel rest enough _ => ?_
  rw [List.length_cons, List.length_append] at enough
  rw [List.cons_append, List.append_assoc, List.singleton_append, value?_bracket,
    items?_of_slots nonempty laidOut reads fuel (by omega)]
  · rfl
  · intro after closed
    obtain ⟨slot, slots, rfl⟩ := List.exists_cons_of_ne_nil nonempty
    obtain ⟨more, shape⟩ := exists_commas_eq_append slot.written (slots.map Slot.written)
    obtain ⟨c, later, first, solid, other⟩ := (spelled slot List.mem_cons_self).exists_eq_cons
    rw [List.map_cons, shape, Slot.written, List.append_assoc, List.append_assoc,
      skipBlanks_append (laidOut slot List.mem_cons_self).before, first, List.append_assoc,
      List.cons_append, skipBlanks_cons solid] at closed
    exact other (List.cons.inj closed).1

/-- Entries whose values are read are read as their object. -/
theorem readsAs_object {entries : List Entry} (nonempty : entries ≠ [])
    (laidOut : ∀ entry ∈ entries, entry.IsLaidOut)
    (reads : ∀ entry ∈ entries, ReadsAs entry.slot.value entry.slot.text) :
    ReadsAs (.object (entries.map Entry.member))
      ('\x7b' :: (commas (entries.map Entry.written) ++ ['\x7d'])) := by
  refine readsAs_of_succ (List.cons_ne_nil _ _) fun fuel rest enough _ => ?_
  rw [List.length_cons, List.length_append] at enough
  rw [List.cons_append, List.append_assoc, List.singleton_append, value?_brace,
    members?_of_entries nonempty laidOut reads fuel (by omega)]
  · rfl
  · intro after closed
    obtain ⟨entry, entries, rfl⟩ := List.exists_cons_of_ne_nil nonempty
    obtain ⟨more, shape⟩ := exists_commas_eq_append entry.written (entries.map Entry.written)
    rw [List.map_cons, shape, Entry.written, List.append_assoc, List.append_assoc,
      skipBlanks_append (laidOut entry List.mem_cons_self).before, List.cons_append,
      skipBlanks_cons (by decide)] at closed
    exact absurd (List.cons.inj closed).1 (by decide)

/-- **Every text of a value is read as the value.** -/
theorem Spells.readsAs {value : Json} {chars : List Char} (spelled : Spells value chars) :
    ReadsAs value chars := by
  induction spelled with
  | null => exact readsAs_of_succ (List.cons_ne_nil _ _) fun _ _ _ _ => rfl
  | truth => exact readsAs_of_succ (List.cons_ne_nil _ _) fun _ _ _ _ => rfl
  | falsehood => exact readsAs_of_succ (List.cons_ne_nil _ _) fun _ _ _ _ => rfl
  | number numeral => exact readsAs_number numeral
  | string spelled => exact readsAs_string spelled
  | emptyArray blank =>
    refine readsAs_of_succ (List.cons_ne_nil _ _) fun fuel rest _ _ => ?_
    rw [List.cons_append, List.append_assoc, List.singleton_append, value?,
      skipBlanks_cons (by decide)]
    simp only [skipBlanks_append blank, skipBlanks_cons (show isBlank ']' = false by decide)]
  | array nonempty laidOut spelled reads => exact readsAs_array nonempty laidOut spelled reads
  | emptyObject blank =>
    refine readsAs_of_succ (List.cons_ne_nil _ _) fun fuel rest _ _ => ?_
    rw [List.cons_append, List.append_assoc, List.singleton_append, value?,
      skipBlanks_cons (by decide)]
    simp only [skipBlanks_append blank, skipBlanks_cons (show isBlank '\x7d' = false by decide)]
  | object nonempty laidOut _ reads => exact readsAs_object nonempty laidOut reads

/-- A text is one of a value, with blanks around it. -/
def SpelledBy (value : Json) (text : String) : Prop :=
  ∃ before chars after, text.toList = before ++ (chars ++ after) ∧ IsBlanks before ∧
    Spells value chars ∧ IsBlanks after

/-- A text of a value with blanks around it reads as the value. -/
theorem parse?_of_spelledBy {value : Json} {text : String} (spelled : SpelledBy value text) :
    parse? text = some value := by
  obtain ⟨before, chars, after, shape, blankBefore, spells, blankAfter⟩ := spelled
  have delimited : Delimits after := by
    have nothing := delimits_of_blanks blankAfter delimits_nil
    rwa [List.append_nil] at nothing
  have enough : 2 * chars.length ≤ 2 * text.length + 2 := by
    rw [← String.length_toList, shape, List.length_append, List.length_append]
    omega
  rw [parse?, shape, value?_append_of_blanks blankBefore,
    spells.readsAs _ after enough fun _ _ => delimited]
  simp only [Option.bind_eq_bind, Option.bind_some, skipBlanks_eq_nil_iff.mpr blankAfter]
  rfl

/-- With more after it than blanks, a text of a value is no JSON, unless the value is a number that
goes on. -/
theorem parse?_of_further {value : Json} {text : String} {before chars after : List Char}
    (shape : text.toList = before ++ (chars ++ after)) (blank : IsBlanks before)
    (spells : Spells value chars) (more : ¬IsBlanks after) :
    parse? text = none ∨ ∃ literal, parse? text = some (.number literal) := by
  have enough : 2 * chars.length ≤ 2 * text.length + 2 := by
    rw [← String.length_toList, shape, List.length_append, List.length_append]
    omega
  rw [parse?, shape, value?_append_of_blanks blank]
  by_cases number : ∃ literal, value = .number literal
  · obtain ⟨literal, rfl⟩ := number
    cases spells with
    | number numeral =>
      obtain ⟨c, later, rfl, numeric⟩ := numeral.exists_eq_cons
      rw [List.cons_append, value?_of_numeric numeric]
      cases number? (c :: (later ++ after)) with
      | none => exact .inl rfl
      | some read =>
        simp only [Option.map_some, Option.bind_eq_bind, Option.bind_some]
        split
        · exact .inr ⟨read.1, rfl⟩
        · exact .inl rfl
  · rw [spells.readsAs _ after enough fun literal same => absurd ⟨literal, same⟩ number]
    simp only [Option.bind_eq_bind, Option.bind_some]
    refine .inl (if_neg fun ended => more ?_)
    exact skipBlanks_eq_nil_iff.mp (List.isEmpty_iff.mp ended)

end FriendGraph.Json
