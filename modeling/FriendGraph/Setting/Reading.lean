import FriendGraph.Setting

/-! # Reading settings

What a setting stands for where a text, an integer or a record is wanted. Scalars of other
kinds are taken where they have an evident meaning: a number or a truth value as a text, a text
of digits or of a truth value as an integer, a fraction as the nearest integer. A record is a
group, or a list of its fields in their order; a field that is not there has its standard
value, and members that are no fields do not matter.
-/

namespace FriendGraph.Setting

/-- A setting as a text. -/
def asText? : Setting → Option String
  | bool true => some "true"
  | bool false => some "false"
  | integer value => some (toString value)
  | number value => some value.text
  | text value => some value
  | nothing | list _ | group _ => none

/-- The integer that a truth value counts as. -/
def ofTruth (value : Bool) : Int := if value then 1 else 0

/-- The truth value that a text spells, in any letter case. -/
def truthOfText? (value : String) : Option Bool :=
  let lowered := value.map Char.toLower
  if lowered = "true" ∨ lowered = "on" ∨ lowered = "yes" then some true
  else if lowered = "false" ∨ lowered = "off" ∨ lowered = "no" then some false
  else none

/-- The integer that a text spells. Where no negative one is wanted, no minus sign is taken. -/
def integerOfText? (least : Int) (value : String) : Option Int :=
  match truthOfText? value with
  | some truth => some (ofTruth truth)
  | none => if least < 0 then readInt? value else (readNat? value).map Int.ofNat

/-- A setting as an integer between two bounds. A fraction is rounded and kept between the
bounds, any other integer outside of them is refused. -/
def asInteger? (least greatest : Int) (setting : Setting) : Option Int :=
  let found :=
    match setting with
    | bool value => some (ofTruth value)
    | integer value => some value
    | number value => some (value.toIntWithin least greatest)
    | text value => integerOfText? least value
    | nothing | list _ | group _ => none
  found.filter fun value => least ≤ value ∧ value ≤ greatest

/-- A setting as an integer. -/
def asInt? (setting : Setting) : Option Int := setting.asInteger? leastInteger greatestInteger

/-- The greatest natural number that is taken: one less than two to the 64th. -/
def greatestNat : Int := 18446744073709551615

/-- The greatest natural number that is taken for a small one: one less than two to the 32nd. -/
def greatestSmallNat : Nat := 4294967295

/-- A setting as a natural number. -/
def asNat? (setting : Setting) : Option Nat := (setting.asInteger? 0 greatestNat).map Int.toNat

/-- A setting as a small natural number. A fraction is kept between the wider bounds only. -/
def asSmallNat? (setting : Setting) : Option Nat := setting.asNat?.filter (· ≤ greatestSmallNat)

/-- The fields of a record, by their names in a group and by their places in a list. -/
abbrev Fields := String → Nat → Option Setting

/-- A setting as the fields of a record. -/
def asFields? : Setting → Option Fields
  | group members => some fun name _ => members.lookup name
  | list items => some fun _ place => items[place]?
  | _ => none

end FriendGraph.Setting
