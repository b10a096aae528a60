import FriendGraph.Decimal.Binary

/-! # Settings as they are written

A setting is a value in a settings file or in the environment: a scalar, a list, or a group of
named members. Sources of settings are laid one over another (`Setting.layOver`). A group
merges member by member, at every depth, into the group that is there; anything else takes the
place of what is there. So a source speaks only for the members that it names, and of several
sources the last one that names a member decides it. Names are merged in lower case; the names of
groups in a list are kept as they are.
-/

namespace FriendGraph

/-- A value that is written in a source of settings. -/
inductive Setting where
  | nothing
  | bool (value : Bool)
  | integer (value : Int)
  | number (value : Binary)
  | text (value : String)
  | list (items : List Setting)
  /-- Named members, each name once. -/
  | group (members : List (String × Setting))

namespace Setting

/-- The members of a group. -/
abbrev Members := List (String × Setting)

/-- The least integer that a source can hold: the negative of two to the 63rd. -/
def leastInteger : Int := -9223372036854775808

/-- The greatest integer that a source can hold: one less than two to the 63rd. -/
def greatestInteger : Int := 9223372036854775807

/-- The integer that a text is, if a source can hold it. -/
def readInteger? (text : String) : Option Int :=
  (readInt? text).filter fun value => leastInteger ≤ value ∧ value ≤ greatestInteger

/-- Members with a value under a name: in the place of the one that is there, else at the end. -/
def put (name : String) (value : Setting) : Members → Members
  | [] => [(name, value)]
  | (present, there) :: rest =>
    if present = name then (name, value) :: rest else (present, there) :: put name value rest

/-- A value is found under the name that it was put under. -/
theorem lookup_put_self (name : String) (value : Setting) (members : Members) :
    (put name value members).lookup name = some value := by
  induction members with
  | nil => simp [put]
  | cons member rest inductionHypothesis =>
    obtain ⟨present, there⟩ := member
    by_cases same : present = name
    · simp [put, same]
    · have other : (name == present) = false := by simpa using Ne.symm same
      simp [put, same, List.lookup_cons, other, inductionHypothesis]

/-- Putting a value under a name leaves the other names alone. -/
theorem lookup_put_of_ne {name other : String} (differs : other ≠ name) (value : Setting)
    (members : Members) : (put name value members).lookup other = members.lookup other := by
  have notFound : (other == name) = false := by simpa using differs
  induction members with
  | nil => simp [put, List.lookup_cons, notFound]
  | cons member rest inductionHypothesis =>
    obtain ⟨present, there⟩ := member
    by_cases same : present = name
    · simp [put, same, List.lookup_cons, notFound]
    · simp [put, same, List.lookup_cons, inductionHypothesis]

/-- The members of a value; a value that is no group has none. -/
def membersOf : Option Setting → Members
  | some (group members) => members
  | _ => []

/-- A letter in lower case. Beyond ASCII the Kelvin sign alone has a lower case within it. -/
def lowerChar (c : Char) : Char := if c = '\u212a' then 'k' else c.toLower

/-- A name as it is merged. -/
def lowerName (name : String) : String := name.map lowerChar

mutual

/-- A value laid over the one that is there. A group without members changes nothing. -/
def overlay : Setting → Option Setting → Setting
  | group members, there =>
    if members.isEmpty then there.getD (group [])
    else group (overlayMembers members (membersOf there))
  | nothing, _ => nothing
  | bool value, _ => bool value
  | integer value, _ => integer value
  | number value, _ => number value
  | text value, _ => text value
  | list items, _ => list items

/-- Members laid over those that are there, one after another. -/
def overlayMembers : List (String × Setting) → Members → Members
  | [], there => there
  | (name, value) :: rest, there =>
    let name := lowerName name
    overlayMembers rest (put name (overlay value (there.lookup name)) there)

end

end Setting

end FriendGraph
