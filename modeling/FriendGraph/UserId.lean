import FriendGraph.Hex

/-! # Identifiers

A user identifier is sixteen bytes, shown as five hyphenated groups of hexadecimal digits. What
a table stores is any byte string (`StoredId`); it names a user exactly when it has sixteen
bytes (`UserId.ofStored?_eq_some_iff`).
-/

namespace FriendGraph

/-- The bytes that a table holds where an identifier belongs. -/
abbrev StoredId := List UInt8

/-- An identifier of sixteen bytes. -/
structure UserId where
  /-- The bytes, first to last. -/
  bytes : List UInt8
  length_bytes : bytes.length = 16
deriving DecidableEq

namespace UserId

/-- Identifiers with the same bytes are the same. -/
@[ext] theorem ext {left right : UserId} (same : left.bytes = right.bytes) : left = right := by
  cases left
  cases right
  cases same
  rfl

/-- The identifier that a stored byte string is, when it has the length of one. -/
def ofStored? (bytes : StoredId) : Option UserId :=
  if length : bytes.length = 16 then some ⟨bytes, length⟩ else none

/-- Stored bytes are read as an identifier exactly when they are its bytes. -/
theorem ofStored?_eq_some_iff {bytes : StoredId} {id : UserId} :
    ofStored? bytes = some id ↔ id.bytes = bytes := by
  constructor
  · intro found
    unfold ofStored? at found
    split at found
    · cases found
      rfl
    · cases found
  · rintro rfl
    simp [ofStored?, id.length_bytes]

/-- The bytes of an identifier are read as that identifier. -/
@[simp] theorem ofStored?_bytes (id : UserId) : ofStored? id.bytes = some id :=
  ofStored?_eq_some_iff.mpr rfl

/-- The five hyphenated groups of four, two, two, two and six bytes. -/
def text (id : UserId) : String :=
  let group (start stop : Nat) : String := Hex.encode ((id.bytes.drop start).take (stop - start))
  "-".intercalate [group 0 4, group 4 6, group 6 8, group 8 10, group 10 16]

end UserId

end FriendGraph
