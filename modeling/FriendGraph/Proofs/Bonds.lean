import Mathlib.Data.Finset.Image
import Mathlib.Data.Sym.Sym2
import FriendGraph.Proofs.Outcome

/-! # One record for two users

The same service can be told with a single record for every two users, a *bond*: they are
unrelated, they are friends, or one of them has blocked the other (`Bond`). What a request does is
then decided by one record: adding makes friends of the unrelated, blocking needs a friend or a
block of one's own, and a removal ends every bond (`Bonds.serve`). No edges, no counters and no
times occur. Requests are checked as by the service, and the users are those of a directory.
-/

namespace FriendGraph

/-- What two users are to each other. Only one of the two can have blocked the other. -/
inductive Bond (pair : Sym2 UserId) where
  | unrelated
  | friends
  | blocked (blocker : { user // user ∈ pair })
deriving DecidableEq

/-- The bonds of all pairs of users. -/
def Bonds : Type := (pair : Sym2 UserId) → Bond pair

/-- What an operation answers, without notifications and without order. -/
inductive BondAnswer where
  | added (friendId : UserId) (isNew : Bool)
  | done
  | friends (friends : Finset Friend)
  | imported (connected : Finset UserId)

/-- What remains of an outcome when order and notifications are left aside. -/
def Outcome.bondAnswer : Outcome → BondAnswer
  | .added friendId isNew _ _ => .added friendId isNew
  | .done => .done
  | .friends listed => .friends listed.toFinset
  | .imported connected _ _ => .imported connected.toFinset

namespace Directory

variable {directory : Directory}

/-- A user is found under an identifier exactly when a row has it. -/
theorem withId?_eq_some_iff {id : StoredId} {row : UserRow} :
    directory.withId? id = some row ↔ row ∈ directory.rows ∧ row.id = id := by
  unfold withId?
  constructor
  · intro found
    exact ⟨List.mem_of_find?_eq_some found, by simpa using List.find?_some found⟩
  · rintro ⟨member, rfl⟩
    cases found : directory.rows.find? fun other => other.id = row.id with
    | none => exact absurd (List.find?_eq_none.mp found row member) (by simp)
    | some other =>
      have same : other.id = row.id := by simpa using List.find?_some found
      have listed := List.mem_of_find?_eq_some found
      rw [List.inj_on_of_nodup_map directory.nodup_ids listed member same]

/-- The registered users. -/
def members (directory : Directory) : Finset UserId :=
  (directory.rows.filterMap fun row => UserId.ofStored? row.id).toFinset

/-- A member is a user whose identifier a row has. -/
theorem mem_members {id : UserId} :
    id ∈ directory.members ↔ ∃ row ∈ directory.rows, row.id = id.bytes := by
  simp only [members, List.mem_toFinset, List.mem_filterMap, UserId.ofStored?_eq_some_iff,
    @eq_comm _ id.bytes]

end Directory

namespace Bond

/-- The state in which one of two users sees the other one, if they see them at all: whoever is
blocked does not. -/
def state? {pair : Sym2 UserId} (bond : Bond pair) (user : UserId) : Option EdgeState :=
  match bond with
  | unrelated => none
  | friends => some .connected
  | blocked blocker => if blocker.val = user then some .blocked else none

variable {pair : Sym2 UserId} {blocker : { user // user ∈ pair }} {one other : UserId}

theorem state?_of_blocker (same : blocker.val = one) :
    (blocked blocker).state? one = some .blocked := if_pos same

theorem state?_of_other (different : blocker.val ≠ one) : (blocked blocker).state? one = none :=
  if_neg different

/-- Two users are unrelated when neither of them sees the other one. -/
theorem eq_unrelated_iff {bond : Bond s(one, other)} :
    bond = unrelated ↔ bond.state? one = none ∧ bond.state? other = none := by
  constructor
  · rintro rfl
    exact ⟨rfl, rfl⟩
  · rintro ⟨forth, back⟩
    cases bond with
    | unrelated => rfl
    | friends => cases forth
    | blocked blocker =>
      rcases Sym2.mem_iff.mp blocker.property with isOne | isOther
      · cases (state?_of_blocker isOne).symm.trans forth
      · cases (state?_of_blocker isOther).symm.trans back

end Bond

namespace Bonds

/-- One user sees another one. -/
def Sees (bonds : Bonds) (user peer : UserId) : Prop := ((bonds s(user, peer)).state? user).isSome

/-- Nobody is related to anybody. -/
def strangers : Bonds := fun _ => .unrelated

/-- The bonds with one of them changed. -/
def change (pair : Sym2 UserId) (bond : Bond pair) (bonds : Bonds) : Bonds :=
  Function.update bonds pair bond

/-- The bonds with a user and several peers made friends. -/
def join (user : UserId) (peers : Finset UserId) (bonds : Bonds) : Bonds := fun pair =>
  if ∃ peer ∈ peers, pair = s(user, peer) then .friends else bonds pair

/-- Make friends of two users, the second of whom has to be registered. -/
def connect (directory : Directory) (user target : UserId) (bonds : Bonds) :
    Except RelationshipError Bool × Bonds :=
  if (directory.withId? target.bytes).isSome then
    match bonds s(user, target) with
    | .unrelated => (.ok true, bonds.change s(user, target) .friends)
    | .friends => (.ok false, bonds)
    | .blocked _ => (.error .blocked, bonds)
  else (.error (.notFound (.user target)), bonds)

/-- Make friends with a registered user. -/
def add (directory : Directory) (caller : Caller) (target : UserId) (bonds : Bonds) :
    Except RelationshipError Bool × Bonds :=
  if target = caller.id then (.error (.invalid (.self .add)), bonds)
  else bonds.connect directory caller.id target

/-- Make friends with the user who has a handle. -/
def addByHandle (directory : Directory) (caller : Caller) (handle : String) (bonds : Bonds) :
    Except RelationshipError (UserId × Bool) × Bonds :=
  if handle.isEmpty || handle = caller.handle then (.error (.invalid .handle), bonds)
  else
    match directory.named? handle with
    | none => (.error (.notFound (.handle handle)), bonds)
    | some target =>
      let added := bonds.add directory caller target
      (added.1.map fun isNew => (target, isNew), added.2)

/-- End a bond, whatever it is. -/
def remove (caller : Caller) (target : UserId) (bonds : Bonds) :
    Except RelationshipError Unit × Bonds :=
  if target = caller.id then (.error (.invalid (.self .remove)), bonds)
  else (.ok (), bonds.change s(caller.id, target) .unrelated)

/-- Turn friends into a user and somebody whom they block. -/
def bar (user target : UserId) (bonds : Bonds) : Except RelationshipError Unit × Bonds :=
  match bonds s(user, target) with
  | .friends => (.ok (), bonds.change s(user, target) (.blocked ⟨user, Sym2.mem_mk_left _ _⟩))
  | .blocked blocker =>
    if blocker.val = user then (.ok (), bonds)
    else (.error (.notFound (.relationship target)), bonds)
  | .unrelated => (.error (.notFound (.relationship target)), bonds)

/-- Block a friend. -/
def block (caller : Caller) (target : UserId) (bonds : Bonds) :
    Except RelationshipError Unit × Bonds :=
  if target = caller.id then (.error (.invalid (.self .block)), bonds)
  else bonds.bar caller.id target

/-- The registered users whom a user sees, each in a state. -/
def list (directory : Directory) (user : UserId) (bonds : Bonds) : Finset Friend :=
  (directory.rows.filterMap fun row => (UserId.ofStored? row.id).bind fun id =>
    ((bonds s(user, id)).state? user).map fun state => ⟨row.profile id, state⟩).toFinset

/-- The other registered users who have one of the accounts and are not related to the user. -/
def newcomers (directory : Directory) (user : UserId) (accounts : List String) (bonds : Bonds) :
    Finset UserId :=
  directory.members.filter fun id =>
    id ≠ user ∧ directory.Owns id accounts ∧ bonds s(user, id) = .unrelated

/-- Make friends with all newcomers. -/
def importContacts (directory : Directory) (user : UserId)
    (fetched : Except ContactsError (List Contact)) (bonds : Bonds) :
    Except RelationshipError (Finset UserId) × Bonds :=
  match fetched with
  | .error error => (.error (.contacts error), bonds)
  | .ok contacts =>
    let peers := bonds.newcomers directory user (contacts.map (·.id))
    (.ok peers, bonds.join user peers)

/-- Serve a call on bonds. -/
def serve (directory : Directory) (call : Call) (bonds : Bonds) :
    Except RelationshipError BondAnswer × Bonds :=
  match call.operation with
  | .add target =>
    let added := bonds.add directory call.caller target
    (added.1.map (.added target), added.2)
  | .addByHandle handle =>
    let added := bonds.addByHandle directory call.caller handle
    (added.1.map fun connected => .added connected.1 connected.2, added.2)
  | .remove target =>
    let removed := bonds.remove call.caller target
    (removed.1.map fun _ => .done, removed.2)
  | .block target =>
    let barred := bonds.block call.caller target
    (barred.1.map fun _ => .done, barred.2)
  | .list => (.ok (.friends (bonds.list directory call.caller.id)), bonds)
  | .importContacts _ fetched =>
    let imported := bonds.importContacts directory call.caller.id fetched
    (imported.1.map .imported, imported.2)

/-- The bonds after calls were served one after the other. -/
def serveAll (directory : Directory) (calls : List Call) (bonds : Bonds) : Bonds :=
  calls.foldl (fun bonds call => (bonds.serve directory call).2) bonds

end Bonds

end FriendGraph
