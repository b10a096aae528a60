import FriendGraph.UserId

/-! # Edges and counters

A friendship is two directed edges, one each way; a block is a single directed edge in state
`blocked`. A table keeps the state of an edge as an integer code, of which only 0 and 3 have a
meaning (`EdgeState.ofCode?_eq_some_iff`). A counter row holds the number of edges that leave a
user.
-/

namespace FriendGraph

/-- What a directed edge says about its two users. -/
inductive EdgeState where
  /-- The source counts the destination as a friend. -/
  | connected
  /-- The source has blocked the destination. -/
  | blocked
deriving DecidableEq

namespace EdgeState

/-- The stored code of a state. -/
def code : EdgeState → Int
  | connected => 0
  | blocked => 3

/-- The state that a stored code stands for. -/
def ofCode? (code : Int) : Option EdgeState :=
  if code = 0 then some connected else if code = 3 then some blocked else none

/-- The code of a state is read as that state. -/
@[simp] theorem ofCode?_code (state : EdgeState) : ofCode? state.code = some state := by
  cases state <;> rfl

/-- A code is read as a state exactly when it is the code of that state. -/
theorem ofCode?_eq_some_iff {code : Int} {state : EdgeState} :
    ofCode? code = some state ↔ code = state.code := by
  constructor
  · intro found
    unfold ofCode? at found
    split at found
    · next zero =>
      cases found
      exact zero
    · split at found
      · next three =>
        cases found
        exact three
      · cases found
  · rintro rfl
    exact ofCode?_code state

/-- A code of neither state is not read. -/
theorem ofCode?_eq_none_iff {code : Int} :
    ofCode? code = none ↔ code ≠ connected.code ∧ code ≠ blocked.code := by
  by_cases zero : code = 0
  · simp [ofCode?, EdgeState.code, zero]
  · by_cases three : code = 3 <;> simp [ofCode?, EdgeState.code, zero, three]

/-- The name of a state in answers. -/
def name : EdgeState → String
  | connected => "connected"
  | blocked => "blocked"

end EdgeState

/-- A stored edge. -/
structure EdgeRow where
  source : StoredId
  destination : StoredId
  /-- The creation time, which orders the edges of a source. -/
  position : Int
  updatedAt : Int
  /-- The stored code of the state. -/
  code : Int
deriving DecidableEq

/-- A new connected edge: its position is the time at which it is written. -/
def EdgeRow.connected (source destination : UserId) (time : Int) : EdgeRow where
  source := source.bytes
  destination := destination.bytes
  position := time
  updatedAt := time
  code := EdgeState.connected.code

/-- A stored edge whose state is known. -/
structure Edge where
  source : UserId
  destination : UserId
  position : Int
  updatedAt : Int
  state : EdgeState
deriving DecidableEq

/-- A stored counter. -/
structure CounterRow where
  owner : StoredId
  count : Int
  updatedAt : Int
deriving DecidableEq

/-- The counter of a user. -/
structure Counter where
  owner : UserId
  count : Int
  updatedAt : Int
deriving DecidableEq

end FriendGraph
