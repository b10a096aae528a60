import FriendGraph.Store

/-! # Seeding edges

An edge can be set up directly, past the rules for relationships: its counter is raised if the
edge is new, and it gets the wanted state.
-/

namespace FriendGraph.Store

/-- Set up an edge in a state, in one transaction. -/
def seedEdge (budget : Budget) (source destination : UserId) (state : EdgeState) (time : Int) :
    Action StorageError Unit :=
  Action.atomically do
    if ← insertIfAbsent source destination time then
      increment budget [source] 1 time
    if state ≠ .connected then
      let _ ← setState source destination state time

end FriendGraph.Store
