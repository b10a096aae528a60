import FriendGraph.Edge

/-! # Users and friends

A registered user is a row with an identifier, a handle and a profile. A friend, as shown to
the user who lists them, is that profile with the state of the edge that leads to it; a text or
byte string that the row does not hold is shown empty.
-/

namespace FriendGraph

/-- A stored user. -/
structure UserRow where
  id : StoredId
  handle : String
  fullname : Option String
  avatarUrl : Option String
  lang : Option String
  location : Option String
  timezone : Option String
  metadata : Option (List UInt8)
  createdAt : Int
  updatedAt : Int
  lastOnlineAt : Int
  /-- The identifier of the user's account on the external network. -/
  externalId : Option String
deriving DecidableEq

/-- A user as shown to others. -/
structure Profile where
  id : UserId
  handle : String
  fullname : String
  avatarUrl : String
  lang : String
  location : String
  timezone : String
  metadata : List UInt8
  createdAt : Int
  updatedAt : Int
  lastOnlineAt : Int
deriving DecidableEq

/-- The profile of a stored user under the identifier that the row holds. -/
def UserRow.profile (row : UserRow) (id : UserId) : Profile where
  id := id
  handle := row.handle
  fullname := row.fullname.getD ""
  avatarUrl := row.avatarUrl.getD ""
  lang := row.lang.getD ""
  location := row.location.getD ""
  timezone := row.timezone.getD ""
  metadata := row.metadata.getD []
  createdAt := row.createdAt
  updatedAt := row.updatedAt
  lastOnlineAt := row.lastOnlineAt

/-- A user at the far end of an edge, with the state of the edge. -/
structure Friend where
  profile : Profile
  state : EdgeState
deriving DecidableEq

/-- The authenticated user who asks for an operation, with the handle of their session. -/
structure Caller where
  id : UserId
  handle : String
deriving DecidableEq

end FriendGraph
