import FriendGraph.Http.Network

/-! # Contacts on an external network

A source of contacts answers an access token with the contacts of the account that owns it, or
with an error. An error is worth another attempt when it is transient: the transfer failed on
the way, or the network says that it is unavailable.
-/

namespace FriendGraph

/-- A contact: an account of the external network with its display name. -/
structure Contact where
  id : String
  name : String
deriving DecidableEq

/-- What is wrong with an answer of the external network. -/
inductive UnexpectedAnswer where
  /-- The address of the network is no absolute URL. -/
  | graphUrl
  /-- The link to the next page is no absolute URL. -/
  | pagingLink
  /-- The page cannot be read. -/
  | page
  /-- The status is none that is expected; a part of the body is kept. -/
  | status (code : Http.Status) (shown : String)
  /-- The pages do not come to an end. -/
  | tooManyPages (limit : Nat)
deriving DecidableEq

/-- The causes of a failed fetch of contacts. -/
inductive ContactsError where
  | transfer (fault : Http.TransferFault)
  /-- The access token is not accepted. -/
  | unauthorized (reason : String)
  /-- The network is not available at present. -/
  | unavailable (status : Http.Status) (shown : String)
  | unexpected (answer : UnexpectedAnswer)
deriving DecidableEq

/-- The wording of an unexpected answer. -/
def UnexpectedAnswer.message : UnexpectedAnswer → String
  | graphUrl => "invalid graph url"
  | pagingLink => "invalid paging link"
  | page => "bad page"
  | status code shown => Http.failureLine code shown
  | tooManyPages limit => "friend list exceeds " ++ toString limit ++ " pages"

namespace ContactsError

/-- The display text of an error, where this library words it. -/
def message? : ContactsError → Option String
  | transfer _ => none
  | unauthorized reason => some ("Access token rejected: " ++ reason)
  | unavailable status shown =>
    some ("Social network unavailable: " ++ Http.failureLine status shown)
  | unexpected answer => some ("Unexpected response: " ++ answer.message)

/-- Whether another attempt may do better. -/
def isTransient : ContactsError → Bool
  | transfer fault => fault.isTransient
  | unavailable _ _ => true
  | unauthorized _ | unexpected _ => false

end ContactsError

/-- What answers an access token with contacts. -/
abbrev ContactSource := String → Except ContactsError (List Contact)

/-- A fixed list of contacts, for every access token, or the refusal of every token. -/
structure FixedContacts where
  contacts : List Contact
  refusesTokens : Bool

/-- The source that a fixed list is. -/
def FixedContacts.source (fixed : FixedContacts) : ContactSource := fun _ =>
  if fixed.refusesTokens then .error (.unauthorized "static client") else .ok fixed.contacts

end FriendGraph
