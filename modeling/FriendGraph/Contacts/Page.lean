import FriendGraph.Contacts
import FriendGraph.Json.Reader

/-! # Pages of contacts

A page is a record with the contacts under `data` and, under `paging`, the link to the page
after it. A record may be an object, in which unknown members do not matter and a known one may
not be repeated, or an array of its fields in order, from which only trailing fields with a
default may be missing. The contacts default to none and the name of a contact to the empty
text; a link may be missing or null, everything else may not be null.
-/

namespace FriendGraph

/-- A page of contacts with the link to the next page. -/
structure ContactPage where
  contacts : List Contact
  next : Option String
deriving DecidableEq

namespace ContactPage

/-- Whether the names of all members are texts. -/
def hasNames (members : List (Option String × Json)) : Bool := members.all (·.1.isSome)

/-- A contact: its identifier, and its name unless it is left out. -/
def contact? : Json → Option Contact
  | .object members => do
    guard (hasNames members)
    let id ← (← Json.member? "id" members).bind Json.asText?
    match ← Json.member? "name" members with
    | none => return ⟨id, ""⟩
    | some name => return ⟨id, ← name.asText?⟩
  | .array [id] => do return ⟨← id.asText?, ""⟩
  | .array [id, name] => do return ⟨← id.asText?, ← name.asText?⟩
  | _ => none

/-- A list of contacts. -/
def contacts? : Json → Option (List Contact)
  | .array items => items.mapM contact?
  | _ => none

/-- A link, which may be null. -/
def link? : Json → Option (Option String)
  | .null => some none
  | value => value.asText?.map some

/-- The link in a paging record, which may be null. -/
def paging? : Json → Option (Option String)
  | .null => some none
  | .object members => do
    guard (hasNames members)
    match ← Json.member? "next" members with
    | none => return none
    | some next => link? next
  | .array [next] => link? next
  | _ => none

/-- The page that a JSON value is. -/
def ofJson? : Json → Option ContactPage
  | .object members => do
    guard (hasNames members)
    let contacts ←
      match ← Json.member? "data" members with
      | none => pure []
      | some data => contacts? data
    match ← Json.member? "paging" members with
    | none => return ⟨contacts, none⟩
    | some paging => return ⟨contacts, ← paging? paging⟩
  | .array [data, paging] => do return ⟨← contacts? data, ← paging? paging⟩
  | _ => none

/-- The page that a text is. -/
def parse? (text : String) : Option ContactPage := do ofJson? (← Json.parse? text)

end ContactPage

end FriendGraph
