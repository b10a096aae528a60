import FriendGraph.Contacts.Page

/-! # The graph client

The contacts of an account are fetched page by page: the first page is under a fixed address
with the access token and the page size in its query, every further one under the link of the
page before it. Up to four attempts are made to get a page, another one only after a transient
failure; each of them may be sent on to other URLs.
The fetch answers with the contacts of all pages or with the error that ended it; it ends,
because only so many pages are followed.
-/

namespace FriendGraph

/-- The settings of the network that contacts are fetched from. -/
structure GraphSettings where
  /-- The address of the network, with its version. -/
  graphUrl : String
  /-- The time that an answer may take. -/
  timeoutSeconds : Nat
  /-- The number of contacts asked for per page. -/
  pageLimit : Nat
deriving DecidableEq

/-- The settings where nothing is said. -/
def GraphSettings.standard : GraphSettings := ⟨"https://graph.facebook.com/v2.8", 10, 5000⟩

/-- What a graph client needs to know. -/
structure GraphClient where
  /-- The address of the network, with its version. -/
  graphUrl : String
  /-- The number of contacts asked for per page. -/
  pageLimit : Nat
  /-- The number of pages that are followed. -/
  maxPages : Nat

namespace GraphClient

/-- The number of pages that are followed where nothing is said. -/
def standardMaxPages : Nat := 100

/-- The client for settings. -/
def ofSettings (settings : GraphSettings) : GraphClient :=
  ⟨settings.graphUrl, settings.pageLimit, standardMaxPages⟩

/-- A step of a fetch: it extends the trace of hops and answers or fails. -/
abbrev Step (Answer : Type) := Http.Trace → Except ContactsError Answer × Http.Trace

/-- An address without the slashes at its end. -/
def trimSlashes (address : String) : String :=
  String.ofList ((address.toList.reverse.dropWhile (· == '/')).reverse)

/-- The URL of the first page. -/
def firstPage? (client : GraphClient) (token : String) : Option Url :=
  (Url.parse? (trimSlashes client.graphUrl ++ "/me/friends")).map
    (·.withPairs [("access_token", token), ("limit", toString client.pageLimit)])

/-- The error that a status stands for, unless it is a success. -/
def statusError? (status : Http.Status) (body : String) : Option ContactsError :=
  let shown := Http.excerpt body
  if status.isSuccess then none
  else if status = 401 ∨ status = 403 then some (.unauthorized shown)
  else if status = 429 ∨ status.isServerError then some (.unavailable status shown)
  else some (.unexpected (.status status shown))

/-- The page in an answer. -/
def readPage (response : Http.Response) : Except ContactsError ContactPage :=
  match statusError? response.status response.body with
  | some error => .error error
  | none =>
    match ContactPage.parse? response.body with
    | some page => .ok page
    | none => .error (.unexpected .page)

/-- One attempt to get a page. -/
def attempt (network : Http.Network) (url : Url) : Step ContactPage := fun trace =>
  match network.exchange url .get none trace with
  | (.ok response, extended) => (readPage response, extended)
  | (.error fault, extended) => (.error (.transfer fault), extended)

/-- An attempt to get a page, with so many more after transient failures. -/
def attempts (network : Http.Network) (url : Url) : Nat → Step ContactPage
  | 0 => attempt network url
  | more + 1 => fun trace =>
    match attempt network url trace with
    | (.ok page, extended) => (.ok page, extended)
    | (.error error, extended) =>
      if error.isTransient then attempts network url more extended else (.error error, extended)

/-- The number of attempts after the first one. -/
def furtherAttempts : Nat := 3

/-- The contacts found so far and those of the chain of pages from a URL on, of which so many
pages may still be followed. -/
def follow (client : GraphClient) (network : Http.Network) :
    Nat → Url → List Contact → Step (List Contact)
  | 0, _, _ => fun trace => (.error (.unexpected (.tooManyPages client.maxPages)), trace)
  | left + 1, url, found => fun trace =>
    match attempts network url furtherAttempts trace with
    | (.error error, extended) => (.error error, extended)
    | (.ok page, extended) =>
      match page.next with
      | none => (.ok (found ++ page.contacts), extended)
      | some link =>
        match Url.parse? link with
        | none => (.error (.unexpected .pagingLink), extended)
        | some next => follow client network left next (found ++ page.contacts) extended

/-- Fetch the contacts of the account that owns an access token. -/
def fetch (client : GraphClient) (network : Http.Network) (token : String) :
    Step (List Contact) := fun trace =>
  match client.firstPage? token with
  | none => (.error (.unexpected .graphUrl), trace)
  | some url => follow client network client.maxPages url [] trace

/-- The contacts behind a network as a source. -/
def source (client : GraphClient) (network : Http.Network) : ContactSource := fun token =>
  (client.fetch network token []).1

end GraphClient

end FriendGraph
