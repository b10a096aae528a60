import FriendGraph.Http.Status
import FriendGraph.Url

/-! # Requests over the network

The other side of the network is a function: it says what the hop with a given number to a URL
gets. Hops are numbered in the order in which they are made, and those made so far are the trace
that every exchange extends; the other side sees the request of a hop only when the connection is
made. An exchange makes the hop to its URL, unless that cannot be asked for at all, and while the
answers send it on (`Network.onward?`) the hops to where they send it, so many at most.

How a client reads the location that an answer names is taken as it is given (`Network.locate`): it
may be an absolute URL or one that is relative to the URL that was asked for.
-/

namespace FriendGraph.Http

/-- The methods in use. -/
inductive Method where
  | get
  | post
deriving DecidableEq

/-- The name of a method in a request. -/
def Method.text : Method → String
  | get => "GET"
  | post => "POST"

/-- The body of a request with its media type. -/
structure Content where
  mediaType : String
  body : String
deriving DecidableEq

/-- A request as the other side sees it. -/
structure Request where
  method : Method
  target : String
  content : Option Content
deriving DecidableEq

/-- What the other side does with a hop. -/
inductive Reply where
  /-- It takes no connection. -/
  | refusal
  /-- It answers, and may name a location. -/
  | answer (status : Status) (location : Option String) (body : String)
  /-- It closes the connection without an answer. -/
  | close
  /-- It never answers. -/
  | silence
deriving DecidableEq

/-- An answer as it arrives. -/
structure Response where
  status : Status
  /-- Where the answer sends the client, if it does. -/
  location : Option String
  body : String
deriving DecidableEq

/-- Why no answer arrives. -/
inductive TransferFault where
  /-- The address is no absolute URL. -/
  | invalidUrl
  /-- The scheme of the URL is not one of the web. -/
  | unsupportedScheme
  /-- The URL cannot stand in a request. -/
  | unsendableUrl
  /-- No connection is made. -/
  | refused
  /-- The connection is closed before an answer. -/
  | closed
  /-- The answer cannot be read. -/
  | malformed
  /-- The time for an answer runs out. -/
  | timedOut
  /-- The answers send the client on too often. -/
  | tooManyRedirects
deriving DecidableEq

/-- Whether another attempt may do better: no connection was made, or time ran out. -/
def TransferFault.isTransient : TransferFault → Bool
  | refused | timedOut => true
  | invalidUrl | unsupportedScheme | unsendableUrl | closed | malformed | tooManyRedirects => false

/-- A network, with the other side of it and the client on this side. -/
structure Network where
  /-- What the hop with this number gets that is made to a URL. -/
  reply : Url → Nat → Reply
  /-- The URL that the client reads from the location that an answer from a URL names. -/
  locate : Url → String → Option Url

/-- Whether a URL is one of the web. -/
def isWeb (url : Url) : Bool := url.scheme == "http" || url.scheme == "https"

/-- The number of bytes that the text of a URL may have in a request. -/
def longestUrl : Nat := 65534

/-- Characters that the host of a URL may hold, but not that of a request. -/
def isRefusedInHost (c : Char) : Bool := "\"`\x7b\x7d".toList.contains c

/-- Whether a URL can stand in a request. -/
def isSendable (url : Url) : Bool :=
  url.text.utf8ByteSize ≤ longestUrl &&
    !(url.host.any fun host => host.text.toList.any isRefusedInHost)

/-- What an answer comes to when it arrives. After an announcement the connection ends without the
answer that was announced. -/
def receive (status : Status) (location : Option String) (body : String) :
    Except TransferFault Response :=
  if !status.isSendable then .error .malformed
  else if status.isInterim then .error .closed
  else .ok ⟨status, location, if status.hasBody then body else ""⟩

/-- The hops made so far, the first one first: the request that the other side saw, or none where it
took no connection. -/
abbrev Trace := List (Option Request)

/-- The requests that the other side saw. -/
def Trace.requests (trace : Trace) : List Request := trace.filterMap id

/-- What reaches the other side when it deals with a request in some way. -/
def Reply.seen? (request : Request) : Reply → Option Request
  | .refusal => none
  | .answer _ _ _ => some request
  | .close => some request
  | .silence => some request

/-- What a hop comes to. -/
def Reply.outcome : Reply → Except TransferFault Response
  | .refusal => .error .refused
  | .answer status location body => receive status location body
  | .close => .error .closed
  | .silence => .error .timedOut

/-- A request that is to be made to a URL. -/
structure Errand where
  url : Url
  method : Method
  content : Option Content
deriving DecidableEq

namespace Errand

/-- The request, as the other side sees it. -/
def request (errand : Errand) : Request := ⟨errand.method, errand.url.target, errand.content⟩

/-- What becomes of an errand that an answer with a status sends on to a URL: the same errand there,
or only to get what is there. -/
def redirected (errand : Errand) (status : Status) (url : Url) : Errand :=
  if status.keepsRequest then { errand with url := url } else ⟨url, .get, none⟩

end Errand

/-- How often an exchange may be sent on. -/
def redirectLimit : Nat := 10

namespace Network

/-- A network that nothing can be reached on. -/
def unreachable : Network := ⟨fun _ _ => .refusal, fun _ _ => none⟩

/-- The errand that an answer sends the client on with: the answer has to name a location, and the
client has to read a URL from it that can stand in a request. -/
def onward? (network : Network) (errand : Errand) (response : Response) : Option Errand :=
  if response.status.isRedirect then
    ((response.location.bind (network.locate errand.url)).filter isSendable).map
      (errand.redirected response.status)
  else none

/-- Run an errand, and then those that the answers send the client on with, so many at most. -/
def run (network : Network) : Nat → Errand → Trace → Except TransferFault Response × Trace
  | left, errand, trace =>
    let reply := network.reply errand.url trace.length
    let extended := trace ++ [reply.seen? errand.request]
    match reply.outcome with
    | .error fault => (.error fault, extended)
    | .ok response =>
      match network.onward? errand response, left with
      | none, _ => (.ok response, extended)
      | some _, 0 => (.error .tooManyRedirects, extended)
      | some onward, left + 1 =>
        if isWeb onward.url then network.run left onward extended
        else (.error .unsupportedScheme, extended)

/-- Send a request and wait for the answer that the client is not sent on from. -/
def exchange (network : Network) (url : Url) (method : Method) (content : Option Content)
    (trace : Trace) : Except TransferFault Response × Trace :=
  if !isWeb url then (.error .unsupportedScheme, trace)
  else if !isSendable url then (.error .unsendableUrl, trace)
  else network.run redirectLimit ⟨url, method, content⟩ trace

end Network

end FriendGraph.Http
