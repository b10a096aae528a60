import FriendGraph.Url.Address
import FriendGraph.Url.Domain
import FriendGraph.Url.Percent

/-! # Hosts

The host of a URL is a name or the number of a machine. A web URL writes a number with dots or in
brackets and any other host as a domain, percent-encoded or not (`Host.ofWeb?`); in other URLs a
host outside brackets is a name without further meaning (`Host.ofOther?`).
-/

namespace FriendGraph.Url

/-- What stands for a machine. -/
inductive Host where
  /-- A name, in lower case when it is a domain. -/
  | name (text : String)
  /-- An address of four bytes, as one number. -/
  | ipv4 (number : Nat)
  /-- An address of sixteen bytes, as eight pieces. -/
  | ipv6 (pieces : List Nat)
deriving DecidableEq

namespace Host

/-- Characters that no host may hold. -/
def isForbidden (c : Char) : Bool := "\x00\t\n\r #/:<>?@[\\]^|".toList.contains c

/-- Characters that no domain may hold. -/
def isForbiddenInDomain (c : Char) : Bool :=
  isForbidden c || c ≤ ' ' || c == '\x7f' || c == '%'

/-- Printable characters of ASCII: those that stand as they are in a name without meaning. -/
def isPrintable (c : Char) : Bool := ' ' ≤ c && c ≤ '~'

/-- The address that a text is whose opening bracket has been read. -/
def ofBracketed? (chars : List Char) : Option Host :=
  if chars.getLast? = some ']' then (Ipv6.read? chars.dropLast).map ipv6 else none

/-- The host that a domain is: a numeric address when it ends in a number. -/
def ofDomain? (domain : List Char) : Option Host :=
  if domain.isEmpty || domain.any isForbiddenInDomain then none
  else if Ipv4.endsInNumber domain then (Ipv4.read? domain).map ipv4
  else some (name (String.ofList domain))

/-- The host of a web URL. -/
def ofWeb? : List Char → Option Host
  | '[' :: rest => ofBracketed? rest
  | chars => do ofDomain? (← Domain.read? (← Percent.decode? chars).toList)

/-- The host of any other URL. -/
def ofOther? : List Char → Option Host
  | '[' :: rest => ofBracketed? rest
  | chars =>
    if chars.any isForbidden then none
    else some (name (String.ofList (Percent.encode isPrintable chars)))

/-- A host as it stands in a URL. -/
def text : Host → String
  | name text => text
  | ipv4 number => Ipv4.text number
  | ipv6 pieces => "[" ++ Ipv6.text pieces ++ "]"

end Host

end FriendGraph.Url
