import FriendGraph.Url.Domain.Direction
import FriendGraph.Url.Domain.Folding
import FriendGraph.Url.Domain.Joining
import FriendGraph.Url.Domain.Mark
import FriendGraph.Url.Domain.Punycode
import FriendGraph.Url.Domain.Refused

/-! # Domains

A domain is a sequence of labels with dots between them. It is read without regard to letter
case and variants of characters (`Domain.read?`), and refused when a label holds a character
that no domain may hold, starts with a mark, joins letters where there are none to join, or has
no clear order. A label that is the form in ASCII of another one has to stand for one that could
not be written otherwise.
-/

namespace FriendGraph.Url.Domain

/-- The start of a label that is the form in ASCII of another one. -/
def encodedStart : List Char := "xn--".toList

/-- Whether a label can be part of a domain. -/
def isLabel (label : List Char) : Bool :=
  !label.any isRefused && !label.head?.any marks.contain && joinsLetters [] label

/-- The label that a label stands for, if it can be part of a domain. -/
def decodeLabel? (label : List Char) : Option (List Char) :=
  if encodedStart.isPrefixOf label then
    (Punycode.decode? (label.drop encodedStart.length)).filter fun decoded =>
      decoded.any (128 ≤ ·.toNat) && !decoded.any hasStandIn && isLabel decoded
  else if isLabel label then some label
  else none

/-- The domain that a text is, if it is one. What counts as a text in ASCII is written as that
text. -/
def read? (chars : List Char) : Option (List Char) := do
  let folded := chars.flatMap fold
  let labels ← (folded.splitOn '.').mapM decodeLabel?
  let isMarked := labels.any (·.any fun c => (Direction.ofChar c).isMarked)
  if chars.any isRefused || (isMarked && !labels.all Direction.isOrdered) then none
  else return folded

end FriendGraph.Url.Domain
