import FriendGraph.Setting

/-! # Keys of settings

The keys of a source are paths: a name, and from there further names after dots and places in
lists in brackets, as in `social[0].page_limit`. A value is laid over what is at the end of its
path (`Setting.overlayAt`); what is on the way becomes a group or a list if it is none.
-/

namespace FriendGraph.Setting

/-- A step on a path. -/
inductive Step where
  /-- To the member of a group with this name. -/
  | member (name : String)
  /-- To the item of a list at this place; a negative place counts from the end. -/
  | item (place : Int)
deriving DecidableEq

/-- The path that a value is set at. -/
structure Key where
  name : String
  steps : List Step
deriving DecidableEq

namespace Key

/-- The characters of the names in a path. -/
def isNameChar (c : Char) : Bool := c.isAlphanum || c == ' ' || c == '_' || c == '-'

/-- The integer in brackets, which may have blanks around it. -/
def place? (chars : List Char) : Option Int :=
  let isBlank (c : Char) : Bool := c == ' ' || c == '\t'
  let trimmed := ((chars.dropWhile isBlank).reverse.dropWhile isBlank).reverse
  if trimmed.head? = some '+' then none else readInteger? (String.ofList trimmed)

/-- The steps that a text is, if it is nothing but steps. The number bounds the steps. -/
def steps? : Nat → List Char → Option (List Step)
  | _, [] => some []
  | fuel + 1, '.' :: chars => do
    let name := chars.takeWhile isNameChar
    if name.isEmpty then none
    else
      let further ← steps? fuel (chars.dropWhile isNameChar)
      return .member (String.ofList name) :: further
  | fuel + 1, '[' :: chars => do
    let place ← place? (chars.takeWhile (· != ']'))
    match chars.dropWhile (· != ']') with
    | ']' :: rest => return .item place :: (← steps? fuel rest)
    | _ => none
  | _, _ => none

/-- The key that a text is. A text of another form is a single name. -/
def ofText (text : String) : Key :=
  let name := text.toList.takeWhile isNameChar
  match steps? text.length (text.toList.dropWhile isNameChar) with
  | some steps => if name.isEmpty then ⟨text, []⟩ else ⟨String.ofList name, steps⟩
  | none => ⟨text, []⟩

end Key

/-- The items of a value; a value that is no list has none. -/
def itemsOf : Option Setting → List Setting
  | some (list items) => items
  | _ => []

/-- Where a place lies in a list of so many items. -/
def indexOf (place : Int) (count : Nat) : Nat :=
  if 0 ≤ place then place.toNat else (count + place).toNat

/-- Items with a value at a place, after as many empty ones as it takes. -/
def putItem (place : Int) (value : Setting) (items : List Setting) : List Setting :=
  let index := indexOf place items.length
  (items ++ List.replicate (index + 1 - items.length) nothing).set index value

/-- What is there after a value was laid over what is at the end of some steps from it. An item
is replaced as a whole. -/
def overlayAt (value : Setting) : List Step → Option Setting → Setting
  | [], there => overlay value there
  | .member name :: further, there =>
    let members := membersOf there
    let name := lowerName name
    group (put name (overlayAt value further (members.lookup name)) members)
  | [.item place], there => list (putItem place value (itemsOf there))
  | .item place :: further, there =>
    let items := itemsOf there
    let item := items[indexOf place items.length]?
    list (putItem place (overlayAt value further item) items)

/-- Members with those of a further source laid over them. -/
def layOver (source members : Members) : Members :=
  source.foldl
    (fun merged (written, value) =>
      let key := Key.ofText written
      let name := lowerName key.name
      put name (overlayAt value key.steps (merged.lookup name)) merged)
    members

end FriendGraph.Setting
