import FriendGraph.Setting
import FriendGraph.Setting.Yaml.Token

/-! # Nodes of a settings file

A node is what a document is made of: a scalar, a sequence or a mapping. A plain scalar is read
for its meaning, unless a tag says otherwise, and any other scalar is a text (`Node.ofScalar`).
The tokens of a file give the nodes of its documents (`Node.ofTokens?`). Where a token of a
collection needs a node and there is none, the node is an empty scalar. An alias stands for the
node with its anchor.
-/

namespace FriendGraph.Setting.Yaml

/-- What a scalar means. -/
inductive Meaning where
  | nothing
  | bool (value : Bool)
  | integer (value : Int)
  | number (value : Binary)
  | text (value : String)

/-- The setting that a scalar is. -/
def Meaning.setting : Meaning → Setting
  | nothing => .nothing
  | bool value => .bool value
  | integer value => .integer value
  | number value => .number value
  | text value => .text value

/-- A node. -/
inductive Node where
  /-- A scalar with its meaning. -/
  | scalar (meaning : Meaning)
  /-- The name of a number that is not taken. -/
  | refused
  /-- A scalar that does not fit its tag, or an alias of a node that it is a part of. -/
  | missing
  | sequence (items : List Node)
  | mapping (members : List (Node × Node))

namespace Node

/-! ## Scalars -/

/-- An integer to a base, with an optional sign, if a source can hold it. -/
def readInBase? (base : Nat) (chars : List Char) : Option Int :=
  let magnitude? (digits : List Char) : Option Int :=
    if digits.isEmpty then none
    else
      digits.foldlM
        (fun total c => do
          let value ← Hex.value? c
          if value < base then some (total * base + value) else none)
        (0 : Int)
  let value? :=
    match chars with
    | '-' :: digits => (magnitude? digits).map (- ·)
    | '+' :: digits => magnitude? digits
    | digits => magnitude? digits
  value?.filter fun value => leastInteger ≤ value ∧ value ≤ greatestInteger

/-- The integer that a plain scalar is: decimal, or hexadecimal or octal after its mark. -/
def plainInteger? (chars : List Char) : Option Int :=
  match chars with
  | '0' :: 'x' :: digits => readInBase? 16 digits
  | '0' :: 'o' :: digits => readInBase? 8 digits
  | '+' :: digits => readInBase? 10 digits
  | digits => readInBase? 10 digits

/-- The names of infinity and of no number, which are not taken. -/
def refusedNames : List String :=
  [".inf", ".Inf", ".INF", "+.inf", "+.Inf", "+.INF", "-.inf", "-.Inf", "-.INF", ".nan", ".NAN"]

/-- The number that a text is. -/
def ofNumber? (written : String) : Option Node :=
  if written ∈ refusedNames then some refused
  else (Decimal.read? written).map fun value => scalar (.number (Binary.nearest value))

/-- What a plain scalar without a tag means. -/
def ofPlain (written : String) : Node :=
  if written = "" ∨ written = "~" ∨ written = "null" then scalar .nothing
  else if written = "true" then scalar (.bool true)
  else if written = "false" then scalar (.bool false)
  else
    match plainInteger? written.toList with
    | some value => scalar (.integer value)
    | none => (ofNumber? written).getD (scalar (.text written))

/-- The handle that tags of common kinds of scalars have. -/
def commonHandle : String := "tag:yaml.org,2002:"

/-- What a plain scalar means that a tag says the kind of. -/
def ofTagged (tag : Tag) (written : String) : Node :=
  if tag.handle ≠ commonHandle then scalar (.text written)
  else if tag.name = "bool" then
    if written = "true" then scalar (.bool true)
    else if written = "false" then scalar (.bool false)
    else missing
  else if tag.name = "int" then
    match readInteger? written with
    | some value => scalar (.integer value)
    | none => missing
  else if tag.name = "float" then (ofNumber? written).getD missing
  else if tag.name = "null" then
    if written = "~" ∨ written = "null" then scalar .nothing else missing
  else scalar (.text written)

/-- What a scalar means. -/
def ofScalar (isPlain : Bool) (tag : Option Tag) (written : String) : Node :=
  if !isPlain then scalar (.text written)
  else
    match tag with
    | some tag => ofTagged tag written
    | none => ofPlain written

/-- A scalar that is not written. -/
def empty : Node := scalar .nothing

/-! ## Mappings -/

/-- Whether a node stands for no value at all. -/
def isMissing : Node → Bool
  | missing => true
  | _ => false

/-- Keys and values in turn as members. Where a key should be, a node that stands for no value is
passed over, and a key without a value is no member. -/
def pair : List Node → List (Node × Node)
  | [] => []
  | first :: rest =>
    if first.isMissing then pair rest
    else
      match rest with
      | [] => []
      | value :: further => (first, value) :: pair further

/-- The mapping of keys and values in turn. -/
def ofPairs (nodes : List Node) : Node := mapping (pair nodes)

/-! ## Reading tokens -/

/-- What is known between two nodes of a document. -/
structure Reading where
  tokens : List Token
  /-- The meanings of handles. -/
  handles : List (String × String)
  /-- The numbers of anchors by name, the last one first. -/
  anchors : List (String × Nat)
  /-- The complete nodes by the numbers of their anchors. -/
  nodes : List (Nat × Node)
  /-- The number of anchors so far. -/
  count : Nat

/-- A step through the tokens, which may fail. -/
abbrev Reader := StateT Reading Option

/-- The next token, which stays. -/
def peek : Reader (Option Token) := do return (← get).tokens.head?

/-- Whether the next token is one of some. -/
def isNext (tokens : List Token) : Reader Bool := do return (← peek).any tokens.contains

/-- Pass over the next token. -/
def skip : Reader Unit := modify fun reading => { reading with tokens := reading.tokens.drop 1 }

/-- A tag with the meaning of its handle. A handle of its own has to be declared. -/
def resolve (tag : Tag) : Reader Tag := do
  let declared := (← get).handles.lookup tag.handle
  match declared with
  | some start => return { tag with handle := start }
  | none =>
    if tag.handle = "!!" then return { tag with handle := commonHandle }
    else if Tag.isClosed tag.handle.toList then failure
    else return tag

/-- Give a name to the node that follows. -/
def declare (name : String) : Reader Nat :=
  modifyGet fun reading =>
    (reading.count, { reading with
      anchors := (name, reading.count) :: reading.anchors
      count := reading.count + 1 })

/-- The anchor that comes next, if one does. -/
def anchor? : Reader (Option Nat) := do
  match ← peek with
  | some (.anchor name) =>
    skip
    return some (← declare name)
  | _ => return none

/-- The tag that comes next, if one does. -/
def tag? : Reader (Option Tag) := do
  match ← peek with
  | some (.tag tag) =>
    skip
    return some (← resolve tag)
  | _ => return none

/-- The tag and the anchor before a node, in either order. -/
def properties : Reader (Option Tag × Option Nat) := do
  match ← anchor? with
  | some place => return (← tag?, some place)
  | none =>
    match ← tag? with
    | some tag => return (some tag, ← anchor?)
    | none => return (none, none)

/-- Keep a complete node under the number of its anchor. -/
def keep (place : Option Nat) (node : Node) : Reader Node := do
  if let some place := place then
    modify fun reading => { reading with nodes := (place, node) :: reading.nodes }
  return node

/-- The node that an alias stands for. -/
def aliased (name : String) : Reader Node := do
  let reading ← get
  let place ← reading.anchors.lookup name
  return (reading.nodes.lookup place).getD missing

mutual

/-- A node. Block collections have to be allowed, and so have sequences that are no further in than
the key before them. -/
def node : Nat → Bool → Bool → Reader Node
  | 0, _, _ => failure
  | fuel + 1, inBlock, allowsEntries => do
    match ← peek with
    | some (.alias name) =>
      skip
      aliased name
    | _ =>
      let (tag, place) ← properties
      keep place (← content fuel inBlock allowsEntries tag (tag.isSome || place.isSome))

/-- The content of a node after its properties, of which there may be none. -/
def content : Nat → Bool → Bool → Option Tag → Bool → Reader Node
  | 0, _, _, _, _ => failure
  | fuel + 1, inBlock, allowsEntries, tag, hasProperties => do
    match ← peek with
    | some (.scalar isPlain written) =>
      skip
      return ofScalar isPlain tag written
    | some .flowSequence =>
      skip
      return sequence (← flowItems fuel true)
    | some .flowMapping =>
      skip
      return ofPairs (← flowMembers fuel true)
    | next =>
      if next = some .entry ∧ allowsEntries then return sequence (← entries fuel)
      else if next = some .blockSequence ∧ inBlock then
        skip
        return sequence (← blockItems fuel)
      else if next = some .blockMapping ∧ inBlock then
        skip
        return ofPairs (← blockMembers fuel)
      else if hasProperties then return ofScalar true tag ""
      else failure

/-- A node of a block collection, empty before certain tokens. -/
def nodeUnless : Nat → List Token → Bool → Reader Node
  | 0, _, _ => failure
  | fuel + 1, ends, allowsEntries => do
    if ← isNext ends then return empty else node fuel true allowsEntries

/-- The items of a sequence that is no further in than the key before it. -/
def entries : Nat → Reader (List Node)
  | 0 => failure
  | fuel + 1 => do
    if ← isNext [.entry] then
      skip
      let item ← nodeUnless fuel [.entry, .key, .value, .blockEnd] false
      return item :: (← entries fuel)
    else return []

/-- The items of a block sequence up to its end. -/
def blockItems : Nat → Reader (List Node)
  | 0 => failure
  | fuel + 1 => do
    match ← peek with
    | some .blockEnd =>
      skip
      return []
    | some .entry =>
      skip
      let item ← nodeUnless fuel [.entry, .blockEnd] false
      return item :: (← blockItems fuel)
    | _ => failure

/-- The keys and values of a block mapping up to its end. -/
def blockMembers : Nat → Reader (List Node)
  | 0 => failure
  | fuel + 1 => do
    match ← peek with
    | some .blockEnd =>
      skip
      return []
    | some .key =>
      skip
      let key ← nodeUnless fuel [.key, .value, .blockEnd] true
      let value ← blockValue fuel
      return key :: value :: (← blockMembers fuel)
    | some .value =>
      let value ← blockValue fuel
      return empty :: value :: (← blockMembers fuel)
    | _ => failure

/-- The value of a key of a block mapping. -/
def blockValue : Nat → Reader Node
  | 0 => failure
  | fuel + 1 => do
    if ← isNext [.value] then
      skip
      nodeUnless fuel [.key, .value, .blockEnd] true
    else return empty

/-- The keys and values of a flow mapping up to its end. Before all but the first key there is a
comma. -/
def flowMembers : Nat → Bool → Reader (List Node)
  | 0, _ => failure
  | fuel + 1, isFirst => do
    if ← isNext [.flowMappingEnd] then
      skip
      return []
    else
      if !isFirst then
        if ← isNext [.comma] then skip else failure
      match ← peek with
      | some .flowMappingEnd =>
        skip
        return []
      | some .key =>
        skip
        let key ← if ← isNext [.value, .comma, .flowMappingEnd] then pure empty
          else node fuel false false
        let value ← flowValue fuel [.comma, .flowMappingEnd]
        return key :: value :: (← flowMembers fuel false)
      | some .value =>
        let value ← flowValue fuel [.comma, .flowMappingEnd]
        return empty :: value :: (← flowMembers fuel false)
      | _ =>
        let key ← node fuel false false
        return key :: empty :: (← flowMembers fuel false)

/-- The value of a key of a flow collection, empty before certain tokens. -/
def flowValue : Nat → List Token → Reader Node
  | 0, _ => failure
  | fuel + 1, ends => do
    if ← isNext [.value] then
      skip
      if ← isNext ends then return empty else node fuel false false
    else return empty

/-- The items of a flow sequence up to its end. Before all but the first item there is a comma. A
key is one of a mapping with a single member. -/
def flowItems : Nat → Bool → Reader (List Node)
  | 0, _ => failure
  | fuel + 1, isFirst => do
    if ← isNext [.flowSequenceEnd] then
      skip
      return []
    else
      if !isFirst then
        if ← isNext [.comma] then skip else failure
      match ← peek with
      | some .flowSequenceEnd =>
        skip
        return []
      | some .key =>
        skip
        let key ←
          if ← isNext [.value, .comma, .flowSequenceEnd] then
            skip
            pure empty
          else node fuel false false
        let value ← flowValue fuel [.comma, .flowSequenceEnd]
        return ofPairs [key, value] :: (← flowItems fuel false)
      | _ =>
        let item ← node fuel false false
        return item :: (← flowItems fuel false)

end

/-! ## Documents -/

/-- Read the directives before a document. Only the last one counts, and only one may be on the
version. -/
def directives : Nat → Bool → Reader Unit
  | 0, _ => failure
  | fuel + 1, hasVersion => do
    match ← peek with
    | some .version =>
      if hasVersion then failure
      else
        skip
        modify fun reading => { reading with handles := [] }
        directives fuel true
    | some (.handle handle start) =>
      skip
      modify fun reading => { reading with handles := [(handle, start)] }
      directives fuel hasVersion
    | _ => return ()

/-- Whether the next token belongs to the edge of a document, or there is none. -/
def isAtEdge : Reader Bool := do
  match ← peek with
  | none | some .version | some (.handle _ _) | some .documentStart | some .documentEnd =>
    return true
  | some _ => return false

/-- The nodes of the documents from here on. A document without a mark at its start has to be the
first one or come after a mark for the end of the one before it. -/
def documents : Nat → Bool → Reader (List Node)
  | 0, _ => failure
  | fuel + 1, allowsBare => do
    match ← peek with
    | none => return []
    | some .documentEnd =>
      skip
      documents fuel allowsBare
    | _ =>
      let steps := 4 * (← get).tokens.length + 4
      let root ←
        if allowsBare && !(← isAtEdge) then node steps true false
        else do
          directives steps false
          if ← isNext [.documentStart] then
            skip
            if ← isAtEdge then pure empty else node steps true false
          else failure
      let isEnded ← isNext [.documentEnd]
      modify fun reading => { reading with handles := [], anchors := [] }
      if isEnded then
        skip
        return root :: (← documents fuel true)
      else
        match ← peek with
        | some .version | some (.handle _ _) => failure
        | _ => return root :: (← documents fuel false)

/-- The nodes of the documents in a file. -/
def ofTokens? (tokens : List Token) : Option (List Node) :=
  ((documents (tokens.length + 1) true).run ⟨tokens, [], [], [], 0⟩).map (·.1)

end Node

end FriendGraph.Setting.Yaml
