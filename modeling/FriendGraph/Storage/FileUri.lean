import FriendGraph.Url.Form

/-! # Names of databases that are URIs

The name of a database that starts with `file:` is a URI. It may have an authority, which is
empty or `localhost`, and ends at the first number sign. What stands before the first question
mark is the name of the file and what stands after it a list of options, all of it
percent-encoded once more. The options say how the file is opened (`FileUri.access?`); options
that are not known do not matter.
-/

namespace FriendGraph

/-- How the file of a database is opened. -/
structure Access where
  /-- Whether the file is made when it is missing. -/
  mayCreate : Bool
  /-- Whether the database may be changed. -/
  mayWrite : Bool
deriving DecidableEq

/-- The access that makes a file when it is missing. -/
def Access.create : Access := ⟨true, true⟩

/-- A name that is a URI, in parts. -/
structure FileUri where
  name : String
  options : List (String × String)
deriving DecidableEq

namespace FileUri

/-- The characters that every URI starts with. -/
def scheme : List Char := "file:".toList

/-- Whether a name is a URI. -/
def isUri (name : String) : Bool := scheme.isPrefixOf name.toList

/-- A URI after its scheme without its authority; a machine other than this one is refused. -/
def withoutAuthority? (chars : List Char) : Option (List Char) :=
  match chars with
  | '/' :: '/' :: rest =>
    let authority := rest.takeWhile (· != '/')
    if authority.isEmpty ∨ authority = "localhost".toList then some (rest.dropWhile (· != '/'))
    else none
  | _ => some chars

/-- A part of a URI up to an escape for the NUL character. -/
def beforeNul : List Char → List Char
  | [] => []
  | '%' :: '0' :: '0' :: _ => []
  | c :: rest => c :: beforeNul rest

/-- The text that a part of a URI stands for. One that is no UTF-8 is kept as it is written. -/
def decode (chars : List Char) : String :=
  let part := beforeNul chars
  (Percent.decode? part).getD (String.ofList part)

/-- The parts of a URI. An option without a name is none. -/
def read? (uri : String) : Option FileUri := do
  let located ← withoutAuthority? (uri.toList.drop scheme.length)
  let (name, query) := Form.splitFirst '?' (located.takeWhile (· != '#'))
  let option (chars : List Char) : String × String :=
    let (key, value) := Form.splitFirst '=' chars
    (decode key, decode (value.getD []))
  let options := ((query.getD []).splitOn '&').map option
  return ⟨decode name, options.filter (·.1 ≠ "")⟩

/-! ## Options -/

/-- The modes of opening, in the order of what they allow. -/
inductive Mode where
  | readOnly
  | readWrite
  | create
  | memory
deriving DecidableEq

namespace Mode

/-- The mode with a name. -/
def ofName? : String → Option Mode
  | "ro" => some readOnly
  | "rw" => some readWrite
  | "rwc" => some create
  | "memory" => some memory
  | _ => none

/-- The place of a mode in the order. -/
def rank : Mode → Nat
  | readOnly => 0
  | readWrite => 1
  | create => 2
  | memory => 3

/-- The mode after a further one is asked for, which may allow no more; a database in memory may
always be asked for. -/
def restrict? (wanted current : Mode) : Option Mode :=
  if wanted = memory ∨ wanted.rank ≤ current.rank then some wanted else none

end Mode

/-- The file systems that a database can lie on, and whether they keep files at all. -/
def fileSystems : List (String × Bool) :=
  [("unix", true), ("unix-none", true), ("unix-dotfile", true), ("unix-excl", true),
    ("memdb", false)]

/-- The last value of an option. -/
def last? (name : String) (options : List (String × String)) : Option String :=
  options.reverse.lookup name

/-- The mode that options ask for one after another. -/
def mode? (options : List (String × String)) : Option Mode :=
  options.foldlM
    (fun current (name, value) =>
      if name = "mode" then do (← Mode.ofName? value).restrict? current
      else if name = "cache" then
        if value = "shared" ∨ value = "private" then some current else none
      else some current)
    Mode.create

/-- Whether a value switches something on: a word for it, or a number other than zero. -/
def isOn (value : String) : Bool :=
  let digits := value.toList.takeWhile Char.isDigit
  ["yes", "true", "on"].contains (value.map Char.toLower) || digits.any (· != '0')

/-- How the file is opened that a URI names; none for a database in memory. Not every list of
options makes sense. -/
def access? (uri : FileUri) : Option (Option Access) := do
  let mode ← mode? uri.options
  let keepsFiles ←
    match last? "vfs" uri.options with
    | none => some true
    | some name => fileSystems.lookup name
  let isFixed := (uri.options.lookup "immutable").any isOn
  match mode with
  | .readOnly => return some ⟨false, false⟩
  | .memory => return none
  | .readWrite => return if keepsFiles then some ⟨false, !isFixed⟩ else none
  | .create => return if keepsFiles then some ⟨true, !isFixed⟩ else none

end FileUri

end FriendGraph
