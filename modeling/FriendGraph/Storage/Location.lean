import FriendGraph.Storage.FileUri

/-! # Where a database lies

The configured path of a database goes into a connection URL (`Location.url`), and the URL is
read back when the database is opened (`Location.ofUrl?`): its scheme is taken off, what stands
before the first question mark is percent-decoded into the name of the file, and what stands
after it is a form-encoded list of options. A path is written into the URL as it is, so it
comes back unchanged only when nothing in it is read as an escape or as the start of the
options. A name that is itself a URI says more about the file (`Location.ofName?`).
-/

namespace FriendGraph

/-- The place of a database. -/
inductive Location where
  /-- A database that is gone when it is closed. -/
  | memory
  /-- A file with this name. -/
  | file (name : String) (access : Access)
deriving DecidableEq

namespace Location

/-- The path that stands for a database in memory. -/
def memoryPath : String := ":memory:"

/-- The options that a URL asks for: a file is created when it is missing. -/
def createOptions : List (String × String) := [("mode", "rwc")]

/-- The connection URL of a configured path. -/
def url (path : String) : String :=
  if path = memoryPath then "sqlite::memory:" else "sqlite:" ++ path ++ "?mode=rwc"

/-- A text without the mark at its start, taken off up to the given number of times. -/
def stripTimes (mark : List Char) : Nat → List Char → List Char
  | 0, chars => chars
  | times + 1, chars =>
    if mark.isPrefixOf chars then stripTimes mark times (chars.drop mark.length) else chars

/-- A text without its scheme, however often it is repeated. -/
def stripScheme (chars : List Char) : List Char :=
  let strip (mark : String) (chars : List Char) : List Char :=
    stripTimes mark.toList chars.length chars
  strip "sqlite:" (strip "sqlite://" chars)

/-- What a connection URL names: the file, and the options after the first question mark. -/
def read? (url : String) : Option (String × List (String × String)) := do
  let (name, options) := Form.splitFirst '?' (stripScheme url.toList)
  return (← Percent.decode? name, ← Form.decode? (options.getD []))

/-- The location that a name of a file stands for. Without a name, a database is gone when it is
closed. -/
def ofName? (name : String) : Option Location := do
  if name.toList.contains '\x00' then none
  else if FileUri.isUri name then
    let uri ← FileUri.read? name
    match ← uri.access? with
    | none => return memory
    | some access =>
      if uri.name.isEmpty ∨ uri.name = memoryPath then
        if access.mayWrite then return memory else none
      else return file uri.name access
  else if name.isEmpty ∨ name = memoryPath then return memory
  else return file name .create

/-- The location that a connection URL stands for. A URL has no other options than `createOptions`,
or none at all for a database in memory. -/
def ofUrl? (url : String) : Option Location := do
  let (name, options) ← read? url
  if options = createOptions ∨ (options = [] ∧ name = memoryPath) then ofName? name else none

end Location

end FriendGraph
