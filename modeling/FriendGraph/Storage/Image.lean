import FriendGraph.Database
import FriendGraph.Decimal
import FriendGraph.Json.Reader

/-! # Databases as texts

A database is kept in a file as the text of a JSON object with one member for each table: null
where the table is missing, else its rows, each an array of its columns (`Database.image`).
Identifiers and other byte strings are written in hexadecimal. A text is read back only when it
is of this form and its rows keep the keys of their table apart (`Database.ofImage?`).
-/

namespace FriendGraph.Database

/-! ## Writing -/

/-- A column of bytes. -/
def bytesColumn (bytes : List UInt8) : Json := .ofString (Hex.encode bytes)

/-- A column that may be empty. -/
def optionalColumn {Value : Type} (column : Value → Json) : Option Value → Json
  | some value => column value
  | none => .null

/-- The columns of a user. -/
def userColumns (row : UserRow) : List Json :=
  [bytesColumn row.id, .ofString row.handle, optionalColumn .ofString row.fullname,
    optionalColumn .ofString row.avatarUrl, optionalColumn .ofString row.lang,
    optionalColumn .ofString row.location, optionalColumn .ofString row.timezone,
    optionalColumn bytesColumn row.metadata, .ofInt row.createdAt, .ofInt row.updatedAt,
    .ofInt row.lastOnlineAt, optionalColumn .ofString row.externalId]

/-- The columns of an edge. -/
def edgeColumns (row : EdgeRow) : List Json :=
  [bytesColumn row.source, bytesColumn row.destination, .ofInt row.position, .ofInt row.updatedAt,
    .ofInt row.code]

/-- The columns of a counter. -/
def counterColumns (row : CounterRow) : List Json :=
  [bytesColumn row.owner, .ofInt row.count, .ofInt row.updatedAt]

/-- The rows of a table, or null for a missing one. -/
def tableJson {Row : Type} (columns : Row → List Json) : Option (List Row) → Json :=
  optionalColumn fun rows => .array (rows.map fun row => .array (columns row))

/-- The text of a database. -/
def image (database : Database) : String :=
  Json.text (.ofMembers
    [(TableName.users.text, tableJson userColumns (database.users.map (·.rows))),
      (TableName.edges.text, tableJson edgeColumns (database.edges.map (·.rows))),
      (TableName.counters.text, tableJson counterColumns (database.counters.map (·.rows)))])

/-! ## Reading -/

/-- The integer in a column. -/
def readInt? : Json → Option Int
  | .number literal => FriendGraph.readInt? (String.ofList literal)
  | _ => none

/-- The bytes in a column. -/
def readBytes? (column : Json) : Option (List UInt8) := do Hex.decode? (← column.asText?)

/-- What is in a column that may be empty. -/
def readOptional? {Value : Type} (read : Json → Option Value) : Json → Option (Option Value)
  | .null => some none
  | column => (read column).map some

/-- The user in a list of columns. -/
def readUser? : List Json → Option UserRow
  | [id, handle, fullname, avatarUrl, lang, location, timezone, metadata, createdAt, updatedAt,
      lastOnlineAt, externalId] => do
    return {
      id := ← readBytes? id
      handle := ← handle.asText?
      fullname := ← readOptional? Json.asText? fullname
      avatarUrl := ← readOptional? Json.asText? avatarUrl
      lang := ← readOptional? Json.asText? lang
      location := ← readOptional? Json.asText? location
      timezone := ← readOptional? Json.asText? timezone
      metadata := ← readOptional? readBytes? metadata
      createdAt := ← readInt? createdAt
      updatedAt := ← readInt? updatedAt
      lastOnlineAt := ← readInt? lastOnlineAt
      externalId := ← readOptional? Json.asText? externalId }
  | _ => none

/-- The edge in a list of columns. -/
def readEdge? : List Json → Option EdgeRow
  | [source, destination, position, updatedAt, code] => do
    return ⟨← readBytes? source, ← readBytes? destination, ← readInt? position,
      ← readInt? updatedAt, ← readInt? code⟩
  | _ => none

/-- The counter in a list of columns. -/
def readCounter? : List Json → Option CounterRow
  | [owner, count, updatedAt] => do
    return ⟨← readBytes? owner, ← readInt? count, ← readInt? updatedAt⟩
  | _ => none

/-- The rows in an array. -/
def readRows? {Row : Type} (read : List Json → Option Row) : Json → Option (List Row)
  | .array rows => rows.mapM fun row =>
    match row with
    | .array columns => read columns
    | _ => none
  | _ => none

/-- The rows of a table among the members of an object; null stands for a missing table. -/
def readTable? {Row : Type} (read : List Json → Option Row) (name : TableName)
    (members : List (Option String × Json)) : Option (Option (List Row)) := do
  let table ← ← Json.member? name.text members
  readOptional? (readRows? read) table

/-- The database that a text is. -/
def ofImage? (written : String) : Option Database := do
  match ← Json.parse? written with
  | .object members =>
    let users ← readTable? readUser? .users members
    let edges ← readTable? readEdge? .edges members
    let counters ← readTable? readCounter? .counters members
    return {
      users := ← users.mapM fun rows =>
        rows.foldlM (fun directory row => directory.register? row) Directory.empty
      edges := ← edges.mapM fun rows => Table.empty.appendAll? rows
      counters := ← counters.mapM fun rows => Table.empty.appendAll? rows }
  | _ => none

end FriendGraph.Database
