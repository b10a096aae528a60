import FriendGraph.Setting

/-! # Settings in the environment

An environment variable whose name starts with `SOCIALGRAPH_`, in any letter case, is a
setting: the rest of its name in lower case is the key, with two underscores for the dot
between the names of a path. The value is a truth value, an integer or a number when it reads
as one, else a text. So a text that looks like one of them is not kept as it was written.
-/

namespace FriendGraph.Setting

/-- The start of the names of variables that are settings, in lower case. -/
def variableStart : List Char := "socialgraph_".toList

/-- A name with a dot for every two underscores. -/
def dotted : List Char → List Char
  | '_' :: '_' :: rest => '.' :: dotted rest
  | c :: rest => c :: dotted rest
  | [] => []

/-- The key that a variable sets. -/
def keyOfVariable? (name : String) : Option String :=
  let lowered := name.toList.map lowerChar
  if variableStart.isPrefixOf lowered then
    some (String.ofList (dotted (lowered.drop variableStart.length)))
  else none

/-- The value of a variable. -/
def ofVariable (value : String) : Setting :=
  let lowered := value.map Char.toLower
  if lowered = "true" then bool true
  else if lowered = "false" then bool false
  else
    match readInteger? value with
    | some found => integer found
    | none =>
      match Decimal.read? value with
      | some found => number (Binary.nearest found)
      | none => text value

/-- The settings in an environment, the later of two variables for one key. -/
def ofEnvironment (environment : List (String × String)) : Members :=
  environment.foldl
    (fun found (name, value) =>
      match keyOfVariable? name with
      | some key => put key (ofVariable value) found
      | none => found)
    []

end FriendGraph.Setting
