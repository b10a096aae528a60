import FriendGraph.Setting.Yaml.Node

/-! # Settings files

A settings file is one YAML document whose root is a mapping, or a file without a document,
which has no settings (`Setting.ofYaml?`). The keys of a mapping are texts and integers, each at
most once.
-/

namespace FriendGraph.Setting

namespace Yaml

/-- The name that a key stands for, and whether the key is a text. -/
def Node.key? : Node → Option (Bool × String)
  | .scalar (.text name) => some (true, name)
  | .scalar (.integer value) => some (false, toString value)
  | _ => none

mutual

/-- The setting that a node is. -/
def Node.setting? : Node → Option Setting
  | .scalar meaning => some meaning.setting
  | .refused => none
  | .missing => some nothing
  | .sequence items => (settings? items).map list
  | .mapping pairs => (members? [] pairs []).map group

/-- The settings that nodes are. -/
def settings? : List Node → Option (List Setting)
  | [] => some []
  | node :: rest => do return (← node.setting?) :: (← settings? rest)

/-- The members of a mapping, after the keys and members so far. A text and an integer that look the
same are two keys with one name, of which the later one counts. -/
def members? : List (Bool × String) → List (Node × Node) → Members → Option Members
  | _, [], found => some found
  | keys, (key, value) :: rest, found => do
    let present ← key.key?
    if present ∈ keys then none
    else members? (present :: keys) rest (put present.2 (← value.setting?) found)

end

end Yaml

/-- A text without the mark of its encoding at its start. -/
def withoutMark (written : String) : String :=
  match written.toList with
  | '\ufeff' :: rest => String.ofList rest
  | _ => written

/-- The settings in a file, if it is one. -/
def ofYaml? (written : String) : Option Members := do
  match ← Yaml.Node.ofTokens? (← Yaml.tokens? (withoutMark written)) with
  | [] => some []
  | [root] =>
    match ← root.setting? with
    | group members => some members
    | _ => none
  | _ => none

end FriendGraph.Setting
