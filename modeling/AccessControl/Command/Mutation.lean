import AccessControl.Command.Basic

namespace AccessControl

namespace Fields

/-- The fields that arguments stand for; a single sequence stands for its
items. -/
def ofArguments : List Value → Fields
  | [.list items] => items
  | [.tuple items] => items
  | arguments => arguments

end Fields

namespace Command

def key? (command : Command) (parameter : String) : Option String := do
  let [key] ← command.bind? 1 [parameter] | none
  return key.asText

def keyOr? (command : Command) (usual parameter : String) : Option String := do
  let [key] ← command.bind? 0 [parameter] | none
  return key.asTextOr usual

def row? (command : Command) : Option Fields := do
  let ([], values) ← command.bindRest? [] | none
  return .ofArguments values

def keyedRow? (command : Command) (parameter : String) :
    Option (String × Fields) := do
  let ([key], values) ← command.bindRest? [parameter] | none
  return (key.asText, .ofArguments values)

def rows? (command : Command) : Option (List Fields) := do
  let [rows] ← command.bind? 1 ["rows"] | none
  rows.fields?

def keyedRows? (command : Command) : Option (String × List Fields) := do
  let [key, rows] ← command.bind? 2 ["ptype", "rows"] | none
  return (key.asText, ← rows.fields?)

def filter? (command : Command) : Option RowFilter := do
  let ([start], values) ← command.bindRest? ["field_index"] | none
  return .ofValues start values

def keyedFilter? (command : Command) : Option (String × RowFilter) := do
  let ([key, start], values) ← command.bindRest? ["ptype", "field_index"] | none
  return (key.asText, .ofValues start values)

def link? (command : Command) : Option (String × Fields) := do
  let [subject, role, domain, key] ←
    command.bind? 2 ["subject", "role", "domain", "gtype"] | none
  return (key.asTextOr "g",
    match domain with
    | .null => [subject, role]
    | domain => [subject, role, domain])

end Command

namespace Mutation

private def under (make : String → ρ → Mutation Fields)
    (keyed? : Option (String × ρ)) : Option (Mutation Fields) :=
  keyed?.map fun keyed => make keyed.1 keyed.2

def ofCommand? (command : Command) : Option (Mutation Fields) :=
  match command.name with
  | "add_policy" => command.row?.map (.add "p")
  | "add_grouping_policy" => command.row?.map (.add "g")
  | "add_named_policy" => under .add (command.keyedRow? "ptype")
  | "add_named_grouping_policy" => under .add (command.keyedRow? "gtype")
  | "add_role_link" => under .add command.link?
  | "add_policies" => command.rows?.map (.addAll "p")
  | "add_named_policies" => under .addAll command.keyedRows?
  | "remove_policy" => command.row?.map (.remove "p")
  | "remove_grouping_policy" => command.row?.map (.remove "g")
  | "remove_named_policy" => under .remove (command.keyedRow? "ptype")
  | "remove_named_grouping_policy" => under .remove (command.keyedRow? "gtype")
  | "remove_role_link" => under .remove command.link?
  | "remove_policies" => command.rows?.map (.removeAll "p")
  | "remove_named_policies" => under .removeAll command.keyedRows?
  | "remove_filtered_policy" => command.filter?.map (.removeFiltered "p")
  | "remove_filtered_grouping_policy" =>
      command.filter?.map (.removeFiltered "g")
  | "remove_filtered_named_policy" =>
      under .removeFiltered command.keyedFilter?
  | "update_policy" => do
      let [old, new] ← command.bind? 2 ["old_row", "new_row"] | none
      return .update "p" (← old.members?) (← new.members?)
  | "update_named_policy" => do
      let [key, old, new] ← command.bind? 3 ["ptype", "old_row", "new_row"] | none
      return .update key.asText (← old.members?) (← new.members?)
  | _ => none

/-- The change that a storage is told of by a command; the key always comes
first. -/
def ofHook? (command : Command) : Option (Mutation Fields) :=
  match command.name, command.arguments with
  | "add_policy", [key, row] => return .add key.asText (← row.members?)
  | "add_policies", [key, rows] => return .addAll key.asText (← rows.fields?)
  | "remove_policy", [key, row] => return .remove key.asText (← row.members?)
  | "remove_policies", [key, rows] =>
      return .removeAll key.asText (← rows.fields?)
  | "remove_filtered_policy", key :: start :: values =>
      some (.removeFiltered key.asText (.ofValues start values))
  | "update_policy", [key, old, new] =>
      return .update key.asText (← old.members?) (← new.members?)
  | _, _ => none

end Mutation

end AccessControl
