import AccessControl.Command.Basic
import AccessControl.Policy.Table

namespace AccessControl.PolicyTable

inductive Operation
  | setUnique (key : String) (unique : Bool)
  | isUnique (key : String)
  | insert (key : String) (row : Row)
  | insertAll (key : String) (rows : List Row)
  | erase (key : String) (row : Row)
  | eraseAll (key : String) (rows : List Row)
  | eraseFiltered (key : String) (filter : RowFilter)
  | replace (key : String) (old new : Row)
  | replaceAll (key : String) (old new : List Row)
  | rows (key : String)
  | filtered (key : String) (filter : RowFilter)
  | withField (key : String) (index : Int) (value : String)
  | fieldValues (key : String) (index : Int)
  | has (key : String) (row : Row)
  | keys
  | count (key : String)
  | size
  | clear
  | clearKey (key : String)
deriving DecidableEq, Repr

def changed (table : PolicyTable) : Option PolicyTable → Answer Reply × PolicyTable
  | some next => (.ok (.flag true), next)
  | none => (.ok (.flag false), table)

def perform (table : PolicyTable) : Operation → Answer Reply × PolicyTable
  | .setUnique key unique => (.ok .done, table.setUnique key unique)
  | .isUnique key => (.ok (.flag (table.isUnique key)), table)
  | .insert key row => table.changed (table.insert? key row)
  | .insertAll key rows => table.changed (table.insertAll? key rows)
  | .erase key row => table.changed (table.erase? key row)
  | .eraseAll key rows => table.changed (table.eraseAll? key rows)
  | .eraseFiltered key filter =>
      (.ok (.rows (table.filtered key filter)), table.eraseFiltered key filter)
  | .replace key old new => table.changed (table.replace? key old new)
  | .replaceAll key old new => table.changed (table.replaceAll? key old new)
  | .rows key => (.ok (.rows (table.rows key)), table)
  | .filtered key filter => (.ok (.rows (table.filtered key filter)), table)
  | .withField key index value =>
      match table.withField key index value with
      | .ok (rows, table) => (.ok (.rows rows), table)
      | .error failure => (.error failure, table)
  | .fieldValues key index =>
      ((table.fieldValues key index).map Reply.texts, table)
  | .has key row => (.ok (.flag (table.has key row)), table)
  | .keys => (.ok (.texts table.keys), table)
  | .count key => (.ok (.count (table.count key)), table)
  | .size => (.ok (.count table.size), table)
  | .clear => (.ok .done, table.clear)
  | .clearKey key => (.ok .done, table.clearKey key)

namespace Operation

def ofCommand? (command : Command) : Option Operation :=
  match command.name, command.arguments with
  | "set_unique", [key] => some (.setUnique key.asText true)
  | "set_unique", [key, unique] => some (.setUnique key.asText unique.truthy)
  | "is_unique", [key] => some (.isUnique key.asText)
  | "add", [key, row] => some (.insert key.asText row.asRow)
  | "add_many", [key, batch] => some (.insertAll key.asText batch.asRows)
  | "remove", [key, row] => some (.erase key.asText row.asRow)
  | "remove_many", [key, batch] => some (.eraseAll key.asText batch.asRows)
  | "remove_filtered", key :: start :: values =>
      some (.eraseFiltered key.asText (.ofValues start values))
  | "update", [key, old, new] => some (.replace key.asText old.asRow new.asRow)
  | "update_many", [key, old, new] =>
      some (.replaceAll key.asText old.asRows new.asRows)
  | "get_all", [key] | "rows", [key] => some (.rows key.asText)
  | "get_filtered", key :: start :: values =>
      some (.filtered key.asText (.ofValues start values))
  | "filter", [key, index, value] =>
      some (.withField key.asText index.asIndex value.asText)
  | "field_values", [key, index] => some (.fieldValues key.asText index.asIndex)
  | "has", [key, row] => some (.has key.asText row.asRow)
  | "keys", [] => some .keys
  | "count", [.text key] => some (.count key)
  | "count", [] | "count", [.null] => some .size
  | "clear", [.text key] => some (.clearKey key)
  | "clear", [] | "clear", [.null] => some .clear
  | _, _ => none

end Operation

def obey (table : PolicyTable) (command : Command) : Answer Reply × PolicyTable :=
  match Operation.ofCommand? command with
  | some operation => table.perform operation
  | none => (.error misfit, table)

end AccessControl.PolicyTable
