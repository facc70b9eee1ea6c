import AccessControl.Command.Mutation
import AccessControl.Storage.Basic

namespace AccessControl

/-- The lines that a value holds: pairs of a key and the fields of a row. -/
def Lines.ofValue? (value : Value) : Option Lines := do
  (← value.members?).mapM fun pair => do
    let [key, row] ← pair.members? | none
    return ⟨key.asText, ← row.members?⟩

namespace Storage

inductive Operation
  | load
  | save (lines : Lines)
  | follow (mutation : Mutation Fields)

def perform (storage : Storage) :
    Operation → Except StorageError (Option Lines) × Storage
  | .load =>
      let (answer, asked) := storage.load
      (answer.map some, asked)
  | .save lines =>
      match storage.save lines with
      | .ok saved => (.ok none, saved)
      | .error error => (.error error, storage)
  | .follow mutation =>
      let (answer, followed) := storage.follow mutation
      (answer.map fun _ => none, followed)

def Operation.ofCommand? (command : Command) : Option Operation :=
  match command.name, command.arguments with
  | "load_policy", [] => some .load
  | "save_policy", [lines] => return .save (← Lines.ofValue? lines)
  | _, _ => return .follow (← Mutation.ofHook? command)

end Storage

end AccessControl
