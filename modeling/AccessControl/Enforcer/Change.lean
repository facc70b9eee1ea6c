import AccessControl.Enforcer.Basic
import AccessControl.Storage.Basic

namespace AccessControl

/-! Changes of the rows: they are checked, then the storage follows them, and
only then are they made. -/

namespace Enforcer

def admits (table : PolicyTable) : Mutation Row → Bool
  | .add key row => !(table.isUnique key && table.has key row)
  | .addAll key rows =>
      !rows.isEmpty && (!table.isUnique key
        || (Decidable.decide rows.Nodup && !rows.any (table.has key)))
  | .remove key row => table.has key row
  | .removeAll key rows => !rows.isEmpty && rows.all (table.has key)
  | .removeFiltered key filter => !(table.filtered key filter).isEmpty
  | .update key old new =>
      table.has key old
        && !(table.isUnique key && new != old && table.has key new)

/-- The change with its rows checked, if it is to be made. -/
def check (enforcer : Enforcer) (mutation : Mutation Fields) :
    Except EnforceFault (Option (Mutation Row)) := do
  match mutation with
  | .removeFiltered key _ =>
      if (enforcer.model.arity? key).isNone then throw (.row (.unknownType key))
  | _ => pure ()
  let change ← (mutation.read (enforcer.model.readRow mutation.key)).mapError .row
  return if admits enforcer.table change then some change else none

def link (enforcer : Enforcer) (key : String) (row : Row) : Enforcer :=
  match enforcer.model.roles.lookup key, enforcer.graphs.lookup key with
  | some scope, some graph =>
      if enforcer.switches.buildRoleLinks then
        { enforcer with
          graphs := Entries.put key (addRow scope graph row) enforcer.graphs }
      else enforcer
  | _, _ => enforcer

/-- An equal row that is left keeps the link. -/
def unlink (enforcer : Enforcer) (key : String) (row : Row) : Enforcer :=
  match enforcer.model.roles.lookup key, enforcer.graphs.lookup key with
  | some scope, some graph =>
      if enforcer.switches.buildRoleLinks && !enforcer.table.has key row then
        { enforcer with
          graphs := Entries.put key (deleteRow scope graph row) enforcer.graphs }
      else enforcer
  | _, _ => enforcer

def changeTable (table : PolicyTable) : Mutation Row → PolicyTable
  | .add key row => (table.insert? key row).getD table
  | .addAll key rows => (table.insertAll? key rows).getD table
  | .remove key row => (table.erase? key row).getD table
  | .removeAll key rows => (table.eraseAll? key rows).getD table
  | .removeFiltered key filter => table.eraseFiltered key filter
  | .update key old new => (table.replace? key old new).getD table

def exchanged (table : PolicyTable) : Mutation Row → List Row × List Row
  | .add _ row => ([], [row])
  | .addAll _ rows => ([], rows)
  | .remove _ row => ([row], [])
  | .removeAll _ rows => (rows, [])
  | .removeFiltered key filter => (table.filtered key filter, [])
  | .update _ old new => ([old], [new])

def changeRows (enforcer : Enforcer) (change : Mutation Row) : Enforcer :=
  let (taken, brought) := exchanged enforcer.table change
  let changed := { enforcer with table := changeTable enforcer.table change }
  let unlinked := taken.foldl (·.unlink change.key ·) changed
  brought.foldl (·.link change.key ·) unlinked

/-- All that was decided before is forgotten. -/
def published (enforcer : Enforcer) : Enforcer :=
  { enforcer with
    version := enforcer.version + 1
    cache := enforcer.cache.invalidate }

def commit (enforcer : Enforcer) (change : Mutation Row) : Enforcer :=
  (enforcer.changeRows change).published.record
    (·.recordMutation change.operation)

/-- Lets the storage follow a change. A storage that has no hook for it is left
as it is. -/
def persist (storage : Storage) (change : Mutation Row) :
    Except StorageFault Unit × Storage :=
  match storage.follow (change.map fun row => row.map .text) with
  | (.ok (), storage) => (.ok (), storage)
  | (.error .unsupported, storage) => (.ok (), storage)
  | (.error error, storage) =>
      (.error ⟨storage.label, .failed error.message change.operation⟩, storage)

/-- Makes a change; tells whether it was made. A storage that answers at once is
made to follow it first, and nothing is changed if it fails. -/
def mutateBy (follow : Storage → Mutation Row → Except StorageFault Unit × Storage)
    (enforcer : Enforcer) (storage? : Option Storage) (mutation : Mutation Fields) :
    Answer Bool × Enforcer × Option Storage :=
  match enforcer.check mutation with
  | .error fault => (.error (.enforce fault), enforcer, storage?)
  | .ok none => (.ok false, enforcer, storage?)
  | .ok (some change) =>
      match storage? with
      | some storage =>
          if enforcer.switches.autoSave && storage.kind.immediate then
            match follow storage change with
            | (.ok (), storage) => (.ok true, enforcer.commit change, some storage)
            | (.error fault, storage) =>
                (.error (.storage fault),
                  enforcer.record (·.recordError Category.adapter.code),
                  some storage)
          else (.ok true, enforcer.commit change, storage?)
      | none => (.ok true, enforcer.commit change, none)

def mutate : Enforcer → Option Storage → Mutation Fields →
    Answer Bool × Enforcer × Option Storage :=
  mutateBy persist

end Enforcer

end AccessControl
