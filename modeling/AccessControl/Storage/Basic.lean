import AccessControl.Storage.Lines

namespace AccessControl

/-- What a storage may be asked to do in one step. -/
inductive Hook
  | load
  | save
  | add
  | remove
  | removeFiltered
  | update
deriving DecidableEq, Repr

def Hook.name : Hook → String
  | .load => "load_policy"
  | .save => "save_policy"
  | .add => "add_policy"
  | .remove => "remove_policy"
  | .removeFiltered => "remove_filtered_policy"
  | .update => "update_policy"

inductive StorageKind
  /-- keeps rows and follows every change -/
  | memory
  /-- cannot be reached -/
  | failing (message : String)
  /-- keeps rows, but some hooks fail, some are missing, and there may be room
  for a number of rows only -/
  | flaky (failing skipped : List String) (limit : Option Nat)
  /-- loads and saves, but follows no change -/
  | loadOnly
  /-- is waited for, and has no hooks for changes -/
  | deferred
  /-- is waited for, and may fail -/
  | busy (failing : List String)
deriving DecidableEq, Repr

inductive StorageError
  | unsupported
  | unreachable (message : String)
  | flaky (hook : Hook)
  | full
  | indexRange
  | absent
deriving DecidableEq, Repr

def StorageError.message : StorageError → String
  | .unsupported => ""
  | .unreachable message => message
  | .flaky hook => "flaky " ++ hook.name
  | .full => "adapter full"
  | .indexRange => "tuple index out of range"
  | .absent => ""

namespace StorageKind

def label : StorageKind → String
  | .memory => "MemoryAdapter"
  | .failing _ => "FailingAdapter"
  | .flaky .. => "FlakyAdapter"
  | .loadOnly => "LoadOnlyAdapter"
  | .deferred => "StaticAsyncAdapter"
  | .busy _ => "BusyAsyncAdapter"

def immediate : StorageKind → Bool
  | .memory | .failing _ | .flaky .. | .loadOnly => true
  | .deferred | .busy _ => false

/-- Why a storage that holds so many rows does not do what it is asked. -/
def obstacle? (kind : StorageKind) (held : Nat) (hook : Hook) :
    Option StorageError :=
  match kind with
  | .memory => none
  | .failing message =>
      match hook with
      | .update | .removeFiltered => some .unsupported
      | _ => some (.unreachable message)
  | .flaky failed skipped limit =>
      if failed.contains hook.name then some (.flaky hook)
      else if skipped.contains hook.name then some .unsupported
      else if hook = .add ∧ limit.any (· ≤ held) then some .full
      else none
  | .loadOnly =>
      match hook with
      | .load | .save => none
      | _ => some .unsupported
  | .deferred =>
      match hook with
      | .load | .save => none
      | _ => some .absent
  | .busy failed =>
      match hook with
      | .load | .save =>
          if failed.contains hook.name then some (.flaky hook) else none
      | _ => some .absent

end StorageKind

structure Storage where
  kind : StorageKind
  lines : Lines
  saved : Option Lines
  loads : Nat
deriving Repr

namespace Storage

def ofLines (kind : StorageKind) (lines : Lines) : Storage :=
  { kind, lines, saved := none, loads := 0 }

def label (storage : Storage) : String :=
  storage.kind.label

def obstacle? (storage : Storage) (hook : Hook) : Option StorageError :=
  storage.kind.obstacle? storage.lines.length hook

/-- The rows, or why there are none. Every attempt to load counts. -/
def load (storage : Storage) : Except StorageError Lines × Storage :=
  let counted := { storage with loads := storage.loads + 1 }
  match storage.obstacle? .load with
  | some error => (.error error, counted)
  | none => (.ok storage.lines, counted)

/-- A storage that is waited for keeps what is saved apart. -/
def save (storage : Storage) (lines : Lines) : Except StorageError Storage :=
  match storage.obstacle? .save with
  | some error => .error error
  | none =>
      if storage.kind.immediate then .ok { storage with lines }
      else .ok { storage with saved := some lines }

def change (storage : Storage) (hook : Hook) (change : Lines → Lines) :
    Except StorageError Storage :=
  match storage.obstacle? hook with
  | some error => .error error
  | none => .ok { storage with lines := change storage.lines }

def add (storage : Storage) (key : String) (fields : Fields) :
    Except StorageError Storage :=
  storage.change .add (·.add key fields)

def remove (storage : Storage) (key : String) (fields : Fields) :
    Except StorageError Storage :=
  storage.change .remove (·.remove key fields)

def update (storage : Storage) (key : String) (old new : Fields) :
    Except StorageError Storage :=
  storage.change .update (Lines.update key old new)

def removeFiltered (storage : Storage) (key : String) (filter : RowFilter) :
    Except StorageError Storage :=
  match storage.obstacle? .removeFiltered with
  | some error => .error error
  | none =>
      match storage.lines.removeFiltered? key filter with
      | some lines => .ok { storage with lines }
      | none => .error .indexRange

/-- One step for every item, up to the first one that fails. -/
def each (step : Storage → α → Except StorageError Storage)
    (storage : Storage) : List α → Except StorageError Unit × Storage
  | [] => (.ok (), storage)
  | item :: items =>
      match step storage item with
      | .ok next => each step next items
      | .error error => (.error error, storage)

/-- Follows a change. What has been done of it stays done when a later step
fails. -/
def follow (storage : Storage) (mutation : Mutation Fields) :
    Except StorageError Unit × Storage :=
  if !storage.kind.immediate then (.error .absent, storage)
  else
    match mutation with
    | .add key row => storage.each (·.add key ·) [row]
    | .addAll key rows => storage.each (·.add key ·) rows
    | .remove key row => storage.each (·.remove key ·) [row]
    | .removeAll key rows => storage.each (·.remove key ·) rows
    | .removeFiltered key filter => storage.each (·.removeFiltered key ·) [filter]
    | .update key old new => storage.each (·.update key old ·) [new]

end Storage

end AccessControl
