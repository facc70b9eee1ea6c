import AccessControl.Proofs.Storage.Follow

namespace AccessControl

/-! Batches of rows, which a storage follows row by row. A row that fails ends the batch;
the rows before it are not taken back. -/

namespace Lines

variable {key : String} {lines : Lines}

theorem length_foldl_add (listed : List Fields) :
    (listed.foldl (·.add key ·) lines).length = lines.length + listed.length := by
  induction listed generalizing lines with
  | nil => rfl
  | cons fields listed ih =>
      rw [List.foldl_cons, ih, add, List.length_append, List.length_cons, List.length_cons,
        List.length_nil]
      omega

theorem length_foldl_remove_le (listed : List Fields) :
    (listed.foldl (·.remove key ·) lines).length ≤ lines.length := by
  induction listed generalizing lines with
  | nil => exact Nat.le_refl _
  | cons fields listed ih => exact Nat.le_trans ih (List.length_eraseP_le ..)

theorem length_remove_lt {row : Row} (held : row.map .text ∈ lines.under key) :
    (lines.remove key (row.map .text)).length < lines.length := by
  obtain ⟨line, inside, here, same⟩ := mem_under.mp held
  have erased := List.length_eraseP_of_mem inside (same_text.mpr ⟨here, same⟩)
  have positive := List.length_pos_of_mem inside
  rw [remove]
  omega

theorem remove_eq_self {row : Row} (absent : row.map .text ∉ lines.under key) :
    lines.remove key (row.map .text) = lines := by
  refine List.eraseP_of_forall_not fun line inside same => absent ?_
  obtain ⟨here, fields⟩ := same_text.mp same
  exact mem_under.mpr ⟨line, inside, here, fields⟩

theorem foldl_remove_eq_self_iff {rows : List Row} :
    (fieldsOf rows).foldl (·.remove key ·) lines = lines ↔
      ∀ row ∈ rows, row.map .text ∉ lines.under key := by
  induction rows with
  | nil => simp [fieldsOf]
  | cons row rows ih =>
      rw [fieldsOf, List.map_cons, List.foldl_cons, List.forall_mem_cons]
      by_cases held : row.map .text ∈ lines.under key
      -- Lines that are lost do not come back.
      · refine iff_of_false (fun same => ?_) fun absent => absent.1 held
        have shorter := length_remove_lt held
        have rest := @length_foldl_remove_le key (lines.remove key (row.map .text))
          (fieldsOf rows)
        have length := congrArg List.length same
        rw [fieldsOf] at rest
        omega
      · rw [remove_eq_self held]
        exact ih.trans (and_iff_right held).symm

end Lines

inductive Batch
  | add
  | remove
deriving DecidableEq, Repr

namespace Batch

def mutation {ρ : Type} : Batch → String → List ρ → Mutation ρ
  | .add => .addAll
  | .remove => .removeAll

def onLine : Batch → Lines → String → Fields → Lines
  | .add => Lines.add
  | .remove => Lines.remove

/-- No row makes a difference to a storage that holds certain rows under its key. -/
def Idle (rows : List Row) (held : List Fields) : Batch → Prop
  | .add => rows = []
  | .remove => ∀ row ∈ rows, row.map .text ∉ held

variable {batch : Batch} {key : String} {rows : List Row} {lines : Lines}

theorem forward_mutation {ρ : Type} {rows : List ρ} : (batch.mutation key rows).Forward := by
  cases batch <;> trivial

theorem onLines_mutation :
    (batch.mutation key rows).onLines lines =
      (Lines.fieldsOf rows).foldl (batch.onLine · key ·) lines := by
  cases batch <;> rfl

theorem onLines_eq_self_iff :
    (batch.mutation key rows).onLines lines = lines ↔ batch.Idle rows (lines.under key) := by
  cases batch with
  | add =>
      constructor
      · intro same
        have length := congrArg List.length same
        change ((Lines.fieldsOf rows).foldl (·.add key ·) lines).length = lines.length at length
        rw [Lines.length_foldl_add, Lines.fieldsOf, List.length_map] at length
        exact List.length_eq_zero_iff.mp (by omega)
      · rintro rfl
        rfl
  | remove => exact Lines.foldl_remove_eq_self_iff

end Batch

/-- Ways to add and to remove a single row. Each may fail at any call, and leaves the lines
then. -/
structure RowHooks where
  run : Batch → Storage → String → Fields → Except StorageError Storage
  lines : ∀ {batch storage key fields later}, run batch storage key fields = .ok later →
    later.lines = batch.onLine storage.lines key fields

namespace Storage

theorem each_error {α : Type} {step : Storage → α → Except StorageError Storage}
    {storage later : Storage} {items : List α} {error : StorageError}
    (failed : storage.each step items = (.error error, later)) :
    ∃ done item rest, items = done ++ item :: rest ∧
      storage.each step done = (.ok (), later) ∧ step later item = .error error := by
  induction items generalizing storage with
  | nil => cases failed
  | cons first items ih =>
      rw [each] at failed
      cases stepped : step storage first with
      | error other =>
          rw [stepped] at failed
          cases failed
          exact ⟨[], first, items, rfl, rfl, stepped⟩
      | ok next =>
          rw [stepped] at failed
          obtain ⟨done, item, rest, split, before, fails⟩ := ih failed
          refine ⟨first :: done, item, rest, congrArg (first :: ·) split, ?_, fails⟩
          rw [each, stepped]
          exact before

theorem lines_change {storage later : Storage} {hook : Hook} {change : Lines → Lines}
    (done : storage.change hook change = .ok later) : later.lines = change storage.lines := by
  unfold Storage.change at done
  split at done
  · cases done
  · cases done
    rfl

end Storage

namespace RowHooks

def own : RowHooks where
  run
    | .add => Storage.add
    | .remove => Storage.remove
  lines := by
    intro batch storage key fields later done
    cases batch with
    | add => exact Storage.lines_change done
    | remove => exact Storage.lines_change done

/-- Follows a change as a storage does, but its batches with other hooks for a row. -/
def follow (hooks : RowHooks) (storage : Storage) :
    Mutation Fields → Except StorageError Unit × Storage
  | .addAll key rows => storage.each (hooks.run .add · key ·) rows
  | .removeAll key rows => storage.each (hooks.run .remove · key ·) rows
  | mutation => storage.follow mutation

theorem follow_own {storage : Storage} (immediate : storage.kind.immediate = true)
    (mutation : Mutation Fields) : own.follow storage mutation = storage.follow mutation := by
  cases mutation with
  | addAll | removeAll =>
      simp only [Storage.follow, immediate]
      rfl
  | _ => rfl

/-- The hooks have done some rows of a batch, and fail at the next one. -/
structure Stops (hooks : RowHooks) (batch : Batch) (key : String) (storage : Storage)
    (done : List Row) (row : Row) (later : Storage) : Prop where
  before : storage.each (hooks.run batch · key ·) (Lines.fieldsOf done) = (.ok (), later)
  fails : ∃ error, hooks.run batch later key (row.map .text) = .error error

variable {hooks : RowHooks} {batch : Batch} {key : String} {storage later : Storage}

theorem follow_mutation {rows : List Fields} :
    hooks.follow storage (batch.mutation key rows) =
      storage.each (hooks.run batch · key ·) rows := by
  cases batch <;> rfl

theorem lines_each {rows : List Fields}
    (done : storage.each (hooks.run batch · key ·) rows = (.ok (), later)) :
    later.lines = rows.foldl (batch.onLine · key ·) storage.lines := by
  induction rows generalizing storage with
  | nil =>
      cases done
      rfl
  | cons fields rows ih =>
      rw [Storage.each] at done
      cases stepped : hooks.run batch storage key fields with
      | error error =>
          rw [stepped] at done
          cases done
      | ok next =>
          rw [stepped] at done
          rw [List.foldl_cons, ih done, hooks.lines stepped]

theorem Stops.lines {done : List Row} {row : Row}
    (stops : hooks.Stops batch key storage done row later) :
    later.lines = (batch.mutation key done).onLines storage.lines := by
  rw [Batch.onLines_mutation]
  exact lines_each stops.before

theorem exists_stops {rows : List Row} {error : StorageError}
    (failed : hooks.follow storage ((batch.mutation key rows).map fun row => row.map .text) =
      (.error error, later)) :
    ∃ done row rest, rows = done ++ row :: rest ∧
      hooks.Stops batch key storage done row later := by
  have texts : ((batch.mutation key rows).map fun row => row.map .text) =
      batch.mutation key (Lines.fieldsOf rows) := by
    cases batch <;> rfl
  rw [texts, follow_mutation] at failed
  obtain ⟨before, item, after, split, done, fails⟩ := Storage.each_error failed
  obtain ⟨first, others, rfl, rfl, whole⟩ := List.map_eq_append_iff.mp split
  obtain ⟨row, rest, rfl, rfl, rfl⟩ := List.map_eq_cons_iff.mp whole
  exact ⟨first, row, rest, rfl, done, error, fails⟩

end RowHooks

end AccessControl
