import AccessControl.Proofs.Enforcer.Loading
import AccessControl.Proofs.Storage.Batch

namespace AccessControl.Enforcer

def persistBy (follow : Storage → Mutation Fields → Except StorageError Unit × Storage)
    (storage : Storage) (change : Mutation Row) : Except StorageFault Unit × Storage :=
  match follow storage (change.map fun row => row.map .text) with
  | (.ok (), storage) => (.ok (), storage)
  | (.error .unsupported, storage) => (.ok (), storage)
  | (.error error, storage) =>
      (.error ⟨storage.label, .failed error.message change.operation⟩, storage)

theorem persistBy_follow : persistBy Storage.follow = persist :=
  rfl

theorem persistBy_eq_error
    {follow : Storage → Mutation Fields → Except StorageError Unit × Storage}
    {storage later : Storage} {change : Mutation Row} {fault : StorageFault}
    (failed : persistBy follow storage change = (.error fault, later)) :
    ∃ error, follow storage (change.map fun row => row.map .text) = (.error error, later) := by
  unfold persistBy at failed
  split at failed
  · cases failed
  · cases failed
  · next error left _ followed =>
      cases failed
      exact ⟨error, followed⟩

theorem persistBy_own {storage : Storage} (immediate : storage.kind.immediate = true)
    (change : Mutation Row) :
    persistBy RowHooks.own.follow storage change = persist storage change := by
  rw [← persistBy_follow]
  simp only [persistBy, RowHooks.follow_own immediate]

theorem mutateBy_own (enforcer : Enforcer) (storage? : Option Storage)
    (mutation : Mutation Fields) :
    enforcer.mutateBy (persistBy RowHooks.own.follow) storage? mutation =
      enforcer.mutate storage? mutation := by
  unfold mutate mutateBy
  split
  · rfl
  · rfl
  · split
    · next storage =>
        by_cases asked : (enforcer.switches.autoSave && storage.kind.immediate) = true
        · have immediate := (Bool.and_eq_true_iff.mp asked).2
          simp only [if_pos asked, persistBy_own immediate]
        · simp only [if_neg asked]
    · rfl

section

variable {enforcer after : Enforcer} {hooks : RowHooks} {batch : Batch} {key : String}
  {listed : List Fields} {storage : Storage} {later? : Option Storage} {fault : StorageFault}

theorem intact_of_failed
    {follow : Storage → Mutation Row → Except StorageFault Unit × Storage}
    {mutation : Mutation Fields}
    (failed : enforcer.mutateBy follow (some storage) mutation =
      (.error (.storage fault), after, later?)) :
    Intact enforcer after ∧ ∃ change later, enforcer.check mutation = .ok (some change) ∧
      later? = some later ∧ follow storage change = (.error fault, later) := by
  unfold mutateBy at failed
  split at failed
  · cases failed
  · cases failed
  · next change checked =>
      simp only at failed
      split at failed
      · split at failed
        · cases failed
        · next fault left followed =>
            cases failed
            exact ⟨intact_record enforcer _, change, left, checked, rfl, followed⟩
      · cases failed

/-- The rows of a batch that is to be made: they fit, and are admitted. -/
structure Checked (enforcer : Enforcer) (batch : Batch) (key : String) (rows : List Row) :
    Prop where
  fit : ∀ row ∈ rows, enforcer.model.arity? key = some row.length
  admitted : admits enforcer.table (batch.mutation key rows) = true

theorem checked_of_check {change : Mutation Row}
    (checked : enforcer.check (batch.mutation key listed) = .ok (some change)) :
    ∃ rows, listed = Lines.fieldsOf rows ∧ change = batch.mutation key rows ∧
      enforcer.Checked batch key rows := by
  obtain ⟨read, admitted⟩ := read_of_check checked
  have fit := fits_of_check checked
  have texts : ∀ {rows}, listed.mapM (enforcer.model.readRow key) = .ok rows →
      listed = Lines.fieldsOf rows := by
    intro rows done
    have same : rows.map (fun row => row.map Value.text) = listed.map id :=
      Answer.map_of_mapM (fun step => (Model.readRow_eq_ok.mp step).1.symm) done
    rw [List.map_id] at same
    exact same.symm
  cases batch with
  | add =>
      cases Mutation.reads_of_read read with
      | addAll done => exact ⟨_, texts done, rfl, fit, admitted⟩
  | remove =>
      cases Mutation.reads_of_read read with
      | removeAll done => exact ⟨_, texts done, rfl, fit, admitted⟩

/-- The rows of every key after some rows of a batch. -/
def rowsAfter (enforcer : Enforcer) (batch : Batch) (key : String) (done : List Row)
    (other : String) : List Row :=
  if other = key then (batch.mutation key done).onRows (enforcer.table.rows key)
  else enforcer.table.rows other

theorem key_mutation {ρ : Type} (batch : Batch) (key : String) (rows : List ρ) :
    (batch.mutation key rows).key = key := by
  cases batch <;> rfl

theorem holds_rowsAfter (holds : ∀ other, storage.lines.Holds other (enforcer.table.rows other))
    (done : List Row) (other : String) :
    ((batch.mutation key done).onLines storage.lines).Holds other
      (enforcer.rowsAfter batch key done other) := by
  have here := key_mutation batch key done
  unfold rowsAfter
  split
  · next same =>
      subst same
      have changed := @Mutation.holds_onLines (batch.mutation other done) storage.lines
        Batch.forward_mutation (enforcer.table.rows other) (here.symm ▸ holds other)
      rwa [here] at changed
  · next different =>
      apply Lines.holds_of_under_eq
      rw [Mutation.under_onLines_of_ne (here.symm ▸ different)]
      exact (holds other).under_eq

section

variable {done rest : List Row} (reachable : Reachable enforcer)
  (checked : enforcer.Checked batch key (done ++ rest))
include reachable checked

theorem fit_rowsAfter (other : String) :
    ∀ row ∈ enforcer.rowsAfter batch key done other,
      enforcer.model.arity? other = some row.length := by
  intro row member
  unfold rowsAfter at member
  split at member
  · next same =>
      subst same
      cases batch with
      | add =>
          rcases List.mem_append.mp member with old | new
          · exact reachable.fitting other row old
          · exact checked.fit row (List.mem_append_left rest new)
      | remove => exact reachable.fitting other row (List.diff_subset _ _ member)
  · exact reachable.fitting other row member

theorem nodup_rowsAfter (unique : enforcer.settings.uniquePolicies = true) (other : String) :
    (enforcer.rowsAfter batch key done other).Nodup := by
  unfold rowsAfter
  split
  · have distinct := reachable.nodup_rows unique key
    cases batch with
    | remove => exact distinct.diff
    | add =>
        cases done with
        | nil =>
            change (enforcer.table.rows key ++ []).Nodup
            rwa [List.append_nil]
        | cons first more =>
            have isKey := Model.mem_rowKeys.mpr ⟨_, checked.fit first List.mem_cons_self⟩
            have isUnique : enforcer.table.isUnique key = true := by
              rw [reachable.sound.isUnique_eq, unique, Bool.true_and, List.contains_iff_mem]
              exact isKey
            have admitted := checked.admitted
            simp only [Batch.mutation, admits, isUnique, Bool.and_eq_true, Bool.not_true,
              Bool.false_or, decide_eq_true_eq, Bool.not_eq_true', List.any_eq_false,
              reachable.sound.table.has_iff] at admitted
            refine List.nodup_append.mpr ⟨distinct, admitted.2.1.of_append_left, ?_⟩
            intro old stored new listed same
            exact admitted.2.2 new (List.mem_append_left rest listed) (same ▸ stored)
  · exact reachable.nodup_rows unique other

theorem rowsAfter_eq_iff :
    (∀ other, enforcer.rowsAfter batch key done other = enforcer.table.rows other) ↔
      done = [] := by
  constructor
  · intro same
    have here := same key
    rw [rowsAfter, if_pos rfl] at here
    cases batch with
    | add => exact List.append_right_eq_self.mp here
    | remove =>
        have held := (admits_removeAll_iff reachable.sound).mp checked.admitted
        by_contra some
        exact diff_ne_self some (fun row member =>
          held.2 row (List.mem_append_left rest member)) here
  · rintro rfl other
    unfold rowsAfter
    split
    · next same =>
        subst same
        cases batch with
        | add => exact List.append_nil _
        | remove => rfl
    · rfl

theorem idle_iff (holds : ∀ other, storage.lines.Holds other (enforcer.table.rows other)) :
    batch.Idle done (storage.lines.under key) ↔ done = [] := by
  cases batch with
  | add => exact Iff.rfl
  | remove =>
      have held := (admits_removeAll_iff reachable.sound).mp checked.admitted
      constructor
      · intro idle
        refine List.eq_nil_iff_forall_not_mem.mpr fun row member => idle row member ?_
        rw [(holds key).under_eq, Lines.mem_fieldsOf]
        exact held.2 row (List.mem_append_left rest member)
      · rintro rfl row member
        cases member

end

/-- What a batch leaves that fails after some of its rows: nothing in memory, these rows in
the storage, and after a reload in memory as well. -/
structure LeavesDone (batch : Batch) (key : String) (done : List Row)
    (before after : Enforcer) (storage later : Storage) : Prop where
  memory : Intact before after
  lines : later.lines = (batch.mutation key done).onLines storage.lines
  untouched_iff : later.lines = storage.lines ↔ batch.Idle done (storage.lines.under key)
  mirroring_iff : before.Mirrors storage.lines → (later.lines = storage.lines ↔ done = [])
  reloads : before.Mirrors storage.lines → Readable (some later) →
    (after.load (some later)).1 = .ok () ∧
      ((∀ other, (after.load (some later)).2.1.table.rows other = after.table.rows other) ↔
        done = [])

/-- A batch that fails at the storage has stopped at one of its rows. The storage is as before
if and only if none of the rows before that one made a difference to it. -/
theorem failed_batch (reachable : Reachable enforcer)
    (failed : enforcer.mutateBy (persistBy hooks.follow) (some storage)
      (batch.mutation key listed) = (.error (.storage fault), after, later?)) :
    ∃ done row rest later, listed = Lines.fieldsOf (done ++ row :: rest) ∧
      later? = some later ∧ hooks.Stops batch key storage done row later ∧
      LeavesDone batch key done enforcer after storage later := by
  obtain ⟨intact, change, later, accepted, left, persisted⟩ := intact_of_failed failed
  obtain ⟨rows, texts, rfl, checked⟩ := checked_of_check accepted
  obtain ⟨error, followed⟩ := persistBy_eq_error persisted
  obtain ⟨done, row, rest, rfl, stops⟩ := RowHooks.exists_stops followed
  have lines := stops.lines
  have untouched : later.lines = storage.lines ↔
      batch.Idle done (storage.lines.under key) := by
    rw [lines]
    exact Batch.onLines_eq_self_iff
  refine ⟨done, row, rest, later, texts, left, stops, intact, lines, untouched, ?_, ?_⟩
  · intro mirrors
    have holds := (mirrors_iff reachable.fitting).mp mirrors
    exact untouched.trans (idle_iff reachable checked holds)
  · intro mirrors readable
    have holds := (mirrors_iff reachable.fitting).mp mirrors
    have fit := fit_rowsAfter reachable checked
    have distinct := nodup_rowsAfter reachable checked
    rw [intact]
    obtain ⟨loaded, taken⟩ := @load_of_holds { enforcer with metrics? := after.metrics? } later
      (enforcer.rowsAfter batch key done) readable
      (fun other => lines ▸ holds_rowsAfter holds done other) fit distinct
    refine ⟨loaded, ?_⟩
    simp only [taken]
    exact rowsAfter_eq_iff reachable checked

end

/-- What one would expect of a batch that fails: the storage holds what it held, and if that
were the rows, a reload leaves them as they are. -/
def PersistsNothing (hooks : RowHooks) (enforcer : Enforcer) (storage : Storage)
    (batch : Batch) (key : String) (listed : List Fields) : Prop :=
  ∀ fault after later, enforcer.mutateBy (persistBy hooks.follow) (some storage)
      (batch.mutation key listed) = (.error (.storage fault), after, some later) →
    later.lines = storage.lines ∧
      (enforcer.Mirrors storage.lines → (after.load (some later)).1 = .ok () →
        ∀ other, (after.load (some later)).2.1.table.rows other = after.table.rows other)

namespace Sample

def narrow : Storage :=
  .ofLines (.flaky [] [] (some 2)) storage.lines

def listed : List Fields :=
  [[.text "staff", .text "allow"], [.text "bob", .text "deny"]]

def filled : Storage :=
  .ofLines narrow.kind (storage.lines.add "p" [.text "staff", .text "allow"])

def unchanged : Enforcer :=
  staffed.record (·.recordError Category.adapter.code)

theorem failed_narrow :
    staffed.mutateBy (persistBy RowHooks.own.follow) (some narrow)
      (Batch.add.mutation "p" listed) =
        (.error (.storage ⟨"FlakyAdapter", .failed "adapter full" "add_policies"⟩),
          unchanged, some filled) := by
  rw [mutateBy_own]
  rfl

end Sample

theorem failed_batch_narrow :
    ∃ done row rest, Sample.listed = Lines.fieldsOf (done ++ row :: rest) ∧
      LeavesDone .add "p" done Sample.staffed Sample.unchanged Sample.narrow Sample.filled := by
  obtain ⟨done, row, rest, later, split, left, -, leaves⟩ :=
    failed_batch mirrored_staffed.reachable Sample.failed_narrow
  cases left
  exact ⟨done, row, rest, split, leaves⟩

theorem not_persistsNothing_narrow :
    ¬ PersistsNothing .own Sample.staffed Sample.narrow .add "p" Sample.listed := by
  intro promised
  have same := (promised _ _ _ Sample.failed_narrow).1
  exact absurd (congrArg List.length same) (by decide)

end AccessControl.Enforcer
