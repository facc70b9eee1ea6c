import AccessControl.Policy.Bucket
import AccessControl.Proofs.Storage.Memory

namespace AccessControl

namespace Line

theorem field?_of_nonneg {fields : Fields} {index : Int} (nonneg : 0 ≤ index) :
    field? fields index = fields[index.toNat]? := by
  simp only [field?, Int.not_lt.mpr nonneg, if_false]

theorem exists_agreesFrom? {fields : Fields} {values : List String} {index : Int}
    (nonneg : 0 ≤ index) (reaches : index + values.length ≤ fields.length) :
    ∃ agreed, agreesFrom? fields index values = some agreed := by
  induction values generalizing index with
  | nil => exact ⟨true, rfl⟩
  | cons value values ih =>
      rw [List.length_cons] at reaches
      have later := @ih (index + 1) (by omega) (by omega)
      rw [agreesFrom?]
      split
      · exact later
      · have inside : index.toNat < fields.length := by omega
        rw [field?_of_nonneg nonneg, List.getElem?_eq_getElem inside]
        simp only
        split
        · exact later
        · exact ⟨false, rfl⟩

theorem exists_accepts? (key : String) {filter : RowFilter} (nonneg : 0 ≤ filter.start)
    (line : Line) : ∃ accepted, line.accepts? key filter = some accepted := by
  unfold accepts?
  split
  · exact ⟨false, rfl⟩
  · next passes =>
      simp only [Bool.or_eq_true, decide_eq_true_eq, not_or, Int.not_lt] at passes
      exact exists_agreesFrom? nonneg passes.2

theorem agreesFrom?_text {row : Row} {values : List String} {index : Int}
    (nonneg : 0 ≤ index) (reaches : index + values.length ≤ row.length) :
    agreesFrom? (row.map .text) index values =
      some ((values.zip (row.drop index.toNat)).all fun pair =>
        RowFilter.agrees pair.1 pair.2) := by
  induction values generalizing index with
  | nil => rfl
  | cons value values ih =>
      rw [List.length_cons] at reaches
      have later := @ih (index + 1) (by omega) (by omega)
      have next : (index + 1).toNat = index.toNat + 1 := by omega
      have inside : index.toNat < row.length := by omega
      rw [next] at later
      rw [agreesFrom?, later, field?_of_nonneg nonneg, List.getElem?_map,
        List.getElem?_eq_getElem inside, List.drop_eq_getElem_cons inside,
        List.zip_cons_cons, List.all_cons]
      simp only [Option.map_some, Value.equal, RowFilter.agrees]
      cases value.isEmpty <;> cases row[index.toNat] == value <;> simp

theorem accepts?_text {key : String} {filter : RowFilter} (nonneg : 0 ≤ filter.start)
    (row : Row) :
    accepts? key filter ⟨key, row.map .text⟩ = some (filter.accepts row) := by
  unfold accepts? RowFilter.accepts
  by_cases reaches : filter.start + filter.values.length ≤ row.length
  · have passes : ¬ row.length < filter.start + filter.values.length := by omega
    simp [passes, reaches, nonneg, agreesFrom?_text nonneg reaches]
  · have short : row.length < filter.start + filter.values.length := by omega
    simp [short, reaches]

theorem accepts?_of_ne {key : String} {line : Line} (elsewhere : line.key ≠ key)
    (filter : RowFilter) : line.accepts? key filter = some false := by
  simp [accepts?, elsewhere]

end Line

namespace Lines

def spares (key : String) (filter : RowFilter) (line : Line) : Bool :=
  line.accepts? key filter != some true

theorem removeFiltered?_eq {key : String} {filter : RowFilter} (nonneg : 0 ≤ filter.start)
    (lines : Lines) :
    lines.removeFiltered? key filter = some (lines.filter (spares key filter)) := by
  induction lines with
  | nil => rfl
  | cons line lines ih =>
      obtain ⟨accepted, answered⟩ := Line.exists_accepts? key nonneg line
      rw [removeFiltered?, ih, answered, List.filter_cons, spares, answered]
      cases accepted <;> rfl

variable {key : String} {lines : Lines} {rows : List Row}

theorem Holds.add (holds : Holds key lines rows) (row : Row) :
    Holds key (lines.add key (row.map .text)) (rows ++ [row]) := by
  induction holds with
  | nil => exact .here row .nil
  | here other _ ih => exact .here other ih
  | elsewhere different _ ih => exact .elsewhere different ih

theorem Holds.addAll (holds : Holds key lines rows) (added : List Row) :
    Holds key ((fieldsOf added).foldl (·.add key ·) lines) (rows ++ added) := by
  induction added generalizing lines rows with
  | nil =>
      rw [List.append_nil]
      exact holds
  | cons row added ih =>
      rw [fieldsOf, List.map_cons, List.foldl_cons, List.append_cons]
      exact ih (holds.add row)

theorem Holds.update (holds : Holds key lines rows) (old new : Row) :
    Holds key (Lines.update key (old.map .text) (new.map .text) lines)
      (Bucket.replaceFirst old new rows) := by
  induction holds with
  | nil => exact .nil
  | @here lines rows other rest ih =>
      rw [Lines.update, Bucket.replaceFirst]
      by_cases isOld : other = old
      · rw [if_pos (same_here.mpr isOld), if_pos isOld]
        exact .here new rest
      · rw [if_neg (isOld ∘ same_here.mp), if_neg isOld]
        exact .here other ih
  | elsewhere different rest ih =>
      rw [Lines.update, if_neg (not_same_of_ne different old)]
      exact .elsewhere different ih

theorem Holds.removeFiltered (holds : Holds key lines rows) {filter : RowFilter}
    (nonneg : 0 ≤ filter.start) :
    Holds key (lines.filter (spares key filter))
      (rows.filter fun row => !filter.accepts row) := by
  induction holds with
  | nil => exact .nil
  | here row _ ih =>
      rw [List.filter_cons, List.filter_cons, spares, Line.accepts?_text nonneg]
      cases filter.accepts row with
      | true => exact ih
      | false => exact .here row ih
  | elsewhere different _ ih =>
      rw [List.filter_cons, spares, Line.accepts?_of_ne different]
      exact .elsewhere different ih

theorem under_append (lines others : Lines) (key : String) :
    under (lines ++ others) key = under lines key ++ under others key := by
  simp [under]

theorem under_add_of_ne {other : String} (different : other ≠ key) (fields : Fields) :
    (lines.add key fields).under other = lines.under other := by
  rw [add, under_append, under_cons_of_ne (Ne.symm different)]
  exact List.append_nil _

theorem key_ne_of_same {other : String} {fields : Fields} {line : Line}
    (same : Line.same ⟨key, fields⟩ line = true) (different : other ≠ key) :
    line.key ≠ other := by
  have here : key = line.key := by simpa using (Bool.and_eq_true_iff.mp same).1
  exact here ▸ different.symm

theorem under_cons_congr (line : Line) {others : Lines} {other : String}
    (same : others.under other = lines.under other) :
    under (line :: others) other = under (line :: lines) other := by
  by_cases here : line.key = other
  · rw [under_cons_self here, under_cons_self here, same]
  · rw [under_cons_of_ne here, under_cons_of_ne here, same]

theorem under_remove_of_ne {other : String} (different : other ≠ key) (fields : Fields) :
    (lines.remove key fields).under other = lines.under other := by
  induction lines with
  | nil => rfl
  | cons line lines ih =>
      cases same : Line.same ⟨key, fields⟩ line with
      | true =>
          rw [remove, List.eraseP_cons_of_pos same,
            under_cons_of_ne (key_ne_of_same same different)]
      | false =>
          rw [remove, List.eraseP_cons_of_neg (Bool.eq_false_iff.mp same)]
          exact under_cons_congr line ih

theorem under_update_of_ne {other : String} (different : other ≠ key) (old new : Fields) :
    (update key old new lines).under other = lines.under other := by
  induction lines with
  | nil => rfl
  | cons line lines ih =>
      rw [update]
      split
      · next same =>
          rw [under_cons_of_ne (key_ne_of_same same different),
            under_cons_of_ne different.symm]
      · exact under_cons_congr line ih

theorem under_removeFiltered_of_ne {other : String} (different : other ≠ key)
    (filter : RowFilter) :
    (under (lines.filter (spares key filter)) other) = lines.under other := by
  unfold under
  rw [List.filter_filter]
  refine congrArg _ (List.filter_congr fun line _ => ?_)
  by_cases here : line.key = other
  · have spared := Line.accepts?_of_ne (here ▸ different) filter
    simp [spares, spared]
  · simp [here]

theorem under_foldl_of_ne {step : Lines → Fields → Lines} {other : String}
    (kept : ∀ lines fields, (step lines fields).under other = lines.under other)
    (listed : List Fields) : (listed.foldl step lines).under other = lines.under other := by
  induction listed generalizing lines with
  | nil => rfl
  | cons fields listed ih => rw [List.foldl_cons, ih, kept]

end Lines

namespace Mutation

def onRows : Mutation Row → List Row → List Row
  | .add _ row, rows => rows ++ [row]
  | .addAll _ added, rows => rows ++ added
  | .remove _ row, rows => rows.erase row
  | .removeAll _ removed, rows => rows.diff removed
  | .removeFiltered _ filter, rows => rows.filter fun row => !filter.accepts row
  | .update _ old new, rows => Bucket.replaceFirst old new rows

def onLines : Mutation Row → Lines → Lines
  | .add key row, lines => (Lines.fieldsOf [row]).foldl (·.add key ·) lines
  | .addAll key rows, lines => (Lines.fieldsOf rows).foldl (·.add key ·) lines
  | .remove key row, lines => lines.remove key (row.map .text)
  | .removeAll key rows, lines => (Lines.fieldsOf rows).foldl (·.remove key ·) lines
  | .removeFiltered key filter, lines => lines.filter (Lines.spares key filter)
  | .update key old new, lines => Lines.update key (old.map .text) (new.map .text) lines

def Forward : Mutation ρ → Prop
  | .removeFiltered _ filter => 0 ≤ filter.start
  | _ => True

variable {change : Mutation Row} {lines : Lines}

theorem holds_onLines (forward : change.Forward) {rows : List Row}
    (holds : lines.Holds change.key rows) :
    (change.onLines lines).Holds change.key (change.onRows rows) := by
  cases change with
  | add key row => exact holds.addAll [row]
  | addAll key added => exact holds.addAll added
  | remove key row => exact holds.remove row
  | removeAll key removed => exact holds.removeAll removed
  | removeFiltered key filter => exact holds.removeFiltered forward
  | update key old new => exact holds.update old new

theorem under_onLines_of_ne {key : String} (different : key ≠ change.key) :
    (change.onLines lines).under key = lines.under key := by
  cases change with
  | add | addAll =>
      exact Lines.under_foldl_of_ne (fun _ fields => Lines.under_add_of_ne different fields) _
  | remove key row => exact Lines.under_remove_of_ne different _
  | removeAll =>
      exact Lines.under_foldl_of_ne (fun _ fields => Lines.under_remove_of_ne different fields) _
  | removeFiltered key filter => exact Lines.under_removeFiltered_of_ne different filter
  | update key old new => exact Lines.under_update_of_ne different _ _

end Mutation

namespace Storage

/-- Storages that differ in what they count at most. -/
structure SameLines (storage other : Storage) : Prop where
  kind : other.kind = storage.kind
  lines : other.lines = storage.lines

theorem each_change_memory {α : Type} {storage : Storage} (memory : storage.kind = .memory)
    (hook : Hook) (change : Lines → α → Lines) (items : List α) :
    storage.each (fun storage item => storage.change hook (change · item)) items =
      (.ok (), { storage with lines := items.foldl change storage.lines }) := by
  induction items generalizing storage with
  | nil => rfl
  | cons item items ih =>
      have done : storage.change hook (change · item) =
          .ok { storage with lines := change storage.lines item } := by
        simp [Storage.change, obstacle?, memory, StorageKind.obstacle?]
      rw [each, done]
      exact ih memory

theorem removeFiltered_memory {storage : Storage} (memory : storage.kind = .memory)
    (key : String) {filter : RowFilter} (nonneg : 0 ≤ filter.start) :
    storage.removeFiltered key filter =
      .ok { storage with lines := storage.lines.filter (Lines.spares key filter) } := by
  simp [removeFiltered, obstacle?, memory, StorageKind.obstacle?,
    Lines.removeFiltered?_eq nonneg]

theorem follow_memory {storage : Storage} (memory : storage.kind = .memory)
    {change : Mutation Row} (forward : change.Forward) :
    storage.follow (change.map fun row => row.map .text) =
      (.ok (), { storage with lines := change.onLines storage.lines }) := by
  have immediate : storage.kind.immediate = true := by
    rw [memory]
    rfl
  cases change with
  | removeFiltered key filter =>
      simp only [follow, immediate, Mutation.map, each, removeFiltered_memory memory key forward]
      rfl
  | add key row =>
      simp only [follow, immediate, Mutation.map]
      exact each_change_memory memory .add (·.add key ·) [row.map .text]
  | addAll key rows =>
      simp only [follow, immediate, Mutation.map]
      exact each_change_memory memory .add (·.add key ·) (Lines.fieldsOf rows)
  | remove key row =>
      simp only [follow, immediate, Mutation.map]
      exact each_change_memory memory .remove (·.remove key ·) [row.map .text]
  | removeAll key rows =>
      simp only [follow, immediate, Mutation.map]
      exact each_change_memory memory .remove (·.remove key ·) (Lines.fieldsOf rows)
  | update key old new =>
      simp only [follow, immediate, Mutation.map]
      exact each_change_memory memory .update
        (fun lines new => Lines.update key (old.map .text) new lines) [new.map .text]

end Storage

end AccessControl
