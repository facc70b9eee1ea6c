import AccessControl.Proofs.Enforcer.Mirror
import AccessControl.Proofs.Policy.Refinement

namespace AccessControl

theorem RowLists.replace_eq_set (old new : Row) (rows : List Row) :
    rows.replace old new = rows.set (rows.idxOf old) new := by
  induction rows with
  | nil => rfl
  | cons row rows ih =>
      rw [List.replace_cons, List.idxOf_cons]
      by_cases same : row = old
      · simp [same]
      · simp [beq_eq_false_iff_ne.mpr same, beq_eq_false_iff_ne.mpr (Ne.symm same), ih]

/-- The row reaches as far as the filter, and has each of its values in its place, except for
the empty ones. -/
structure RowFilter.Matches (filter : RowFilter) (row : Row) : Prop where
  forward : 0 ≤ filter.start
  reaches : filter.start + filter.values.length ≤ row.length
  agrees : ∀ place value, filter.values[place]? = some value → value ≠ "" →
    row[filter.start.toNat + place]? = some value

theorem RowFilter.accepts_iff_matches {filter : RowFilter} {row : Row} :
    filter.accepts row = true ↔ filter.Matches row := by
  have agree : (filter.values.zip (row.drop filter.start.toNat)).all
      (fun pair => RowFilter.agrees pair.1 pair.2) = true ↔
        ∀ place value field, filter.values[place]? = some value →
          row[filter.start.toNat + place]? = some field → value = "" ∨ field = value := by
    simp only [List.all_eq_true, List.mem_iff_getElem?, List.getElem?_zip_eq_some,
      List.getElem?_drop, RowFilter.agrees, Bool.or_eq_true, String.isEmpty_iff, beq_iff_eq]
    constructor
    · exact fun all place value field there found => all (value, field) ⟨place, there, found⟩
    · rintro all pair ⟨place, there, found⟩
      exact all place pair.1 pair.2 there found
  rw [RowFilter.accepts, Bool.and_eq_true, Bool.and_eq_true, agree, decide_eq_true_eq,
    decide_eq_true_eq]
  constructor
  · rintro ⟨⟨forward, reaches⟩, agree⟩
    refine ⟨forward, reaches, fun place value there filled => ?_⟩
    have inside : filter.start.toNat + place < row.length := by
      have bound := (List.getElem?_eq_some_iff.mp there).1
      omega
    rw [List.getElem?_eq_getElem inside]
    have agreed := agree place value _ there (List.getElem?_eq_getElem inside)
    rw [agreed.resolve_left filled]
  · rintro ⟨forward, reaches, agrees⟩
    refine ⟨⟨forward, reaches⟩, fun place value field there found => ?_⟩
    by_cases filled : value = ""
    · exact .inl filled
    · exact .inr (Option.some.inj (found.symm.trans (agrees place value there filled)))

instance (filter : RowFilter) (row : Row) : Decidable (filter.Matches row) :=
  decidable_of_iff _ RowFilter.accepts_iff_matches

namespace Mutation

/-- What a change asks of the rows under its key, which may have to be unique, in order to be
made. -/
def Due (unique : Bool) (rows : List Row) : Mutation Row → Prop
  | .add _ row => row ∉ rows ∨ unique = false
  | .addAll _ added =>
      added ≠ [] ∧ (unique = true → added.Nodup ∧ ∀ row ∈ added, row ∉ rows)
  | .remove _ row => row ∈ rows
  | .removeAll _ removed => removed ≠ [] ∧ Contained removed rows
  | .removeFiltered _ filter => ∃ row ∈ rows, filter.Matches row
  | .update _ old new => old ∈ rows ∧ (unique = false ∨ new = old ∨ new ∉ rows)

/-- The rows that a change is to leave under its key. -/
def intended (rows : List Row) : Mutation Row → List Row
  | .add _ row => rows ++ [row]
  | .addAll _ added => rows ++ added
  | .remove _ row => rows.erase row
  | .removeAll _ removed => rows.diff removed
  | .removeFiltered _ filter => rows.filter fun row => ¬ filter.Matches row
  | .update _ old new => rows.set (rows.idxOf old) new

/-- Rows that are all there are to be removed, but one of them is listed more often than it is
there. -/
def Overdraws (rows : List Row) : Mutation Row → Prop
  | .removeAll _ removed => Overdrawn removed rows
  | _ => False

theorem onRows_eq_intended (change : Mutation Row) (rows : List Row) :
    change.onRows rows = change.intended rows := by
  cases change with
  | removeFiltered key filter =>
      refine List.filter_congr fun row _ => ?_
      rw [Bool.eq_iff_iff, Bool.not_eq_true', ← Bool.not_eq_true, RowFilter.accepts_iff_matches,
        decide_eq_true_eq]
  | update key old new =>
      exact (PolicyTable.replaceFirst_eq_replace old new rows).trans
        (RowLists.replace_eq_set old new rows)
  | _ => rfl

theorem Due.covered {change : Mutation Row} {unique : Bool} {rows : List Row}
    (due : change.Due unique rows) : change.Covered rows := by
  cases change with
  | removeAll => exact due.2
  | _ => trivial

end Mutation

namespace Enforcer

section

variable {table : PolicyTable} (sound : table.Sound) {change : Mutation Row}
include sound

theorem admits_iff_due (within : ¬ change.Overdraws (table.rows change.key)) :
    admits table change = true ↔
      change.Due (table.isUnique change.key) (table.rows change.key) := by
  cases change with
  | add key row =>
      simp only [admits, Mutation.Due, Mutation.key, ← sound.has_iff]
      cases table.isUnique key <;> simp
  | addAll key rows =>
      simp only [admits, Mutation.Due, Mutation.key, Bool.and_eq_true, Bool.or_eq_true,
        Bool.not_eq_true', List.isEmpty_eq_false_iff, decide_eq_true_eq, List.any_eq_false,
        sound.has_iff]
      grind
  | remove key row => exact sound.has_iff key row
  | removeAll key rows =>
      have contained : (∀ row ∈ rows, row ∈ table.rows key) ↔ Contained rows (table.rows key) :=
        ⟨fun present => Classical.byContradiction fun exceeding => within ⟨present, exceeding⟩,
          fun contained _ => contained.stored⟩
      simp only [admits, Mutation.Due, Mutation.key, Bool.and_eq_true, Bool.not_eq_true',
        List.isEmpty_eq_false_iff, List.all_eq_true, sound.has_iff, contained]
  | removeFiltered key filter =>
      simp only [admits, PolicyTable.filtered, Mutation.Due, Mutation.key, Bool.not_eq_true',
        List.isEmpty_eq_false_iff, ne_eq, List.filter_eq_nil_iff, not_forall, not_not,
        exists_prop, RowFilter.accepts_iff_matches]
  | update key old new =>
      simp only [admits, Mutation.Due, Mutation.key, Bool.and_eq_true, ← sound.has_iff]
      cases table.isUnique key <;> cases table.has key new <;> simp

theorem rows_changeTable_of_due
    (due : change.Due (table.isUnique change.key) (table.rows change.key))
    (within : ¬ change.Overdraws (table.rows change.key)) :
    (changeTable table change).rows change.key = change.intended (table.rows change.key) := by
  rw [rows_changeTable sound ((admits_iff_due sound within).mpr due) due.covered,
    Mutation.onRows_eq_intended]

end

section

variable {enforcer : Enforcer} {mutation : Mutation Fields} {change : Mutation Row}

theorem check_of_read
    (read : mutation.read (enforcer.model.readRow mutation.key) = .ok change) :
    enforcer.check mutation =
        .ok (if admits enforcer.table change then some change else none) ∨
      ∃ filter, change = .removeFiltered change.key filter ∧
        change.key ∉ enforcer.model.rowKeys ∧
        enforcer.check mutation = .error (.row (.unknownType change.key)) := by
  have checked : ((mutation.read (enforcer.model.readRow mutation.key)).mapError .row >>=
      fun change => (return if admits enforcer.table change then some change else none) :
        Except EnforceFault (Option (Mutation Row))) =
          .ok (if admits enforcer.table change then some change else none) := by
    rw [read]
    rfl
  cases mutation with
  | removeFiltered key filter =>
      cases read
      cases known : enforcer.model.arity? key with
      | some arity =>
          left
          simp only [check, known, Option.isNone_some]
          exact checked
      | none =>
          refine .inr ⟨filter, rfl, fun listed => ?_, by simp only [check, known]; rfl⟩
          obtain ⟨arity, found⟩ := Model.mem_rowKeys.mp listed
          rw [Mutation.key, known] at found
          cases found
  | _ => exact .inl checked

variable {follow : Storage → Mutation Row → Except StorageFault Unit × Storage}
  {storage? : Option Storage}

/-- A change is answered, unless it filters under a key that the model does not have. The
answer is true exactly if the change is due, and then its key has the intended rows. Otherwise,
and under all other keys, the rows are as they were. -/
structure Told (before after : Enforcer) (change : Mutation Row) (answer : Answer Bool) :
    Prop where
  returns : (∃ made, answer = .ok made) ∨
    ∃ filter, change = .removeFiltered change.key filter ∧
      change.key ∉ before.model.rowKeys ∧
      answer = .error (.enforce (.row (.unknownType change.key)))
  made_iff : answer = .ok true ↔
    change.Due (before.table.isUnique change.key) (before.rows change.key)
  made : answer = .ok true → after.rows change.key = change.intended (before.rows change.key)
  refused : answer ≠ .ok true → after.rows change.key = before.rows change.key
  elsewhere : ∀ key, key ≠ change.key → after.rows key = before.rows key

theorem Told.record {before after : Enforcer} {answer : Answer Bool}
    (told : Told before after change answer) (count : Metrics → Metrics) :
    Told before (after.record count) change answer :=
  ⟨told.returns, told.made_iff, told.made, told.refused, told.elsewhere⟩

theorem told_mutateBy (reachable : Reachable enforcer)
    (read : mutation.read (enforcer.model.readRow mutation.key) = .ok change)
    (within : ¬ change.Overdraws (enforcer.rows change.key))
    (unhindered : enforcer.Unhindered follow storage? change) :
    Told enforcer (enforcer.mutateBy follow storage? mutation).2.1 change
      (enforcer.mutateBy follow storage? mutation).1 := by
  have sound := reachable.sound.table
  have due_iff := admits_iff_due sound within
  rcases check_of_read read with checked | ⟨filter, filters, unknown, checked⟩
  · by_cases due : change.Due (enforcer.table.isUnique change.key)
        (enforcer.rows change.key)
    · rw [if_pos (due_iff.mpr due)] at checked
      obtain ⟨-, later?, made, -⟩ :=
        (mutateBy_of_checked storage? checked).resolve_right fun hindered => hindered.1 unhindered
      rw [made]
      refine ⟨.inl ⟨true, rfl⟩, iff_of_true rfl due, fun _ => ?_,
        fun notMade => absurd rfl notMade, fun key different => rows_commit_of_ne different⟩
      rw [rows, table_commit]
      exact rows_changeTable_of_due sound due within
    · rw [if_neg fun admitted => due (due_iff.mp admitted)] at checked
      simp only [mutateBy, checked]
      exact ⟨.inl ⟨false, rfl⟩, iff_of_false (by simp) due, fun made => (by cases made),
        fun _ => rfl, fun _ _ => rfl⟩
  · have empty := reachable.fitting.rows_eq_nil unknown
    simp only [mutateBy, checked]
    refine ⟨.inr ⟨filter, filters, unknown, rfl⟩, iff_of_false (by simp) fun due => ?_,
      fun made => (by cases made), fun _ => rfl, fun _ _ => rfl⟩
    rw [rows, empty, filters] at due
    obtain ⟨row, stored, -⟩ := due
    cases stored

end

end Enforcer

end AccessControl
