import AccessControl.Proofs.Enforcer.Rows
import AccessControl.Proofs.Policy.Backwards

namespace AccessControl

/-! A query for the rows that a filter accepts, and the removal of these rows. A query for
one value looks among the remembered fields, and every other query, like the removal, looks
at the rows themselves. -/

namespace Enforcer

theorem exact_changeTable {table : PolicyTable} (exact : table.Exact) (change : Mutation Row) :
    (changeTable table change).Exact := by
  cases change with
  | add key row => exact exact.getD (exact.insert? key row)
  | addAll key rows => exact exact.getD (exact.insertAll? key rows)
  | remove key row => exact exact.getD (exact.erase? key row)
  | removeAll key rows => exact exact.getD (exact.eraseAll? key rows)
  | removeFiltered key filter => exact (exact.eraseFiltered key filter).1
  | update key old new => exact exact.getD (exact.replace? key old new)

theorem exact_newTable (settings : Settings) (model : Model) :
    (newTable settings model).Exact := by
  have unique : ∀ {table : PolicyTable} (keys : List String), table.Exact →
      (keys.foldl (fun table key => table.setUnique key true) table).Exact := by
    intro table keys exact
    induction keys generalizing table with
    | nil => exact exact
    | cons key keys ih => exact ih (exact.setUnique key true)
  unfold newTable
  split
  · exact unique _ PolicyTable.exact_empty
  · exact PolicyTable.exact_empty

theorem exact_stageRows {settings : Settings} {model : Model} {lines : Lines}
    {table : PolicyTable}
    (done : stageRows model (newTable settings model) lines = .ok table) : table.Exact := by
  refine stageRows_induction (fun {table next key fields row} _ made exact => ?_)
    (exact_newTable settings model) done
  have kept := exact.getD (exact.insert? key row)
  rwa [made] at kept

theorem stable_exact : Stable fun enforcer => enforcer.table.Exact where
  switches := fun _ => trivial
  aside := fun _ _ _ exact => exact
  withField := fun looked exact => exact.of_withField looked
  commit := by
    intro enforcer mutation change _ exact
    rw [commit_eq]
    exact exact_changeTable exact change
  exchange := fun staged _ => exact_stageRows (stage_eq_ok staged).1
  loadModel := by
    intro enforcer changed model _ done _
    obtain ⟨matchers, table, graphs, -, staged, rfl⟩ := loadModel_eq_ok done
    exact exact_stageRows (stage_eq_ok staged).1
  clear := fun _ => PolicyTable.Exact.clear _
  rebuildLinks := id
  withMatching := by
    intro enforcer changed key change done exact
    obtain ⟨_, _, -, rfl⟩ := withMatching_eq_ok done
    exact exact

theorem Reachable.exact {enforcer : Enforcer} (reachable : Reachable enforcer) :
    enforcer.table.Exact := by
  refine stable_exact.of_reachable ?_ reachable
  intro settings functions metrics? model enforcer _ done
  obtain ⟨matchers, -, whole⟩ := Answer.bind_eq_ok.mp done
  cases whole
  exact exact_newTable settings model

theorem Fitting.alike {enforcer : Enforcer} (fitting : enforcer.Fitting) (key : String) :
    ∀ row ∈ enforcer.table.rows key, row.length = (enforcer.model.arity? key).getD 0 := by
  intro row stored
  rw [fitting key row stored, Option.getD_some]

section

variable {enforcer : Enforcer} {key : String} {filter : RowFilter}

theorem filteredRows_of_not_single (several : ∀ value, ¬ filter.Single value) :
    enforcer.filteredRows key filter = .ok (enforcer.table.filtered key filter, enforcer) := by
  unfold filteredRows
  split
  · next value values =>
      by_cases blank : value = ""
      · rw [blank]
        rfl
      · exact absurd ⟨blank, values⟩ (several value)
  · rfl

theorem filteredRows_of_single {value : String} (single : filter.Single value)
    (exact : enforcer.table.Exact) :
    (enforcer.filteredRows key filter).map Prod.fst =
      (PolicyTable.indexOf (enforcer.table.rows key) filter.start).map
        fun entries => (entries.lookup value).getD [] := by
  have filled : ¬ value.isEmpty = true := by simpa using single.1
  rw [← exact.withField_fst, filteredRows, single.2]
  simp only [if_neg filled]
  cases enforcer.table.withField key filter.start value <;> rfl

theorem filteredRows_eq_ok {rows : List Row}
    (found : (enforcer.filteredRows key filter).map Prod.fst = .ok rows) :
    ∃ later, enforcer.filteredRows key filter = .ok (rows, later) := by
  cases queried : enforcer.filteredRows key filter with
  | error failure =>
      rw [queried] at found
      cases found
  | ok result =>
      rw [queried] at found
      cases found
      exact ⟨result.2, rfl⟩

theorem filteredRows_eq_error {failure : Failure}
    (failed : (enforcer.filteredRows key filter).map Prod.fst = .error failure) :
    enforcer.filteredRows key filter = .error failure := by
  cases queried : enforcer.filteredRows key filter with
  | error other =>
      rw [queried] at failed
      cases failed
      rfl
  | ok result =>
      rw [queried] at failed
      cases failed

theorem filteredRows_of_not_astray (reachable : Reachable enforcer)
    (straight : ¬ filter.Astray (enforcer.table.rows key)) :
    ∃ later, enforcer.filteredRows key filter =
      .ok (enforcer.table.filtered key filter, later) := by
  by_cases one : ∃ value, filter.Single value
  · obtain ⟨value, single⟩ := one
    obtain ⟨entries, listed, looked⟩ :=
      PolicyTable.indexOf_of_not_astray (reachable.fitting.alike key) single straight
    refine filteredRows_eq_ok ?_
    rw [filteredRows_of_single single reachable.exact, listed]
    exact congrArg Except.ok looked
  · exact ⟨_, filteredRows_of_not_single (not_exists.mp one)⟩

theorem filteredRows_of_astray (reachable : Reachable enforcer)
    (astray : filter.Astray (enforcer.table.rows key)) :
    enforcer.filteredRows key filter = .error (.trap .indexRange) ∨
      ∃ rows later, enforcer.filteredRows key filter = .ok (rows, later) ∧ rows ≠ [] := by
  obtain ⟨value, single, -⟩ := astray.2
  have queried := @filteredRows_of_single enforcer key filter value single reachable.exact
  rcases PolicyTable.indexOf_of_astray (reachable.fitting.alike key) single astray with
    failed | ⟨entries, listed, decided⟩
  · rw [failed] at queried
    exact .inl (filteredRows_eq_error queried)
  · rw [listed] at queried
    obtain ⟨later, found⟩ := filteredRows_eq_ok queried
    exact .inr ⟨_, later, found, decided⟩

end

/-- What a change takes away from the rows of a key: these rows, in their order, and no
others. -/
structure TakesAway (before after : Enforcer) (key : String) (rows : List Row) : Prop where
  taken : rows = (before.rows key).filter fun row => row ∉ after.rows key
  kept : after.rows key = (before.rows key).filter fun row => row ∉ rows
  elsewhere : ∀ other, other ≠ key → after.rows other = before.rows other

/-- What a removal by a filter may come to if it is to take some rows away. With none it is
refused, and otherwise it is made, unless the storage fails to follow it. -/
inductive Foretold (enforcer : Enforcer) (storage? : Option Storage) (key : String)
    (filter : RowFilter) (rows : List Row) : Answer Bool × Enforcer × Option Storage → Prop
  | refused (empty : rows = []) :
      Foretold enforcer storage? key filter rows (.ok false, enforcer, storage?)
  | made {after : Enforcer} {later? : Option Storage} (filled : rows ≠ [])
      (takes : TakesAway enforcer after key rows) :
      Foretold enforcer storage? key filter rows (.ok true, after, later?)
  | failed {storage : Storage} {fault : StorageFault} {after : Enforcer}
      {later? : Option Storage} (filled : rows ≠ []) (attached : storage? = some storage)
      (refuses : (persist storage (.removeFiltered key filter)).1 = .error fault)
      (kept : after.table = enforcer.table) :
      Foretold enforcer storage? key filter rows (.error (.storage fault), after, later?)

/-- The query has an answer, which is what the removal takes away. -/
def Previews (enforcer : Enforcer) (storage? : Option Storage) (key : String)
    (filter : RowFilter) : Prop :=
  ∃ rows later, enforcer.filteredRows key filter = .ok (rows, later) ∧
    Foretold enforcer storage? key filter rows
      (enforcer.mutate storage? (.removeFiltered key filter))

section

variable {enforcer : Enforcer} {key : String} (declared : key ∈ enforcer.model.rowKeys)
  (storage? : Option Storage) (filter : RowFilter)
include declared

theorem check_removeFiltered :
    enforcer.check (.removeFiltered key filter) =
      .ok (if enforcer.table.filtered key filter = [] then none
        else some (.removeFiltered key filter)) := by
  obtain ⟨count, known⟩ := Model.mem_rowKeys.mp declared
  simp only [check, known, Option.isNone_some, Bool.false_eq_true, if_false]
  change Except.ok (if !(enforcer.table.filtered key filter).isEmpty then _ else _) = _
  cases enforcer.table.filtered key filter <;> rfl

theorem mutate_removeFiltered_refused (empty : enforcer.table.filtered key filter = []) :
    enforcer.mutate storage? (.removeFiltered key filter) = (.ok false, enforcer, storage?) := by
  rw [mutate, mutateBy, check_removeFiltered declared, if_pos empty]

omit declared in
theorem takesAway_commit (reachable : Reachable enforcer)
    (filled : enforcer.table.filtered key filter ≠ []) :
    TakesAway enforcer (enforcer.commit (.removeFiltered key filter)) key
      (enforcer.table.filtered key filter) := by
  have admitted : admits enforcer.table (.removeFiltered key filter) = true := by
    simpa [admits] using filled
  have left : (enforcer.commit (.removeFiltered key filter)).rows key =
      (enforcer.rows key).filter fun row => !filter.accepts row := by
    rw [rows, table_commit]
    exact rows_changeTable reachable.sound.table admitted trivial
  refine ⟨?_, ?_, fun other different => rows_commit_of_ne different⟩
  · rw [left]
    refine List.filter_congr fun row stored => ?_
    have stored : row ∈ enforcer.rows key := stored
    simp [stored]
  · rw [left]
    refine List.filter_congr fun row stored => ?_
    have stored : row ∈ enforcer.table.rows key := stored
    simp [PolicyTable.filtered, stored]

theorem foretold_filtered (reachable : Reachable enforcer) :
    Foretold enforcer storage? key filter (enforcer.table.filtered key filter)
      (enforcer.mutate storage? (.removeFiltered key filter)) := by
  by_cases filled : enforcer.table.filtered key filter = []
  · rw [mutate_removeFiltered_refused declared storage? filter filled]
    exact .refused filled
  · have checked := check_removeFiltered declared filter
    rw [if_neg filled] at checked
    rw [mutate]
    rcases mutateBy_of_checked storage? checked with
      ⟨-, later?, made, -⟩ | ⟨-, storage, fault, later?, attached, refuses, failed⟩
    · rw [made]
      exact .made filled (takesAway_commit filter reachable filled)
    · rw [failed]
      exact .failed filled attached refuses rfl

/-- Whatever happened to an enforcer, and whichever storage follows it: a query for the rows
of a key that a filter accepts answers what their removal would take away, unless it goes
astray. Then it fails, or it answers some rows, and the removal is refused. -/
theorem previews_iff_not_astray (reachable : Reachable enforcer) :
    (enforcer.Previews storage? key filter ↔ ¬ filter.Astray (enforcer.rows key)) ∧
    (filter.Astray (enforcer.rows key) →
      enforcer.mutate storage? (.removeFiltered key filter) = (.ok false, enforcer, storage?) ∧
      (enforcer.filteredRows key filter = .error (.trap .indexRange) ∨
        ∃ rows later, enforcer.filteredRows key filter = .ok (rows, later) ∧ rows ≠ [])) := by
  have refused : filter.Astray (enforcer.rows key) →
      enforcer.mutate storage? (.removeFiltered key filter) =
        (.ok false, enforcer, storage?) := by
    intro astray
    refine mutate_removeFiltered_refused declared storage? filter ?_
    exact List.filter_eq_nil_iff.mpr fun row _ => by
      simp [filter.accepts_of_negative astray.1 row]
  refine ⟨⟨?_, fun straight => ?_⟩, fun astray =>
    ⟨refused astray, filteredRows_of_astray reachable astray⟩⟩
  · rintro ⟨rows, later, found, foretold⟩ astray
    rw [refused astray] at foretold
    cases foretold with
    | refused empty =>
        rcases filteredRows_of_astray reachable astray with failed | ⟨others, _, same, filled⟩
        · rw [found] at failed
          cases failed
        · rw [found] at same
          cases same
          exact filled empty
  · obtain ⟨later, found⟩ := filteredRows_of_not_astray reachable straight
    exact ⟨_, later, found, foretold_filtered declared storage? filter reachable⟩

end

namespace Sample

def admitting : Enforcer :=
  (enforcer none).after (.mutate none (.add "p" [.text "staff", .text "allow"]))

theorem reachable_admitting : Reachable admitting :=
  .after (reachable_enforcer none) (.mutate none _) trivial

theorem rows_admitting : admitting.rows "p" = [["staff", "allow"]] := by
  decide +kernel

theorem astray_last : RowFilter.Astray ⟨-1, ["allow"]⟩ (admitting.rows "p") := by
  rw [rows_admitting]
  exact ⟨by decide, "allow", ⟨by decide, rfl⟩, _, List.mem_singleton_self _, .inr rfl⟩

end Sample

/-- A value is found in the second field, but not in the last one. -/
theorem previews_iff_not_astray_admitting :
    Sample.admitting.Previews none "p" ⟨1, ["allow"]⟩ ∧
    ¬ Sample.admitting.Previews none "p" ⟨-1, ["allow"]⟩ := by
  have declared : "p" ∈ Sample.admitting.model.rowKeys := by decide +kernel
  obtain ⟨forward, -⟩ :=
    previews_iff_not_astray declared none ⟨1, ["allow"]⟩ Sample.reachable_admitting
  obtain ⟨backward, -⟩ :=
    previews_iff_not_astray declared none ⟨-1, ["allow"]⟩ Sample.reachable_admitting
  refine ⟨forward.mpr fun astray => absurd astray.1 (by decide), fun previews => ?_⟩
  exact backward.mp previews Sample.astray_last

/-- A query from the end of the rows answers a row that its removal leaves there, or fails. -/
theorem removal_refused_from_end :
    Reachable Sample.admitting ∧ "p" ∈ Sample.admitting.model.rowKeys ∧
    (Sample.admitting.filteredRows "p" ⟨-1, ["allow"]⟩).map Prod.fst =
      .ok [["staff", "allow"]] ∧
    (Sample.admitting.mutate none (.removeFiltered "p" ⟨-1, ["allow"]⟩)).1 = .ok false ∧
    Sample.admitting.filteredRows "p" ⟨-3, ["allow"]⟩ = .error (.trap .indexRange) ∧
    (Sample.admitting.mutate none (.removeFiltered "p" ⟨-3, ["allow"]⟩)).1 = .ok false :=
  ⟨Sample.reachable_admitting, by decide +kernel, Answer.eq_ok_of_gives (by decide +kernel),
    Answer.eq_ok_of_gives (by decide +kernel), rfl, Answer.eq_ok_of_gives (by decide +kernel)⟩

end Enforcer

end AccessControl
