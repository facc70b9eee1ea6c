import AccessControl.Proofs.Enforcer.BatchRemoval

namespace AccessControl

theorem Bucket.mem_replaceFirst {old new row : Row} {rows : List Row} (member : old ∈ rows) :
    row ∈ replaceFirst old new rows ↔ row ∈ rows.erase old ∨ row = new := by
  rw [← List.count_pos_iff, count_replaceFirst member, List.count_pos_iff, List.mem_append,
    List.mem_singleton]

namespace Mutation

/-- A removal of several rows asks for no more than there is. -/
def Covered (rows : List Row) : Mutation Row → Prop
  | .removeAll _ removed => Contained removed rows
  | _ => True

theorem rows_of_read {ε ρ σ : Type} {f : ρ → Except ε σ} {mutation : Mutation ρ}
    {change : Mutation σ} (done : mutation.read f = .ok change) :
    ∀ row ∈ change.rows, ∃ given ∈ mutation.rows, f given = .ok row := by
  cases reads_of_read done with
  | removeFiltered => simp [rows]
  | update readOld readNew => simp [rows, readOld, readNew]
  | addAll read | removeAll read => exact fun row member => Answer.mem_of_mapM read member
  | add read | remove read => simp [rows, read]

end Mutation

namespace Enforcer

section

variable {table : PolicyTable} (sound : table.Sound) {change : Mutation Row}
  (admitted : admits table change = true)
include sound admitted

/-- A change that is admitted is made as a whole, except for a removal of several rows that
asks for more than there is. -/
theorem rows_changeTable (covered : change.Covered (table.rows change.key)) :
    (changeTable table change).rows change.key = change.onRows (table.rows change.key) := by
  cases change with
  | add key row =>
      simp only [admits, Bool.not_eq_true'] at admitted
      simp only [changeTable, PolicyTable.insert?, admitted, Mutation.key, Mutation.onRows]
      exact table.rows_withBucket_self key _
  | addAll key rows =>
      have refused : (table.isUnique key &&
          (rows.any (table.has key) || !Decidable.decide rows.Nodup)) = false := by
        simp only [admits, Bool.and_eq_true] at admitted
        cases unique : table.isUnique key with
        | false => rfl
        | true =>
            simp only [unique, Bool.not_true, Bool.false_or, Bool.and_eq_true] at admitted
            rw [Bool.true_and, Bool.or_eq_false_iff, admitted.2.1]
            exact ⟨by simpa using admitted.2.2, rfl⟩
      simp only [changeTable, PolicyTable.insertAll?, refused, Mutation.key, Mutation.onRows]
      exact table.rows_withBucket_self key _
  | remove key row =>
      simp only [admits] at admitted
      simp only [changeTable, PolicyTable.erase?, admitted, Mutation.key, Mutation.onRows]
      exact table.rows_withBucket_self key _
  | removeAll key rows => exact sound.rows_eraseAll? covered
  | removeFiltered key filter =>
      simp only [admits, Bool.not_eq_true'] at admitted
      simp only [changeTable, PolicyTable.eraseFiltered, admitted, Mutation.key,
        Mutation.onRows]
      exact table.rows_withBucket_self key _
  | update key old new =>
      simp only [admits, Bool.and_eq_true, Bool.not_eq_true'] at admitted
      simp only [changeTable, PolicyTable.replace?, admitted, Mutation.key, Mutation.onRows]
      exact table.rows_withBucket_self key _

omit admitted in
theorem changeTable_of_not_covered (exceeding : ¬ change.Covered (table.rows change.key)) :
    changeTable table change = table := by
  cases change with
  | removeAll key rows => exact sound.eraseAll?_of_not_contained exceeding
  | _ => exact absurd trivial exceeding

/-- How the rows before and after a change go together with those that it takes away, and
those that it brings. -/
structure Exchanges (before after taken brought : List Row) : Prop where
  kept : ∀ row ∈ before, row ∈ after ∨ row ∈ taken
  old : ∀ row ∈ after, row ∈ before ∨ row ∈ brought
  new : ∀ row ∈ brought, row ∈ after

theorem exchanges_changeTable :
    Exchanges (table.rows change.key) ((changeTable table change).rows change.key)
      (exchanged table change).1 (exchanged table change).2 := by
  by_cases covered : change.Covered (table.rows change.key)
  · rw [rows_changeTable sound admitted covered]
    cases change with
    | add key row =>
        exact ⟨fun _ old => .inl (List.mem_append_left _ old),
          fun _ => List.mem_append.mp, fun _ => List.mem_append_right _⟩
    | addAll key rows =>
        exact ⟨fun _ old => .inl (List.mem_append_left _ old),
          fun _ => List.mem_append.mp, fun _ => List.mem_append_right _⟩
    | remove key row =>
        refine ⟨fun other old => ?_, fun _ left => .inl (List.mem_of_mem_erase left),
          fun _ member => by cases member⟩
        by_cases same : other = row
        · exact .inr (List.mem_singleton.mpr same)
        · exact .inl ((List.mem_erase_of_ne same).mpr old)
    | removeAll key rows =>
        refine ⟨fun other old => ?_, fun _ left => .inl ((List.diff_subset _ _) left),
          fun _ member => by cases member⟩
        by_cases listed : other ∈ rows
        · exact .inr listed
        · exact .inl (List.mem_diff_of_mem old listed)
    | removeFiltered key filter =>
        refine ⟨fun other old => ?_, fun _ left => .inl (List.mem_of_mem_filter left),
          fun _ member => by cases member⟩
        cases accepted : filter.accepts other with
        | true => exact .inr (List.mem_filter.mpr ⟨old, accepted⟩)
        | false => exact .inl (List.mem_filter.mpr ⟨old, by simp [accepted]⟩)
    | update key old new =>
        have stored : old ∈ table.rows key := by
          rw [← sound.has_iff]
          simp only [admits, Bool.and_eq_true] at admitted
          exact admitted.1
        have mem : ∀ row, row ∈ Bucket.replaceFirst old new (table.rows key) ↔
            row ∈ (table.rows key).erase old ∨ row = new :=
          fun row => Bucket.mem_replaceFirst stored
        refine ⟨fun row was => ?_, fun row is => ?_, fun row brought => ?_⟩
        · by_cases same : row = old
          · exact .inr (List.mem_singleton.mpr same)
          · exact .inl ((mem row).mpr (.inl ((List.mem_erase_of_ne same).mpr was)))
        · rcases (mem row).mp is with left | isNew
          · exact .inl (List.mem_of_mem_erase left)
          · exact .inr (List.mem_singleton.mpr isNew)
        · exact (mem row).mpr (.inr (List.mem_singleton.mp brought))
  · rw [changeTable_of_not_covered sound covered]
    cases change with
    | removeAll key rows =>
        exact ⟨fun _ => .inl, fun _ => .inl, fun _ member => by cases member⟩
    | _ => exact absurd trivial covered

end

def Fitting (enforcer : Enforcer) : Prop :=
  ∀ key, ∀ row ∈ enforcer.table.rows key, enforcer.model.arity? key = some row.length

theorem fits_of_check {enforcer : Enforcer} {mutation : Mutation Fields}
    {change : Mutation Row} (checked : enforcer.check mutation = .ok (some change)) :
    ∀ row ∈ change.rows, enforcer.model.arity? change.key = some row.length := by
  obtain ⟨read, -⟩ := read_of_check checked
  rw [(Mutation.same_of_read read).2]
  intro row member
  obtain ⟨fields, -, readRow⟩ := Mutation.rows_of_read read row member
  exact (Model.readRow_eq_ok.mp readRow).2

theorem exchanged_subset {table : PolicyTable} {change : Mutation Row} :
    (∀ row ∈ (exchanged table change).1, row ∈ change.rows ∨ row ∈ table.rows change.key) ∧
      ∀ row ∈ (exchanged table change).2, row ∈ change.rows := by
  cases change with
  | removeFiltered key filter =>
      exact ⟨fun _ taken => .inr (List.mem_of_mem_filter taken), fun _ member => by cases member⟩
  | _ => simp +contextual [exchanged, Mutation.rows]

theorem fits_exchanged {enforcer : Enforcer} (fitting : enforcer.Fitting)
    {mutation : Mutation Fields} {change : Mutation Row}
    (checked : enforcer.check mutation = .ok (some change)) :
    ∀ row ∈ (exchanged enforcer.table change).1 ++ (exchanged enforcer.table change).2,
      enforcer.model.arity? change.key = some row.length := by
  intro row member
  rcases List.mem_append.mp member with taken | brought
  · rcases exchanged_subset.1 row taken with named | stored
    · exact fits_of_check checked row named
    · exact fitting change.key row stored
  · exact fits_of_check checked row (exchanged_subset.2 row brought)

theorem buckets_newTable (settings : Settings) (model : Model) :
    (newTable settings model).buckets = [] := by
  unfold newTable
  split
  · exact buckets_foldl_setUnique _ _
  · rfl

theorem rows_newTable (settings : Settings) (model : Model) (key : String) :
    (newTable settings model).rows key = [] := by
  simp [PolicyTable.rows, PolicyTable.bucket, buckets_newTable, Bucket.empty]

theorem fits_stageRows {settings : Settings} {model : Model} {lines : Lines}
    {staged : PolicyTable}
    (done : stageRows model (newTable settings model) lines = .ok staged) :
    ∀ key, ∀ row ∈ staged.rows key, model.arity? key = some row.length := by
  refine @stageRows_induction (fun table =>
    ∀ key, ∀ row ∈ table.rows key, model.arity? key = some row.length) model ?_ _ _ _ ?_ done
  · intro table next key fields row read made fits other stored member
    simp only [PolicyTable.insert?, Option.ite_none_left_eq_some, Option.some.injEq] at made
    obtain ⟨-, rfl⟩ := made
    by_cases same : other = key
    · subst same
      rw [PolicyTable.rows_withBucket_self] at member
      rcases List.mem_append.mp member with old | new
      · exact fits other stored old
      · rw [List.mem_singleton.mp new]
        exact (Model.readRow_eq_ok.mp read).2
    · rw [PolicyTable.rows_withBucket_of_ne table same] at member
      exact fits other stored member
  · intro key row member
    rw [rows_newTable] at member
    cases member

theorem Sound.fitting_commit {enforcer : Enforcer} (sound : enforcer.Sound)
    (fitting : enforcer.Fitting) {mutation : Mutation Fields} {change : Mutation Row}
    (checked : enforcer.check mutation = .ok (some change)) :
    (enforcer.commit change).Fitting := by
  rw [commit_eq]
  intro key row member
  change enforcer.model.arity? key = some row.length
  change row ∈ (changeTable enforcer.table change).rows key at member
  by_cases same : key = change.key
  · subst same
    have exchanges := exchanges_changeTable sound.table (read_of_check checked).2
    rcases exchanges.old row member with old | new
    · exact fitting change.key row old
    · exact fits_exchanged fitting checked row (List.mem_append_right _ new)
  · rw [(sameElsewhere_changeTable enforcer.table change).rows same] at member
    exact fitting key row member

theorem stable_fitting : Stable fun enforcer => enforcer.Sound ∧ enforcer.Fitting where
  switches := fun _ => trivial
  aside := fun cache metrics? allowed holds =>
    ⟨stable_sound.aside cache metrics? allowed holds.1, holds.2⟩
  withField := by
    intro enforcer key index value rows table looked holds
    refine ⟨stable_sound.withField looked holds.1, fun other row member => ?_⟩
    rw [(PolicyTable.same_withField looked).2] at member
    exact holds.2 other row member
  commit := fun checked holds =>
    ⟨stable_sound.commit checked holds.1, holds.1.fitting_commit holds.2 checked⟩
  exchange := fun staged holds =>
    ⟨stable_sound.exchange staged holds.1, fits_stageRows (stage_eq_ok staged).1⟩
  loadModel := by
    intro enforcer changed model read done holds
    have sound := stable_sound.loadModel read done holds.1
    obtain ⟨matchers, table, graphs, -, staged, rfl⟩ := loadModel_eq_ok done
    exact ⟨sound, fits_stageRows (stage_eq_ok staged).1⟩
  clear := fun holds => ⟨stable_sound.clear holds.1, fun _ _ member => by cases member⟩
  rebuildLinks := fun holds => ⟨stable_sound.rebuildLinks holds.1, holds.2⟩
  withMatching := by
    intro enforcer changed key change done holds
    have sound := stable_sound.withMatching done holds.1
    obtain ⟨_, _, -, rfl⟩ := withMatching_eq_ok done
    exact ⟨sound, holds.2⟩

theorem Reachable.fitting {enforcer : Enforcer} (reachable : Reachable enforcer) :
    enforcer.Fitting := by
  refine (stable_fitting.of_reachable ?_ reachable).2
  intro settings functions metrics? model enforcer read done
  refine ⟨(Reachable.built read done).sound, ?_⟩
  obtain ⟨matchers, -, whole⟩ := Answer.bind_eq_ok.mp done
  cases whole
  exact @fits_stageRows settings model [] _ rfl

section

variable {enforcer : Enforcer} {key : String}

theorem Fitting.mem_rowKeys (fitting : enforcer.Fitting) {row : Row}
    (stored : row ∈ enforcer.table.rows key) : key ∈ enforcer.model.rowKeys :=
  Model.mem_rowKeys.mpr ⟨_, fitting key row stored⟩

theorem Fitting.rows_eq_nil (fitting : enforcer.Fitting)
    (unknown : key ∉ enforcer.model.rowKeys) : enforcer.table.rows key = [] := by
  rw [List.eq_nil_iff_forall_not_mem]
  intro row stored
  exact unknown (fitting.mem_rowKeys stored)

theorem Reachable.nodup_rows (reachable : Reachable enforcer)
    (unique : enforcer.settings.uniquePolicies = true) (key : String) :
    (enforcer.table.rows key).Nodup := by
  by_cases isKey : key ∈ enforcer.model.rowKeys
  · refine reachable.sound.table.distinct key ?_
    rw [reachable.sound.isUnique_eq, unique, Bool.true_and, List.contains_iff_mem]
    exact isKey
  · rw [reachable.fitting.rows_eq_nil isKey]
    exact .nil

end

end Enforcer

end AccessControl
