import AccessControl.Proofs.Enforcer.Sound
import AccessControl.Proofs.Metrics

namespace AccessControl

namespace Mutation

inductive Reads {ε ρ σ : Type} (f : ρ → Except ε σ) : Mutation ρ → Mutation σ → Prop
  | add {key : String} {given : ρ} {row : σ} (read : f given = .ok row) :
      Reads f (.add key given) (.add key row)
  | addAll {key : String} {given : List ρ} {rows : List σ} (read : given.mapM f = .ok rows) :
      Reads f (.addAll key given) (.addAll key rows)
  | remove {key : String} {given : ρ} {row : σ} (read : f given = .ok row) :
      Reads f (.remove key given) (.remove key row)
  | removeAll {key : String} {given : List ρ} {rows : List σ}
      (read : given.mapM f = .ok rows) : Reads f (.removeAll key given) (.removeAll key rows)
  | removeFiltered {key : String} {filter : RowFilter} :
      Reads f (.removeFiltered key filter) (.removeFiltered key filter)
  | update {key : String} {givenOld givenNew : ρ} {old new : σ}
      (readOld : f givenOld = .ok old) (readNew : f givenNew = .ok new) :
      Reads f (.update key givenOld givenNew) (.update key old new)

variable {ε ρ σ : Type} {f : ρ → Except ε σ} {mutation : Mutation ρ} {change : Mutation σ}

theorem reads_of_read (done : mutation.read f = .ok change) : Reads f mutation change := by
  cases mutation with
  | add key given =>
      obtain ⟨row, read, whole⟩ := Answer.bind_eq_ok.mp done
      cases whole
      exact .add read
  | addAll key given =>
      obtain ⟨rows, read, whole⟩ := Answer.bind_eq_ok.mp done
      cases whole
      exact .addAll read
  | remove key given =>
      obtain ⟨row, read, whole⟩ := Answer.bind_eq_ok.mp done
      cases whole
      exact .remove read
  | removeAll key given =>
      obtain ⟨rows, read, whole⟩ := Answer.bind_eq_ok.mp done
      cases whole
      exact .removeAll read
  | removeFiltered key filter =>
      cases done
      exact .removeFiltered
  | update key old new =>
      obtain ⟨first, readOld, rest⟩ := Answer.bind_eq_ok.mp done
      obtain ⟨second, readNew, whole⟩ := Answer.bind_eq_ok.mp rest
      cases whole
      exact .update readOld readNew

theorem same_of_read (done : mutation.read f = .ok change) :
    change.operation = mutation.operation ∧ change.key = mutation.key := by
  cases reads_of_read done <;> exact ⟨rfl, rfl⟩

end Mutation

namespace Enforcer

theorem read_of_check {enforcer : Enforcer} {mutation : Mutation Fields}
    {change : Mutation Row} (checked : enforcer.check mutation = .ok (some change)) :
    mutation.read (enforcer.model.readRow mutation.key) = .ok change ∧
      admits enforcer.table change = true := by
  have rest : (do
      let read ← (mutation.read (enforcer.model.readRow mutation.key)).mapError .row
      return if admits enforcer.table read then some read else none :
        Except EnforceFault (Option (Mutation Row))) = .ok (some change) := by
    cases mutation with
    | removeFiltered key filter =>
        simp only [check] at checked
        split at checked
        · cases checked
        · exact checked
    | _ => exact checked
  obtain ⟨found, read, whole⟩ := Answer.bind_eq_ok.mp rest
  have admitted := Except.ok.inj whole
  split at admitted
  · next admits =>
      cases admitted
      exact ⟨Answer.mapError_eq_ok.mp read, admits⟩
  · cases admitted

theorem commit_of_made
    {follow : Storage → Mutation Row → Except StorageFault Unit × Storage}
    {enforcer after : Enforcer} {storage? later? : Option Storage} {mutation : Mutation Fields}
    (made : enforcer.mutateBy follow storage? mutation = (.ok true, after, later?)) :
    ∃ change, enforcer.check mutation = .ok (some change) ∧ after = enforcer.commit change := by
  rcases enforcer.mutateBy_cases follow storage? mutation with
    ⟨change, checked, -, left⟩ | ⟨notMade, -⟩
  · exact ⟨change, checked, (congrArg (·.2.1) made).symm.trans left⟩
  · exact absurd (congrArg Prod.fst made) notMade

def Unhindered (follow : Storage → Mutation Row → Except StorageFault Unit × Storage)
    (enforcer : Enforcer) (storage? : Option Storage) (change : Mutation Row) : Prop :=
  ∀ storage, storage? = some storage → enforcer.switches.autoSave = true →
    storage.kind.immediate = true → (follow storage change).1 = .ok ()

/-- A change that passes the check is made, and a storage that is asked to follows it, or this
storage fails. -/
theorem mutateBy_of_checked
    {follow : Storage → Mutation Row → Except StorageFault Unit × Storage}
    {enforcer : Enforcer} (storage? : Option Storage) {mutation : Mutation Fields}
    {change : Mutation Row} (checked : enforcer.check mutation = .ok (some change)) :
    (enforcer.Unhindered follow storage? change ∧
      ∃ later?, enforcer.mutateBy follow storage? mutation =
          (.ok true, enforcer.commit change, later?) ∧
        ∀ storage, storage? = some storage → enforcer.switches.autoSave = true →
          storage.kind.immediate = true → later? = some (follow storage change).2) ∨
    ¬ enforcer.Unhindered follow storage? change ∧
      ∃ storage fault later?, storage? = some storage ∧
        (follow storage change).1 = .error fault ∧
        enforcer.mutateBy follow storage? mutation = (.error (.storage fault),
          enforcer.record (·.recordError Category.adapter.code), later?) := by
  by_cases asked : ∃ storage, storage? = some storage ∧
      enforcer.switches.autoSave = true ∧ storage.kind.immediate = true
  · obtain ⟨storage, rfl, saves, immediate⟩ := asked
    simp only [mutateBy, checked, saves, immediate, Bool.and_self, if_true]
    cases followed : follow storage change with
    | mk result left =>
        cases result with
        | ok =>
            refine .inl ⟨fun other attached _ _ => ?_, some left, rfl,
              fun other attached _ _ => ?_⟩
            · cases attached
              rw [followed]
            · cases attached
              rw [followed]
        | error fault =>
            refine .inr ⟨fun unhindered => ?_, storage, fault, some left, rfl,
              by rw [followed], rfl⟩
            have done := unhindered storage rfl saves immediate
            rw [followed] at done
            cases done
  · have left : enforcer.mutateBy follow storage? mutation =
        (.ok true, enforcer.commit change, storage?) := by
      simp only [mutateBy, checked]
      cases storage? with
      | none => rfl
      | some storage =>
          exact if_neg fun both => asked ⟨storage, rfl, Bool.and_eq_true_iff.mp both⟩
    exact .inl ⟨fun storage attached saves immediate =>
        absurd ⟨storage, attached, saves, immediate⟩ asked, storage?, left,
      fun storage attached saves immediate =>
        absurd ⟨storage, attached, saves, immediate⟩ asked⟩

def reading (enforcer : Enforcer) (metric : Metric) (value? : Option String) : Option Amount :=
  enforcer.metrics?.map (·.amount metric value?)

section

variable (enforcer : Enforcer) {metric : Metric} {value? : Option String}

theorem reading_record {change : Metrics → Metrics}
    (spares : Metrics.Spares metric value? change) :
    (enforcer.record change).reading metric value? = enforcer.reading metric value? := by
  unfold reading record
  cases enforcer.metrics? with
  | none => rfl
  | some metrics => exact congrArg some (spares metrics)

theorem reading_record_increment (metric : Metric) (value? : Option String) :
    (enforcer.record (·.increment metric value?)).reading metric value? =
      (enforcer.reading metric value?).map Amount.increment := by
  unfold reading record
  cases enforcer.metrics? with
  | none => rfl
  | some metrics => exact congrArg some (metrics.amount_increment_self metric value?)

end

def mutationCount (enforcer : Enforcer) (operation : String) : Option Amount :=
  enforcer.metrics?.map (·.amount Metric.mutations (some operation))

structure Unmoved (before after : Enforcer) : Prop where
  table : after.table = before.table
  graphs : after.graphs = before.graphs
  cache : after.cache = before.cache
  version : after.version = before.version
  mutationCount : ∀ operation, after.mutationCount operation = before.mutationCount operation

structure Committed (operation : String) (before after : Enforcer) : Prop where
  version : after.version = before.version + 1
  cache : after.cache.entries = []
  counted : after.mutationCount operation =
    (before.mutationCount operation).map Amount.increment
  others : ∀ other, other ≠ operation →
    after.mutationCount other = before.mutationCount other

theorem Unmoved.refl (enforcer : Enforcer) : Unmoved enforcer enforcer :=
  ⟨rfl, rfl, rfl, rfl, fun _ => rfl⟩

theorem unmoved_recordError (enforcer : Enforcer) (code : String) :
    Unmoved enforcer (enforcer.record (·.recordError code)) := by
  refine ⟨rfl, rfl, rfl, rfl, fun operation => ?_⟩
  exact enforcer.reading_record (Metrics.spares_of_name (by decide) (some code))

theorem Committed.of_unmoved {operation : String} {before after later : Enforcer}
    (committed : Committed operation before after) (unmoved : Unmoved after later) :
    Committed operation before later := by
  constructor
  · rw [unmoved.version, committed.version]
  · rw [unmoved.cache, committed.cache]
  · rw [unmoved.mutationCount, committed.counted]
  · intro other different
    rw [unmoved.mutationCount, committed.others other different]

theorem committed_commit (enforcer : Enforcer) (change : Mutation Row) :
    Committed change.operation enforcer (enforcer.commit change) := by
  rw [commit_eq]
  constructor
  · rfl
  · rfl
  · exact enforcer.reading_record_increment Metric.mutations (some change.operation)
  · intro other different
    refine enforcer.reading_record (Metrics.spares_increment fun same => different ?_)
    exact Option.some.inj (congrArg Prod.snd same)

theorem switches_mutateBy
    (follow : Storage → Mutation Row → Except StorageFault Unit × Storage)
    (enforcer : Enforcer) (storage? : Option Storage) (mutation : Mutation Fields) :
    (enforcer.mutateBy follow storage? mutation).2.1.switches = enforcer.switches := by
  rcases enforcer.mutateBy_cases follow storage? mutation with
    ⟨change, -, -, left⟩ | ⟨-, same | failed⟩
  · rw [left, commit_eq]
  · rw [same]
  · rw [failed]
    rfl

/-- A change that is made is counted once under its own name, and one that is not made
leaves nothing. -/
theorem mutateBy_moves
    (follow : Storage → Mutation Row → Except StorageFault Unit × Storage)
    (enforcer : Enforcer) (storage? : Option Storage) (mutation : Mutation Fields) :
    ((enforcer.mutateBy follow storage? mutation).1 = .ok true →
      Committed mutation.operation enforcer
        (enforcer.mutateBy follow storage? mutation).2.1) ∧
    ((enforcer.mutateBy follow storage? mutation).1 ≠ .ok true →
      Unmoved enforcer (enforcer.mutateBy follow storage? mutation).2.1) := by
  rcases enforcer.mutateBy_cases follow storage? mutation with
    ⟨change, checked, made, left⟩ | ⟨notMade, left⟩
  · refine ⟨fun _ => ?_, fun notMade => absurd made notMade⟩
    rw [left, ← (Mutation.same_of_read (read_of_check checked).1).1]
    exact committed_commit enforcer change
  · refine ⟨fun made => absurd made notMade, fun _ => ?_⟩
    rcases left with same | failed
    · rw [same]
      exact .refl enforcer
    · rw [failed]
      exact unmoved_recordError enforcer _

end Enforcer

end AccessControl
