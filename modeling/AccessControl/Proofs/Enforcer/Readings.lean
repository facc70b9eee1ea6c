import AccessControl.Proofs.Enforcer.Change
import AccessControl.Proofs.Enforcer.Reachable
import AccessControl.Proofs.Enforcer.Sound

namespace AccessControl

/-! What the metrics of an enforcer read, and what leaves a reading as it is. A change of the
metrics touches few samples, so a reading is followed by what spares it. -/

namespace Metrics

variable {metric : Metric} {value? : Option String}

def ofRequests : List (String × Option String) :=
  [(Metric.decisions.name, some "allow"), (Metric.decisions.name, some "deny"),
    (Metric.durations.name, none), (Metric.cacheLookups.name, some "hit"),
    (Metric.cacheLookups.name, some "miss"), (Metric.ruleErrors.name, none),
    (Metric.errors.name, some Category.enforce.code)]

theorem spares_of_not_mem (apart : (metric.name, value?) ∉ ofRequests) (other : Metric)
    (other? : Option String) (requested : (other.name, other?) ∈ ofRequests) :
    Spares metric value? (·.increment other other?) :=
  spares_increment fun same => apart (same ▸ requested)

theorem spares_recordCacheLookup (apart : (metric.name, value?) ∉ ofRequests) (hit : Bool) :
    Spares metric value? (·.recordCacheLookup hit) :=
  spares_of_not_mem apart _ _ (by cases hit <;> decide)

theorem spares_recordDecision (apart : (metric.name, value?) ∉ ofRequests) (allowed : Bool) :
    Spares metric value? (·.recordDecision allowed) :=
  Spares.comp (spares_of_not_mem apart Metric.durations none (by decide))
    (spares_of_not_mem apart Metric.decisions _ (by cases allowed <;> decide))

end Metrics

namespace Enforcer

section

variable (enforcer : Enforcer) {metric : Metric} {value? : Option String}

section

variable (apart : (metric.name, value?) ∉ Metrics.ofRequests)
include apart

theorem reading_evaluate (selection : Selection) (values : List Value) (explain : Bool) :
    (enforcer.evaluate selection values explain).2.1.reading metric value? =
      enforcer.reading metric value? := by
  have counted := Metrics.spares_of_not_mem apart Metric.ruleErrors none (by decide)
  unfold evaluate
  simp only
  split <;> exact enforcer.reading_record (counted.repeat _)

theorem reading_evaluateCached (selection : Selection) (values : List Value) (key : String) :
    (enforcer.evaluateCached selection values key).2.1.reading metric value? =
      enforcer.reading metric value? := by
  have asked := reading_record { enforcer with cache := (enforcer.cache.get key).2 }
    (Metrics.spares_recordCacheLookup apart (enforcer.cache.get key).1.isSome)
  unfold evaluateCached
  simp only
  split
  · exact asked
  · have evaluated := reading_evaluate ({ enforcer with
        cache := (enforcer.cache.get key).2 }.record fun metrics =>
          metrics.recordCacheLookup (enforcer.cache.get key).1.isSome) apart selection values false
    split
    · next made =>
        rw [made] at evaluated
        exact evaluated.trans asked
    · exact evaluated.trans asked

theorem reading_decide (context : EnforceContext) (values : List Value) (explain : Bool) :
    (enforcer.decide context values explain).2.1.reading metric value? =
      enforcer.reading metric value? := by
  unfold decide
  split
  · exact enforcer.reading_record (Metrics.spares_of_not_mem apart _ _ (by decide))
  · next selection _ =>
      split
      · rfl
      · cases enforcer.cacheKey? context values explain with
        | some key =>
            have left := enforcer.reading_evaluateCached apart selection values key
            simp only
            split
            · exact (reading_record _ (Metrics.spares_recordDecision apart _)).trans left
            · exact left
        | none =>
            have left := enforcer.reading_evaluate apart selection values explain
            simp only
            split
            · exact (reading_record _ (Metrics.spares_recordDecision apart _)).trans left
            · exact left

end

theorem metrics?_answer (question : Question) :
    (enforcer.answer question).2.metrics? = enforcer.metrics? := by
  rcases enforcer.answer_snd question with same | ⟨_, _, _, _, table, -, left⟩
  · rw [same]
  · rw [left]

theorem metrics?_adjust (adjustment : Adjustment) :
    (enforcer.adjust adjustment).2.metrics? = enforcer.metrics? := by
  cases adjustment with
  | matchNames | matchDomains =>
      refine @of_tried (·.metrics? = enforcer.metrics?) _ _ rfl fun changed done => ?_
      obtain ⟨_, _, -, rfl⟩ := withMatching_eq_ok (Answer.mapError_eq_ok.mp done)
      rfl
  | loadModel model =>
      refine @of_tried (·.metrics? = enforcer.metrics?) _ _ rfl fun changed done => ?_
      obtain ⟨_, _, _, -, -, rfl⟩ := loadModel_eq_ok done
      rfl
  | _ => rfl

theorem reading_answer (question : Question) :
    (enforcer.answer question).2.reading metric value? = enforcer.reading metric value? := by
  rw [reading, metrics?_answer, reading]

theorem reading_adjust (adjustment : Adjustment) :
    (enforcer.adjust adjustment).2.reading metric value? = enforcer.reading metric value? := by
  rw [reading, metrics?_adjust, reading]

theorem reading_commit (different : metric.name ≠ Metric.mutations.name)
    (change : Mutation Row) :
    (enforcer.commit change).reading metric value? = enforcer.reading metric value? := by
  rw [commit_eq]
  exact enforcer.reading_record (Metrics.spares_of_name different _)

theorem spares_recordLoad (notCounted : metric.name ≠ Metric.mutations.name)
    (notSet : metric.name ≠ Metric.policyRows.name) (table : PolicyTable) :
    Metrics.Spares metric value? (recordLoad table) := by
  have set : ∀ keys : List String, Metrics.Spares metric value? fun metrics => keys.foldl
      (fun metrics key => metrics.setPolicyRows key (table.count key)) metrics := by
    intro keys
    induction keys with
    | nil => exact fun _ => rfl
    | cons key keys ih =>
        exact ih.comp (Metrics.spares_set (fun same => notSet (congrArg Prod.fst same)) _)
  exact (set table.keys).comp (Metrics.spares_of_name notCounted _)

theorem reading_install (notCounted : metric.name ≠ Metric.mutations.name)
    (notSet : metric.name ≠ Metric.policyRows.name) (label : String) (lines : Lines) :
    (enforcer.install label lines).2.reading metric value? = enforcer.reading metric value? := by
  rcases enforcer.install_snd label lines with same | ⟨table, graphs, -, left⟩
  · rw [same]
  · rw [left]
    exact reading_record _ (spares_recordLoad notCounted notSet table)

end

theorem metrics?_build {settings : Settings} {functions : Entries String CustomFunction}
    {metrics? : Option Metrics} {model : Model} {start : Enforcer}
    (built : build settings functions metrics? model = .ok start) :
    start.metrics? = metrics? := by
  obtain ⟨matchers, -, whole⟩ := Answer.bind_eq_ok.mp built
  cases whole
  rfl

namespace Sample

def measured : Enforcer :=
  enforcer (some (.start "enforcer"))

theorem build_measured :
    build measured.settings [] (some (.start "enforcer")) model = .ok measured := by
  rw [build, compile_model]
  rfl

end Sample

end Enforcer

end AccessControl
