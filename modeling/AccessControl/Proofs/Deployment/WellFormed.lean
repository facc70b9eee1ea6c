import AccessControl.Proofs.Deployment.Session
import AccessControl.Proofs.Enforcer.WellFormed

namespace AccessControl

namespace Enforcer

def Adjustment.Defined : Adjustment → Prop
  | .loadModel model => model.Defined
  | _ => True

theorem model_adjust (enforcer : Enforcer) (adjustment : Adjustment) :
    (enforcer.adjust adjustment).2.model = enforcer.model ∨
      ∃ model, adjustment = .loadModel model ∧
        (enforcer.adjust adjustment).2.model = model := by
  cases adjustment with
  | matchNames | matchDomains =>
      left
      refine @of_tried (·.model = enforcer.model) _ _ rfl fun changed done => ?_
      obtain ⟨_, _, -, rfl⟩ := withMatching_eq_ok (Answer.mapError_eq_ok.mp done)
      rfl
  | loadModel model =>
      simp only [adjust]
      cases done : enforcer.loadModel model with
      | error failure => exact .inl rfl
      | ok changed =>
          obtain ⟨_, _, _, -, -, rfl⟩ := loadModel_eq_ok done
          exact .inr ⟨model, rfl, rfl⟩
  | _ => exact .inl rfl

theorem model_install (enforcer : Enforcer) (label : String) (lines : Lines) :
    (enforcer.install label lines).2.model = enforcer.model := by
  rcases enforcer.install_snd label lines with same | ⟨table, graphs, -, left⟩
  · rw [same]
  · rw [left]
    rfl

theorem model_after (enforcer : Enforcer) {event : Event}
    (notAdjusted : ∀ adjustment, event ≠ .adjust adjustment) :
    (enforcer.after event).model = enforcer.model := by
  cases event with
  | decide context values explain =>
      obtain ⟨cache, metrics?, left⟩ := enforcer.decide_snd context values explain
      simp only [after, left]
  | mutate storage? mutation =>
      simp only [after, Enforcer.mutate]
      rcases enforcer.mutateBy_cases persist storage? mutation with
        ⟨change, -, -, left⟩ | ⟨-, same | failed⟩
      · rw [left, commit_eq]
      · rw [same]
      · rw [failed]
        rfl
  | answer question =>
      rcases enforcer.answer_snd question with same | ⟨_, _, _, _, table, -, left⟩
      · simp only [after, same]
      · simp only [after, left]
  | adjust adjustment => exact absurd rfl (notAdjusted adjustment)
  | load storage? =>
      rcases enforcer.load_snd storage? with same | failed | ⟨label, lines, left⟩
      · simp only [after, same]
      · simp only [after, failed]
        rfl
      · simp only [after, left, model_install]
  | install label lines => exact enforcer.model_install label lines
  | fail code => rfl

theorem defined_after {enforcer : Enforcer} (defined : enforcer.model.Defined)
    {event : Event} (allowed : ∀ adjustment, event = .adjust adjustment → adjustment.Defined) :
    (enforcer.after event).model.Defined := by
  cases event with
  | adjust adjustment =>
      rcases enforcer.model_adjust adjustment with same | ⟨model, rfl, new⟩
      · change (enforcer.adjust adjustment).2.model.Defined
        rw [same]
        exact defined
      · change (enforcer.adjust (.loadModel model)).2.model.Defined
        rw [new]
        exact allowed _ rfl
  | _ =>
      rw [enforcer.model_after (by simp)]
      exact defined

theorem Adjustment.Defined.legitimate {adjustment : Adjustment}
    (defined : adjustment.Defined) : adjustment.Legitimate := by
  cases adjustment with
  | loadModel model => exact Model.Defined.read defined
  | _ => trivial

/-- Whether the enforcer can come about from models that are defined by entries. -/
structure Proper (enforcer : Enforcer) : Prop where
  reachable : Reachable enforcer
  defined : enforcer.model.Defined

end Enforcer

namespace Session

def Step.Proper : Step → Prop :=
  Step.Within (fun plan => plan.model.Defined) Enforcer.Adjustment.Defined

theorem invariant_proper :
    Deployment.Invariant Enforcer.Proper (fun plan => plan.model.Defined)
      Enforcer.Adjustment.Defined where
  built := by
    intro plan enforcer defined built
    refine ⟨.built defined.read built, ?_⟩
    obtain ⟨matchers, -, whole⟩ := Answer.bind_eq_ok.mp built
    cases whole
    exact defined
  after := by
    intro enforcer event allowed proper
    refine ⟨proper.reachable.after event ?_, Enforcer.defined_after proper.defined allowed⟩
    cases event with
    | adjust adjustment => exact (allowed adjustment rfl).legitimate
    | _ => trivial

theorem proper_run {steps : List Step} (proper : ∀ step ∈ steps, step.Proper) :
    (start.run steps).2.deployment.Everywhere Enforcer.Proper :=
  everywhere_run invariant_proper (everywhere_start _) proper

/-- Every enforcer that a session leaves is well formed, and nothing is missing that its
decisions and changes look up. -/
theorem run_wellFormed {steps : List Step} (proper : ∀ step ∈ steps, step.Proper) :
    (start.run steps).2.deployment.Everywhere fun enforcer =>
      enforcer.WellFormed ∧ enforcer.Complete := by
  intro station member
  obtain ⟨reachable, defined⟩ := proper_run proper station member
  exact ⟨reachable.wellFormed defined, reachable.complete⟩

namespace Sample

def staffing : List Step :=
  [.build "guard" {
      settings := (Enforcer.Sample.enforcer none).settings
      functions := []
      metrics? := none
      model := Enforcer.Sample.model
      storage? := none
      watcher? := none },
    .perform 0 (.mutate (.add "g" [.text "bob", .text "staff"])),
    .perform 0 (.adjust (.loadModel Enforcer.Sample.model))]

theorem proper_staffing : ∀ step ∈ staffing, step.Proper := by
  have defined : Enforcer.Sample.model.Defined :=
    ⟨[(.text "r", .text "sub"), (.text "p", .text "sub, eft"), (.text "g", .text "_, _"),
      (.text "e", .text (EffectRule.text .allowAndDeny)),
      (.text "m", .text "g(r.sub, p.sub)")], Answer.eq_ok_of_gives (by decide +kernel)⟩
  intro step member
  simp only [staffing, List.mem_cons, List.not_mem_nil, or_false] at member
  rcases member with rfl | rfl | rfl
  · exact defined
  · exact trivial
  · exact defined

end Sample

theorem run_wellFormed_staffing :
    ∃ station, (start.run Sample.staffing).2.deployment.stations[0]? = some station ∧
      station.enforcer.table.rows "g" = [["bob", "staff"]] ∧
      station.enforcer.WellFormed ∧ station.enforcer.Complete := by
  have stored : ((start.run Sample.staffing).2.deployment.stations[0]?).map
      (·.enforcer.table.rows "g") = some [["bob", "staff"]] := by decide +kernel
  obtain ⟨station, there, rows⟩ := Option.map_eq_some_iff.mp stored
  exact ⟨station, there, rows,
    run_wellFormed Sample.proper_staffing station (List.mem_of_getElem? there)⟩

end Session

end AccessControl
