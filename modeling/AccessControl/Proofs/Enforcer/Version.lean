import AccessControl.Proofs.Enforcer.Change
import AccessControl.Proofs.Enforcer.Reachable

namespace AccessControl.Enforcer

def commits (enforcer : Enforcer) : Event → Bool
  | .mutate storage? mutation =>
      match (enforcer.mutate storage? mutation).1 with
      | .ok made => made
      | .error _ => false
  | .adjust .clear => true
  | .adjust (.loadModel model) => (enforcer.loadModel model).isOk
  | .load storage? => (enforcer.load storage?).1.isOk
  | .install label lines => (enforcer.install label lines).1.isOk
  | _ => false

theorem version_install (enforcer : Enforcer) (label : String) (lines : Lines) :
    (enforcer.install label lines).2.version =
      enforcer.version + (enforcer.install label lines).1.isOk.toNat := by
  unfold install
  cases enforcer.stage enforcer.model lines with
  | error fault => rfl
  | ok exchanged => rfl

theorem version_load (enforcer : Enforcer) (storage? : Option Storage) :
    (enforcer.load storage?).2.1.version =
      enforcer.version + (enforcer.load storage?).1.isOk.toNat := by
  unfold load
  cases storage? with
  | none => rfl
  | some storage =>
      simp only
      cases storage.kind.immediate with
      | false => rfl
      | true =>
          unfold Storage.load
          cases storage.obstacle? .load with
          | some error => rfl
          | none => exact enforcer.version_install _ _

theorem version_mutate (enforcer : Enforcer) (storage? : Option Storage)
    (mutation : Mutation Fields) :
    (enforcer.mutate storage? mutation).2.1.version =
      enforcer.version + (enforcer.commits (.mutate storage? mutation)).toNat := by
  obtain ⟨whenMade, otherwise⟩ := enforcer.mutateBy_moves persist storage? mutation
  change (enforcer.mutateBy persist storage? mutation).2.1.version =
    enforcer.version + (match (enforcer.mutateBy persist storage? mutation).1 with
      | .ok made => made
      | .error _ => false).toNat
  cases answer : (enforcer.mutateBy persist storage? mutation).1 with
  | error failure => exact (otherwise (by simp [answer])).version
  | ok made =>
      cases made with
      | false => exact (otherwise (by simp [answer])).version
      | true => exact (whenMade answer).version

theorem version_withMatching {enforcer changed : Enforcer} {key : String}
    {change : RoleMatching → RoleMatching}
    (done : enforcer.withMatching key change = .ok changed) :
    changed.version = enforcer.version := by
  obtain ⟨graph, matching, -, rfl⟩ := withMatching_eq_ok done
  rfl

theorem version_adjust (enforcer : Enforcer) (adjustment : Adjustment) :
    (enforcer.adjust adjustment).2.version =
      enforcer.version + (enforcer.commits (.adjust adjustment)).toNat := by
  cases adjustment with
  | matchNames | matchDomains =>
      refine @of_tried (fun left => left.version = enforcer.version) _ _ rfl ?_
      exact fun changed done => version_withMatching (Answer.mapError_eq_ok.mp done)
  | loadModel model =>
      simp only [adjust, commits]
      cases done : enforcer.loadModel model with
      | error failure => rfl
      | ok changed =>
          obtain ⟨matchers, table, graphs, -, -, rfl⟩ := loadModel_eq_ok done
          rfl
  | _ => rfl

/-- The version rises by one with everything that is committed, and never otherwise. -/
theorem version_after (enforcer : Enforcer) (event : Event) :
    (enforcer.after event).version =
      enforcer.version + (enforcer.commits event).toNat := by
  cases event with
  | decide context values explain =>
      obtain ⟨cache, metrics?, left⟩ := enforcer.decide_snd context values explain
      change (enforcer.decide context values explain).2.1.version = enforcer.version
      rw [left]
  | mutate storage? mutation => exact enforcer.version_mutate storage? mutation
  | answer question =>
      change (enforcer.answer question).2.version = enforcer.version
      rcases enforcer.answer_snd question with same | ⟨_, _, _, _, table, -, left⟩
      · rw [same]
      · rw [left]
  | adjust adjustment => exact enforcer.version_adjust adjustment
  | load storage? => exact enforcer.version_load storage?
  | install label lines => exact enforcer.version_install label lines
  | fail code => rfl

end AccessControl.Enforcer
