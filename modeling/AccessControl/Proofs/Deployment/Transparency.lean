import AccessControl.Proofs.Deployment.Bare
import AccessControl.Proofs.Deployment.Session

namespace AccessControl

namespace Deployment

/-- What a result says, without how a decision was come by. -/
def Result.said : Result → Reply ⊕ Bool × List Row
  | .reply given => .inl given
  | .decision made => .inr made.verdict

theorem decide_said {left right : Deployment} (same : left.bare = right.bare)
    (reachableLeft : left.Everywhere Enforcer.Reachable)
    (reachableRight : right.Everywhere Enforcer.Reachable) (place : Nat)
    (context : EnforceContext) {values : List Value} (defined : Enforcer.AllDefined values)
    (explain : Bool) :
    (left.decide place context values explain).1.map Decision.verdict =
      (right.decide place context values explain).1.map Decision.verdict := by
  have stations : left.stations[place]?.map Station.bare =
      right.stations[place]?.map Station.bare := by
    rw [← stations_bare, ← stations_bare, same]
  unfold decide
  cases thereLeft : left.stations[place]? with
  | none =>
      cases thereRight : right.stations[place]? with
      | none => rfl
      | some other =>
          rw [thereLeft, thereRight] at stations
          cases stations
  | some station =>
      cases thereRight : right.stations[place]? with
      | none =>
          rw [thereLeft, thereRight] at stations
          cases stations
      | some other =>
          rw [thereLeft, thereRight] at stations
          have bare : station.enforcer.bare = other.enforcer.bare :=
            congrArg Station.enforcer (Option.some.inj stations)
          change (station.enforcer.decide context values explain).1.map Decision.verdict =
            (other.enforcer.decide context values explain).1.map Decision.verdict
          rw [(reachableLeft.station thereLeft).decide_verdict context defined explain,
            (reachableRight.station thereRight).decide_verdict context defined explain,
            ← station.enforcer.decideAnew_bare, bare, other.enforcer.decideAnew_bare]

end Deployment

namespace Session

def bare (session : Session) : Session :=
  { session with deployment := session.deployment.bare }

def Response.said (response : Response) :
    Option (Answer (AccessControl.Reply ⊕ Bool × List Row)) :=
  response.map (Except.map Deployment.Result.said)

def Step.forgetful : Step → Step
  | .build name plan => .build name plan.forgetful
  | .perform place operation => .perform place operation.forgetful
  | step => step

def Step.Defined : Step → Prop
  | .perform _ (.decide _ values _) => Enforcer.AllDefined values
  | _ => True

structure Alike (left right : Response × Session) : Prop where
  said : left.1.said = right.1.said
  bare : left.2.bare = right.2.bare

theorem Alike.symm {left right : Response × Session} (alike : Alike left right) :
    Alike right left :=
  ⟨alike.said.symm, alike.bare.symm⟩

theorem Alike.trans {first second third : Response × Session}
    (before : Alike first second) (after : Alike second third) : Alike first third :=
  ⟨before.said.trans after.said, before.bare.trans after.bare⟩

variable (session : Session)

theorem alike_build (name : String) (plan : Deployment.Plan) :
    Alike (session.bare.build name plan.forgetful) (session.build name plan) := by
  have deployment : session.bare.deployment = session.deployment.bare := rfl
  obtain ⟨answer, bareLeft, left, bareBuilt, plainBuilt, same⟩ :=
    (session.deployment.alike_build plan).parts
  unfold build
  rw [deployment, bareBuilt, plainBuilt]
  cases answer with
  | error failure => exact ⟨rfl, congrArg (Session.mk · session.loadings) same⟩
  | ok place =>
      exact ⟨rfl, congrArg (Session.mk · session.loadings)
        (congrArg (·.register name place) same)⟩

theorem alike_startLoad (place : Nat) :
    Alike (session.bare.startLoad place) (session.startLoad place) := by
  have storage : (session.bare.deployment.stations[place]?).bind (·.storage?) =
      (session.deployment.stations[place]?).bind (·.storage?) := by
    change (session.deployment.bare.stations[place]?).bind (·.storage?) = _
    rw [Deployment.stations_bare]
    cases session.deployment.stations[place]? with
    | none => rfl
    | some station => rfl
  have deployment : session.bare.deployment = session.deployment.bare := rfl
  unfold startLoad
  rw [storage]
  cases (session.deployment.stations[place]?).bind (·.storage?) with
  | none =>
      exact ⟨rfl, congrArg (Session.mk · session.loadings) session.deployment.bare_bare⟩
  | some storagePlace =>
      obtain ⟨answer, bareWaiting, waiting, bareRead, plainRead, same⟩ :=
        (session.deployment.alike_read place storagePlace).parts
      simp only [deployment, bareRead, plainRead]
      cases answer with
      | error failure => exact ⟨rfl, congrArg (Session.mk · session.loadings) same⟩
      | ok reading =>
          exact ⟨rfl, congrArg (Session.mk · (session.loadings ++
            [some (Loading.mk place storagePlace reading)])) same⟩

theorem alike_resumeLoad (number : Nat) :
    Alike (session.bare.resumeLoad number) (session.resumeLoad number) := by
  have deployment : session.bare.deployment = session.deployment.bare := rfl
  have loadings : session.bare.loadings = session.loadings := rfl
  unfold resumeLoad
  rw [loadings]
  cases session.loadings[number]?.join with
  | none =>
      exact ⟨rfl, congrArg (Session.mk · session.loadings) session.deployment.bare_bare⟩
  | some loading =>
      simp only [deployment, Deployment.isCurrent_bare]
      split
      · have installed := session.deployment.alike_install loading.place loading.reading
        exact ⟨congrArg (fun answer => Response.said (done answer)) installed.answer,
          congrArg (Session.mk · (session.loadings.set number none)) installed.bare⟩
      · obtain ⟨answer, bareWaiting, waiting, bareRead, plainRead, same⟩ :=
          (session.deployment.alike_read loading.place loading.storage).parts
        simp only [bareRead, plainRead]
        cases answer with
        | error failure =>
            exact ⟨rfl, congrArg (Session.mk · (session.loadings.set number none)) same⟩
        | ok reading =>
            exact ⟨rfl, congrArg (Session.mk · (session.loadings.set number
              (some { loading with reading }))) same⟩

theorem alike_step {step : Step} (notDecision : ∀ place context values explain,
      step ≠ .perform place (.decide context values explain)) :
    Alike (session.bare.step step.forgetful) (session.step step) := by
  cases step with
  | addStorage name storage =>
      exact ⟨rfl, congrArg (Session.mk · session.loadings)
        (congrArg (·.addStorage name storage) session.deployment.bare_bare)⟩
  | exchangeStorage place storage =>
      exact ⟨rfl, congrArg (Session.mk · session.loadings)
        (session.deployment.bare_setStorage_bare (some place) (some storage))⟩
  | addWatcher name watcher =>
      exact ⟨rfl, congrArg (Session.mk · session.loadings)
        (congrArg (·.addWatcher name watcher) session.deployment.bare_bare)⟩
  | build name plan => exact session.alike_build name plan
  | perform place operation =>
      have performed := session.deployment.alike_perform place
        (fun context values explain same => notDecision place context values explain
          (congrArg (Step.perform place) same))
      exact ⟨congrArg (fun answer => Response.said (some answer)) performed.answer,
        congrArg (Session.mk · session.loadings) performed.bare⟩
  | startLoad place => exact session.alike_startLoad place
  | resumeLoad number => exact session.alike_resumeLoad number
  | trigger watcher =>
      have triggered := session.deployment.alike_trigger watcher
      exact ⟨congrArg (fun answer => Response.said (done answer)) triggered.answer,
        congrArg (Session.mk · session.loadings) triggered.bare⟩

theorem forgetful_forgetful (step : Step) : step.forgetful.forgetful = step.forgetful := by
  cases step with
  | perform place operation =>
      cases operation with
      | adjust adjustment => cases adjustment <;> rfl
      | _ => rfl
  | _ => rfl

theorem Step.Legitimate.forgetful {step : Step} (legitimate : step.Legitimate) :
    step.forgetful.Legitimate := by
  cases step with
  | perform place operation =>
      cases operation with
      | adjust adjustment =>
          cases adjustment with
          | enableCache enabled => trivial
          | _ => exact legitimate
      | _ => trivial
  | _ => exact legitimate

theorem eq_of_forgetful_decision {step : Step} {place : Nat} {context : EnforceContext}
    {values : List Value} {explain : Bool}
    (decision : step.forgetful = .perform place (.decide context values explain)) :
    step = .perform place (.decide context values explain) := by
  cases step with
  | perform other operation =>
      cases operation with
      | adjust adjustment => cases decision
      | _ => exact decision
  | _ => cases decision

section

variable {left right : Session} (same : left.bare = right.bare)
  (reachableLeft : left.deployment.Everywhere Enforcer.Reachable)
  (reachableRight : right.deployment.Everywhere Enforcer.Reachable)
include same reachableLeft reachableRight

theorem alike_decision (place : Nat) (context : EnforceContext) {values : List Value}
    (defined : Enforcer.AllDefined values) (explain : Bool) :
    Alike (left.step (.perform place (.decide context values explain)))
      (right.step (.perform place (.decide context values explain))) := by
  have deployments := congrArg Session.deployment same
  have loadings := congrArg Session.loadings same
  have said := Deployment.decide_said deployments reachableLeft reachableRight place context
    defined explain
  have kept : ∀ answer : Answer Decision,
      Response.said (some (answer.map Deployment.Result.decision)) =
        some ((answer.map Decision.verdict).map Sum.inr) := by
    intro answer
    cases answer <;> rfl
  constructor
  · change Response.said (some ((left.deployment.decide place context values explain).1.map
        Deployment.Result.decision)) =
      Response.said (some ((right.deployment.decide place context values explain).1.map
        Deployment.Result.decision))
    rw [kept, kept, said]
  · have leftKept := left.deployment.bare_decide place context values explain
    have rightKept := right.deployment.bare_decide place context values explain
    exact congrArg₂ Session.mk (leftKept.trans (deployments.trans rightKept.symm)) loadings

/-- A step says the same in a session whose enforcers remember and in one where they do
not. -/
theorem alike_step_forgetful {step : Step} (defined : step.Defined) :
    Alike (left.step step) (right.step step.forgetful) := by
  by_cases decision : ∃ place context values explain,
      step = .perform place (.decide context values explain)
  · obtain ⟨place, context, values, explain, rfl⟩ := decision
    exact alike_decision same reachableLeft reachableRight place context defined explain
  · have notDecision : ∀ place context values explain,
        step ≠ .perform place (.decide context values explain) :=
      fun place context values explain isDecision =>
        decision ⟨place, context, values, explain, isDecision⟩
    have forgetful := @alike_step right step.forgetful fun place context values explain
      isDecision => notDecision place context values explain
        (eq_of_forgetful_decision isDecision)
    rw [forgetful_forgetful, ← same] at forgetful
    exact (left.alike_step notDecision).symm.trans forgetful

end

theorem said_run {steps : List Step} (legitimate : ∀ step ∈ steps, step.Legitimate)
    (defined : ∀ step ∈ steps, step.Defined) {left right : Session}
    (same : left.bare = right.bare)
    (reachableLeft : left.deployment.Everywhere Enforcer.Reachable)
    (reachableRight : right.deployment.Everywhere Enforcer.Reachable) :
    (left.run steps).1.map Response.said =
      (right.run (steps.map Step.forgetful)).1.map Response.said := by
  -- The two sessions differ only in what is remembered and counted, after every step.
  induction steps generalizing left right with
  | nil => rfl
  | cons step steps ih =>
      have stepLegitimate := legitimate step List.mem_cons_self
      obtain ⟨said, bare⟩ := alike_step_forgetful same reachableLeft reachableRight
        (defined step List.mem_cons_self)
      have later := ih (fun step member => legitimate step (List.mem_cons_of_mem _ member))
        (fun step member => defined step (List.mem_cons_of_mem _ member)) bare
        (everywhere_step invariant_reachable reachableLeft stepLegitimate)
        (everywhere_step invariant_reachable reachableRight stepLegitimate.forgetful)
      simp only [run, List.map_cons]
      rw [said, later]

theorem invariant_oblivious :
    Deployment.Invariant Enforcer.Oblivious (fun plan => plan.settings.cacheEnabled = false)
      (· ≠ .enableCache true) where
  built := fun disabled built => Enforcer.oblivious_build disabled built
  after := fun never oblivious => oblivious.after never

theorem within_forgetful (step : Step) :
    step.forgetful.Within (fun plan => plan.settings.cacheEnabled = false)
      (· ≠ .enableCache true) := by
  cases step with
  | build name plan => exact rfl
  | perform place operation =>
      cases operation with
      | adjust adjustment => cases adjustment <;> exact fun same => by cases same
      | _ => trivial
  | _ => trivial

theorem oblivious_run (steps : List Step) :
    (start.run (steps.map Step.forgetful)).2.deployment.Everywhere Enforcer.Oblivious := by
  refine everywhere_run invariant_oblivious (everywhere_start _) fun step member => ?_
  obtain ⟨original, -, rfl⟩ := List.mem_map.mp member
  exact within_forgetful original

namespace Sample

def steps : List Step :=
  [.build "guard"
      { settings := { Settings.standard with cacheEnabled := true, cacheLimit := some 2 }
        functions := []
        metrics? := none
        model := Enforcer.Sample.model
        storage? := none
        watcher? := none },
    .perform 0 (.mutate (.add "p" [.text "bob", .text "allow"])),
    .perform 0 (.decide .standard [.text "bob"] false),
    .perform 0 (.decide .standard [.text "bob"] false),
    .perform 0 (.mutate (.remove "p" [.text "bob", .text "allow"])),
    .perform 0 (.decide .standard [.text "bob"] false)]

end Sample

end Session

end AccessControl
