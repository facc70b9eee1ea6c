import AccessControl.Deployment.Operation

namespace AccessControl

/-! Sessions: what is done with a deployment, one step after the other. While an
enforcer waits for the lines of a storage, any other steps may come. -/

/-- Lines that an enforcer waits for, and the number of their storage. -/
structure Loading where
  place : Nat
  storage : Nat
  reading : Deployment.Reading

/-- Loads are numbered as they start; one that has ended is empty. -/
structure Session where
  deployment : Deployment
  loadings : List (Option Loading)

namespace Session

def start : Session :=
  ⟨.empty, []⟩

inductive Step
  | addStorage (name : String) (storage : Storage)
  /-- a storage is changed by others -/
  | exchangeStorage (place : Nat) (storage : Storage)
  | addWatcher (name : String) (watcher : Watcher)
  | build (name : String) (plan : Deployment.Plan)
  | perform (place : Nat) (operation : Deployment.Operation)
  | startLoad (place : Nat)
  | resumeLoad (number : Nat)
  | trigger (watcher : Nat)

/-- The answer of a step; a load that goes on has none. -/
abbrev Response := Option (Answer Deployment.Result)

def done (answer : Answer Unit) : Response :=
  some (answer.map fun _ => .reply .done)

def build (session : Session) (name : String) (plan : Deployment.Plan) :
    Response × Session :=
  match session.deployment.build plan with
  | (.ok place, built) =>
      (done (.ok ()), { session with deployment := built.register name place })
  | (.error failure, built) =>
      (done (.error failure), { session with deployment := built })

def startLoad (session : Session) (place : Nat) : Response × Session :=
  match (session.deployment.stations[place]?).bind (·.storage?) with
  | none =>
      (done (.error (.storage ⟨Enforcer.missingDeferredLabel, .missing⟩)), session)
  | some storage =>
      match session.deployment.read place storage with
      | (.error failure, waiting) =>
          (done (.error failure), { session with deployment := waiting })
      | (.ok reading, waiting) =>
          (none, ⟨waiting, session.loadings ++ [some ⟨place, storage, reading⟩]⟩)

/-- The lines are taken, or read again if the enforcer has changed meanwhile. -/
def resumeLoad (session : Session) (number : Nat) : Response × Session :=
  match session.loadings[number]?.join with
  | none => (none, session)
  | some loading =>
      if session.deployment.isCurrent loading.place loading.reading then
        let (answer, installed) :=
          session.deployment.install loading.place loading.reading
        (done answer, ⟨installed, session.loadings.set number none⟩)
      else
        match session.deployment.read loading.place loading.storage with
        | (.error failure, waiting) =>
            (done (.error failure), ⟨waiting, session.loadings.set number none⟩)
        | (.ok reading, waiting) =>
            (none, ⟨waiting, session.loadings.set number
              (some { loading with reading })⟩)

def step (session : Session) : Step → Response × Session
  | .addStorage name storage =>
      (none, { session with
        deployment := session.deployment.addStorage name storage })
  | .exchangeStorage place storage =>
      (none, { session with
        deployment := session.deployment.setStorage (some place) (some storage) })
  | .addWatcher name watcher =>
      (none, { session with
        deployment := session.deployment.addWatcher name watcher })
  | .build name plan => session.build name plan
  | .perform place operation =>
      let (answer, performed) := session.deployment.perform place [] operation
      (some answer, { session with deployment := performed })
  | .startLoad place => session.startLoad place
  | .resumeLoad number => session.resumeLoad number
  | .trigger watcher =>
      let (answer, triggered) := session.deployment.trigger watcher
      (done answer, { session with deployment := triggered })

def run (session : Session) : List Step → List Response × Session
  | [] => ([], session)
  | step :: steps =>
      let (response, next) := session.step step
      let (responses, last) := next.run steps
      (response :: responses, last)

end Session

end AccessControl
