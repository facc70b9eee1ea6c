import AccessControl.Deployment.Basic
import AccessControl.Enforcer.Operation

namespace AccessControl.Deployment

inductive Operation
  | decide (context : EnforceContext) (values : List Value) (explain : Bool)
  | mutate (mutation : Mutation Fields)
  | ask (question : Enforcer.Question)
  | adjust (adjustment : Enforcer.Adjustment)
  | load
  | save
  | loadDeferred
  | saveDeferred
  | attachStorage (storage? : Option Nat)
  | attachWatcher (watcher? : Option Nat)

inductive Result
  | reply (reply : Reply)
  | decision (decision : Decision)
deriving DecidableEq, Repr

def finished (result : Answer Unit × Deployment) :
    Answer Result × Deployment :=
  (result.1.map fun _ => .reply .done, result.2)

/-- Performs an operation on the enforcer at a place. The interludes happen
while a storage is waited for. -/
def perform (deployment : Deployment) (place : Nat)
    (interludes : List Interlude) : Operation → Answer Result × Deployment
  | .decide context values explain =>
      let (answer, decided) := deployment.decide place context values explain
      (answer.map Result.decision, decided)
  | .mutate mutation =>
      let (answer, changed) := deployment.mutate place mutation
      (answer.map fun made => .reply (.flag made), changed)
  | .ask question =>
      match deployment.stations[place]? with
      | none => (.error misfit, deployment)
      | some station =>
          let (answer, enforcer) := station.enforcer.answer question
          (answer.map Result.reply, deployment.setEnforcer place enforcer)
  | .adjust adjustment =>
      match deployment.stations[place]? with
      | none => (.error misfit, deployment)
      | some station =>
          let (answer, enforcer) := station.enforcer.adjust adjustment
          finished (answer, deployment.setEnforcer place enforcer)
  | .load => finished (deployment.load place)
  | .save => finished (deployment.save place)
  | .loadDeferred => finished (deployment.loadDeferred place interludes)
  | .saveDeferred => finished (deployment.saveDeferred place)
  | .attachStorage storage? =>
      finished (.ok (), deployment.attachStorage place storage?)
  | .attachWatcher watcher? =>
      finished (.ok (), deployment.attachWatcher place watcher?)

def Operation.ofCommand? (command : Command) : Option Operation :=
  match command.name, command.arguments with
  | "load_policy", [] | "reload_policy", [] => some .load
  | "save_policy", [] => some .save
  | "load_policy_async", [] => some .loadDeferred
  | "save_policy_async", [] => some .saveDeferred
  | _, _ =>
      match Mutation.ofCommand? command, Enforcer.Question.ofCommand? command,
          Enforcer.Adjustment.ofCommand? command with
      | some mutation, _, _ => some (.mutate mutation)
      | _, some question, _ => some (.ask question)
      | _, _, some adjustment => some (.adjust adjustment)
      | _, _, _ => none

end AccessControl.Deployment
