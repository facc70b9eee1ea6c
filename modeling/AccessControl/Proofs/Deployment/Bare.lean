import AccessControl.Proofs.Deployment.Stations
import AccessControl.Proofs.Enforcer.Bare

namespace AccessControl

def Station.bare (station : Station) : Station :=
  { station with enforcer := station.enforcer.bare }

namespace Deployment

def bare (deployment : Deployment) : Deployment :=
  { deployment with stations := deployment.stations.map Station.bare, calls := [] }

structure Alike {α : Type} (left right : α × Deployment) : Prop where
  answer : left.1 = right.1
  bare : left.2.bare = right.2.bare

theorem Alike.symm {α : Type} {left right : α × Deployment} (alike : Alike left right) :
    Alike right left :=
  ⟨alike.answer.symm, alike.bare.symm⟩

theorem Alike.trans {α : Type} {first second third : α × Deployment}
    (before : Alike first second) (after : Alike second third) : Alike first third :=
  ⟨before.answer.trans after.answer, before.bare.trans after.bare⟩

theorem Alike.parts {α : Type} {left right : α × Deployment} (alike : Alike left right) :
    ∃ answer first second,
      left = (answer, first) ∧ right = (answer, second) ∧ first.bare = second.bare :=
  ⟨right.1, left.2, right.2, Prod.ext alike.answer rfl, rfl, alike.bare⟩

/-- What does the same on a bare deployment does the same on all that differ only in what
is remembered, counted and recorded. -/
theorem Alike.of_bare {α : Type} {operation : Deployment → α × Deployment}
    (alike : ∀ deployment : Deployment, Alike (operation deployment.bare)
      (operation deployment))
    {left right : Deployment} (same : left.bare = right.bare) :
    Alike (operation left) (operation right) :=
  (alike left).symm.trans (same ▸ alike right)

theorem bare_of_bare {operation : Deployment → Deployment}
    (kept : ∀ deployment : Deployment,
      (operation deployment.bare).bare = (operation deployment).bare)
    {left right : Deployment} (same : left.bare = right.bare) :
    (operation left).bare = (operation right).bare :=
  (kept left).symm.trans (same ▸ kept right)

variable (deployment : Deployment)

@[simp] theorem bare_bare : deployment.bare.bare = deployment.bare := by
  simp only [bare, List.map_map]
  rfl

theorem stations_bare (place : Nat) :
    deployment.bare.stations[place]? = deployment.stations[place]?.map Station.bare :=
  List.getElem?_map

theorem bare_setStorage (place? : Option Nat) (storage? : Option Storage) :
    (deployment.setStorage place? storage?).bare =
      deployment.bare.setStorage place? storage? := by
  unfold setStorage
  split <;> rfl

theorem bare_setStorage_bare (place? : Option Nat) (storage? : Option Storage) :
    (deployment.bare.setStorage place? storage?).bare =
      (deployment.setStorage place? storage?).bare := by
  rw [bare_setStorage, bare_setStorage, bare_bare]

theorem bare_changeStation {change plain : Station → Station}
    (same : ∀ station, (plain station.bare).bare = (change station).bare) (place : Nat) :
    (deployment.bare.changeStation place plain).bare =
      (deployment.changeStation place change).bare := by
  simp only [bare, changeStation, Deployment.mk.injEq, true_and, and_true]
  refine List.ext_getElem? fun other => ?_
  simp only [List.getElem?_map, List.getElem?_modify]
  cases deployment.stations[other]? with
  | none => rfl
  | some station =>
      simp only [Option.map_some, Option.map_eq_map]
      split
      · exact congrArg some (same station)
      · rfl

theorem bare_setEnforcer {enforcer other : Enforcer} (same : other.bare = enforcer.bare)
    (place : Nat) :
    (deployment.bare.setEnforcer place other).bare =
      (deployment.setEnforcer place enforcer).bare := by
  refine deployment.bare_changeStation (fun station => ?_) place
  simp only [Station.bare, same]

theorem bare_setEnforcer_of_same {place : Nat} {station : Station}
    (there : deployment.stations[place]? = some station) {enforcer : Enforcer}
    (same : enforcer.bare = station.enforcer.bare) :
    (deployment.setEnforcer place enforcer).bare = deployment.bare := by
  simp only [bare, setEnforcer, changeStation, Deployment.mk.injEq, true_and, and_true]
  refine List.ext_getElem? fun other => ?_
  simp only [List.getElem?_map, List.getElem?_modify]
  by_cases here : place = other
  · subst here
    simp [there, Station.bare, same]
  · simp [here]

theorem bare_changeWatcher (place : Nat) (change : Watcher → Watcher) :
    (deployment.changeWatcher place change).bare =
      deployment.bare.changeWatcher place change :=
  rfl

theorem alike_load (place : Nat) :
    Alike (deployment.bare.load place) (deployment.load place) := by
  unfold load
  rw [stations_bare]
  cases deployment.stations[place]? with
  | none => exact ⟨rfl, deployment.bare_bare⟩
  | some station =>
      obtain ⟨answers, enforcers, storages⟩ :=
        station.enforcer.bare_load (deployment.storageAt? station.storage?)
      refine ⟨answers, ?_⟩
      change ((deployment.bare.setStorage station.storage?
        (station.enforcer.bare.load (deployment.storageAt? station.storage?)).2.2).setEnforcer
          place _).bare = _
      rw [storages, ← bare_setStorage]
      exact bare_setEnforcer _ enforcers place

theorem alike_save (place : Nat) :
    Alike (deployment.bare.save place) (deployment.save place) := by
  unfold save
  rw [stations_bare]
  cases deployment.stations[place]? with
  | none => exact ⟨rfl, deployment.bare_bare⟩
  | some station => exact ⟨rfl, deployment.bare_setStorage_bare _ _⟩

theorem alike_saveDeferred (place : Nat) :
    Alike (deployment.bare.saveDeferred place) (deployment.saveDeferred place) := by
  unfold saveDeferred
  rw [stations_bare]
  cases deployment.stations[place]? with
  | none => exact ⟨rfl, deployment.bare_bare⟩
  | some station => exact ⟨rfl, deployment.bare_setStorage_bare _ _⟩

theorem alike_read (place storagePlace : Nat) :
    Alike (deployment.bare.read place storagePlace) (deployment.read place storagePlace) := by
  have storages : deployment.bare.storages[storagePlace]? =
    deployment.storages[storagePlace]? := rfl
  unfold read
  rw [stations_bare, storages]
  cases deployment.stations[place]? with
  | none => exact ⟨rfl, deployment.bare_bare⟩
  | some station =>
      cases deployment.storages[storagePlace]? with
      | none => exact ⟨rfl, deployment.bare_bare⟩
      | some storage =>
          have waiting : deployment.bare.setStorage (some storagePlace)
              (some storage.load.2) =
                (deployment.setStorage (some storagePlace) (some storage.load.2)).bare :=
            (deployment.bare_setStorage _ _).symm
          simp only [Option.map_some]
          rw [waiting]
          cases storage.load.1 with
          | error error =>
              exact ⟨rfl, @bare_setEnforcer
                (deployment.setStorage (some storagePlace) (some storage.load.2))
                (station.enforcer.record (·.recordError Category.adapter.code))
                (station.bare.enforcer.record (·.recordError Category.adapter.code))
                rfl place⟩
          | ok lines => exact ⟨rfl, bare_bare _⟩

theorem alike_install (place : Nat) (reading : Reading) :
    Alike (deployment.bare.install place reading) (deployment.install place reading) := by
  unfold install
  rw [stations_bare]
  cases deployment.stations[place]? with
  | none => exact ⟨rfl, deployment.bare_bare⟩
  | some station =>
      have installed := station.enforcer.alike_install reading.label reading.lines
      exact ⟨installed.answer, deployment.bare_setEnforcer installed.bare place⟩

theorem isCurrent_bare (place : Nat) (reading : Reading) :
    deployment.bare.isCurrent place reading = deployment.isCurrent place reading := by
  unfold isCurrent
  rw [stations_bare]
  cases deployment.stations[place]? with
  | none => rfl
  | some station => rfl

theorem alike_loadDeferred (place : Nat) :
    Alike (deployment.bare.loadDeferred place []) (deployment.loadDeferred place []) := by
  have storage : (deployment.bare.stations[place]?).bind (·.storage?) =
      (deployment.stations[place]?).bind (·.storage?) := by
    rw [stations_bare]
    cases deployment.stations[place]? with
    | none => rfl
    | some station => rfl
  unfold loadDeferred
  rw [storage]
  cases (deployment.stations[place]?).bind (·.storage?) with
  | none => exact ⟨rfl, deployment.bare_bare⟩
  | some storagePlace =>
      obtain ⟨answer, bareWaiting, waiting, bareRead, plainRead, same⟩ :=
        (deployment.alike_read place storagePlace).parts
      simp only [loadFrom, bareRead, plainRead]
      cases answer with
      | error failure => exact ⟨rfl, same⟩
      | ok reading =>
          exact @Alike.of_bare _ (·.install place reading)
            (fun deployment => deployment.alike_install place reading) _ _ same

theorem alike_react (watcher : Watcher) :
    Alike (deployment.bare.react watcher) (deployment.react watcher) := by
  have names : deployment.bare.stationNames = deployment.stationNames := rfl
  unfold react
  rw [names]
  cases watcher.fails with
  | true => exact ⟨rfl, deployment.bare_bare⟩
  | false =>
      cases watcher.reloads? with
      | none => exact ⟨rfl, deployment.bare_bare⟩
      | some name =>
          simp only [Bool.false_eq_true, if_false]
          cases deployment.stationNames.lookup name with
          | none => exact ⟨rfl, deployment.bare_bare⟩
          | some target =>
              obtain ⟨answer, bareLoaded, loaded, bareLoad, plainLoad, same⟩ :=
                (deployment.alike_load target).parts
              simp only [bareLoad, plainLoad]
              cases answer with
              | error failure => exact ⟨rfl, same⟩
              | ok done => exact ⟨rfl, same⟩

theorem bare_notify (place : Nat) :
    (deployment.bare.notify place).bare = (deployment.notify place).bare := by
  unfold notify
  rw [stations_bare]
  cases deployment.stations[place]? with
  | none => exact deployment.bare_bare
  | some station =>
      have attached : station.bare.watcher? = station.watcher? := rfl
      have watchers : deployment.bare.watchers = deployment.watchers := rfl
      have notifies : station.bare.enforcer.switches.notifyWatcher =
        station.enforcer.switches.notifyWatcher := rfl
      simp only [Option.map_some, attached, watchers, notifies]
      cases station.watcher?.bind fun watcher => deployment.watchers[watcher]? with
      | none => exact deployment.bare_bare
      | some watcher =>
          cases station.enforcer.switches.notifyWatcher with
          | false => exact deployment.bare_bare
          | true =>
              simp only [Bool.not_true, Bool.false_eq_true, if_false]
              obtain ⟨failures, tolds⟩ := alike_react
                (deployment.changeWatcher (station.watcher?.getD 0) .told) watcher
              rw [bare_changeWatcher] at failures tolds
              rw [failures]
              split
              · exact @bare_of_bare (·.changeStation place .countFailure)
                  (fun told => @bare_changeStation told .countFailure .countFailure
                    (fun _ => rfl) place) _ _ tolds
              · exact tolds

theorem alike_mutate (place : Nat) (mutation : Mutation Fields) :
    Alike (deployment.bare.mutate place mutation) (deployment.mutate place mutation) := by
  unfold mutate mutateBy
  rw [stations_bare]
  cases deployment.stations[place]? with
  | none => exact ⟨rfl, deployment.bare_bare⟩
  | some station =>
      obtain ⟨answers, enforcers, storages⟩ := station.enforcer.bare_mutateBy
        Enforcer.persist (deployment.storageAt? station.storage?) mutation
      cases bareMade : station.enforcer.bare.mutateBy Enforcer.persist
          (deployment.storageAt? station.storage?) mutation with
      | mk bareAnswer bareLeft =>
          cases made : station.enforcer.mutateBy Enforcer.persist
              (deployment.storageAt? station.storage?) mutation with
          | mk answer left =>
              rw [bareMade, made] at answers enforcers storages
              simp only at answers enforcers storages
              subst answers
              change Enforcer.mutateBy _ station.bare.enforcer
                (deployment.bare.storageAt? station.bare.storage?) mutation = _ at bareMade
              simp only [Option.map_some, bareMade, made]
              have changed : ((deployment.bare.setStorage station.storage?
                  bareLeft.2).setEnforcer place bareLeft.1).bare =
                  ((deployment.setStorage station.storage? left.2).setEnforcer place
                    left.1).bare := by
                rw [storages, ← bare_setStorage]
                exact bare_setEnforcer _ enforcers place
              split
              · exact ⟨rfl, @bare_of_bare (·.notify place) (·.bare_notify place) _ _ changed⟩
              · exact ⟨rfl, changed⟩

theorem alike_trigger (watcher : Nat) :
    Alike (deployment.bare.trigger watcher) (deployment.trigger watcher) := by
  have watchers : deployment.bare.watchers = deployment.watchers := rfl
  unfold trigger
  rw [watchers]
  cases (deployment.watchers[watcher]?).bind (·.callback?) with
  | none => exact ⟨rfl, deployment.bare_bare⟩
  | some place => exact deployment.alike_load place

theorem bare_attachWatcher (place : Nat) (watcher? : Option Nat) :
    (deployment.bare.attachWatcher place watcher?).bare =
      (deployment.attachWatcher place watcher?).bare := by
  have attached := @bare_changeStation deployment ({ · with watcher? }) ({ · with watcher? })
    (fun _ => rfl) place
  unfold attachWatcher
  cases watcher? with
  | none => exact attached
  | some watcher =>
      simp only [bare_changeWatcher]
      exact congrArg (·.changeWatcher watcher ({ · with callback? := some place })) attached

theorem bare_decide (place : Nat) (context : EnforceContext) (values : List Value)
    (explain : Bool) :
    (deployment.decide place context values explain).2.bare = deployment.bare := by
  unfold decide
  cases there : deployment.stations[place]? with
  | none => rfl
  | some station =>
      have decided := station.enforcer.bare_decide context values explain
      exact deployment.bare_setEnforcer_of_same there decided

end Deployment

def Deployment.Operation.forgetful : Deployment.Operation → Deployment.Operation
  | .adjust adjustment => .adjust adjustment.forgetful
  | operation => operation

namespace Deployment

variable (deployment : Deployment)

theorem Alike.finished {left right : Answer Unit × Deployment} (alike : Alike left right) :
    Alike (finished left) (finished right) :=
  ⟨congrArg (Except.map fun _ => Result.reply .done) alike.answer, alike.bare⟩

theorem alike_ask (place : Nat) (question : Enforcer.Question) :
    Alike (deployment.bare.perform place [] (.ask question))
      (deployment.perform place [] (.ask question)) := by
  simp only [perform]
  rw [stations_bare]
  cases deployment.stations[place]? with
  | none => exact ⟨rfl, deployment.bare_bare⟩
  | some station =>
      have answered := station.enforcer.alike_answer question
      exact ⟨congrArg (Except.map Result.reply) answered.answer,
        deployment.bare_setEnforcer answered.bare place⟩

theorem alike_adjust (place : Nat) (adjustment : Enforcer.Adjustment) :
    Alike (deployment.bare.perform place [] (.adjust adjustment.forgetful))
      (deployment.perform place [] (.adjust adjustment)) := by
  simp only [perform]
  rw [stations_bare]
  cases deployment.stations[place]? with
  | none => exact ⟨rfl, deployment.bare_bare⟩
  | some station =>
      have adjusted := station.enforcer.alike_adjust adjustment
      exact ⟨congrArg (Except.map fun _ => Result.reply .done) adjusted.answer,
        deployment.bare_setEnforcer adjusted.bare place⟩

/-- Every operation but a decision does the same on a bare deployment. -/
theorem alike_perform (place : Nat) {operation : Operation}
    (notDecision : ∀ context values explain, operation ≠ .decide context values explain) :
    Alike (deployment.bare.perform place [] operation.forgetful)
      (deployment.perform place [] operation) := by
  cases operation with
  | decide context values explain => exact absurd rfl (notDecision context values explain)
  | mutate mutation =>
      have changed := deployment.alike_mutate place mutation
      exact ⟨congrArg (Except.map fun made => Result.reply (.flag made)) changed.answer,
        changed.bare⟩
  | ask question => exact deployment.alike_ask place question
  | adjust adjustment => exact deployment.alike_adjust place adjustment
  | load => exact (deployment.alike_load place).finished
  | save => exact (deployment.alike_save place).finished
  | loadDeferred => exact (deployment.alike_loadDeferred place).finished
  | saveDeferred => exact (deployment.alike_saveDeferred place).finished
  | attachStorage storage? =>
      exact ⟨rfl, @bare_changeStation deployment ({ · with storage? }) ({ · with storage? })
        (fun _ => rfl) place⟩
  | attachWatcher watcher? => exact ⟨rfl, deployment.bare_attachWatcher place watcher?⟩

def Plan.forgetful (plan : Plan) : Plan :=
  { plan with settings := plan.settings.forgetful }

theorem alike_loadAtOnce (place : Nat) (storage? : Option Nat) :
    Alike (deployment.bare.loadAtOnce place storage?)
      (deployment.loadAtOnce place storage?) := by
  have storage : deployment.bare.storageAt? storage? = deployment.storageAt? storage? := rfl
  unfold loadAtOnce
  rw [storage]
  cases deployment.storageAt? storage? with
  | none => exact ⟨rfl, deployment.bare_bare⟩
  | some storage =>
      simp only
      split
      · exact deployment.alike_load place
      · exact ⟨rfl, deployment.bare_bare⟩

theorem alike_settle (plan : Plan) (place : Nat) :
    Alike (deployment.bare.settle plan place) (deployment.settle plan place) := by
  obtain ⟨answer, bareLoaded, loaded, bareLoad, plainLoad, same⟩ :=
    (deployment.alike_loadAtOnce place plan.storage?).parts
  unfold settle
  rw [bareLoad, plainLoad]
  cases answer with
  | error failure => exact ⟨rfl, same⟩
  | ok done =>
      refine ⟨rfl, ?_⟩
      cases plan.watcher? with
      | none => exact same
      | some watcher =>
          exact @bare_of_bare (·.attachWatcher place (some watcher))
            (·.bare_attachWatcher place (some watcher)) _ _ same

theorem alike_build (plan : Plan) :
    Alike (deployment.bare.build plan.forgetful) (deployment.build plan) := by
  have built := Enforcer.bare_build plan.settings plan.functions plan.metrics? plan.model
  unfold build
  change Except.map Enforcer.bare (Enforcer.build plan.forgetful.settings
    plan.forgetful.functions plan.forgetful.metrics? plan.forgetful.model) = _ at built
  cases forgetful : Enforcer.build plan.forgetful.settings plan.forgetful.functions
      plan.forgetful.metrics? plan.forgetful.model with
  | error failure =>
      cases plain : Enforcer.build plan.settings plan.functions plan.metrics? plan.model with
      | error other =>
          rw [forgetful, plain] at built
          cases built
          exact ⟨rfl, deployment.bare_bare⟩
      | ok enforcer =>
          rw [forgetful, plain] at built
          cases built
  | ok bareEnforcer =>
      cases plain : Enforcer.build plan.settings plan.functions plan.metrics? plan.model with
      | error other =>
          rw [forgetful, plain] at built
          cases built
      | ok enforcer =>
          rw [forgetful, plain] at built
          have same := Except.ok.inj built
          have length : deployment.bare.stations.length = deployment.stations.length :=
            List.length_map _
          simp only [length]
          refine @Alike.of_bare _ (·.settle plan deployment.stations.length)
            (·.alike_settle plan _) _ _ ?_
          simp only [bare, List.map_append, List.map_map, List.map_cons, List.map_nil,
            Station.bare, same]
          rfl

end Deployment

end AccessControl
