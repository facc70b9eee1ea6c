import AccessControl.Proofs.Deployment.Commit
import AccessControl.Proofs.Deployment.Loading
import AccessControl.Proofs.Enforcer.Surfaced

namespace AccessControl.Deployment

open Enforcer (Act)

/-- What is done leaves the enforcer at the place as the act leaves it, and is answered alike. -/
def Performs {α : Type} (place : Nat) (enforcer : Enforcer) (act : Act)
    (left : Answer α × Deployment) : Prop :=
  Leaves place left fun answer after => (answer.map fun _ => (), after) = enforcer.act act

/-- What a watcher that is told of a change asks of the enforcer: to load, to count a failure,
both, or nothing. -/
def Echo (acts : List Act) : Prop :=
  ∃ reload failed, acts = reload ++ failed ∧ (reload = [] ∨ ∃ storage?, reload = [.load storage?]) ∧
    (failed = [] ∨ failed = [.watcherFails])

theorem echo_nil : Echo [] :=
  ⟨[], [], rfl, .inl rfl, .inl rfl⟩

theorem map_unit (answer : Answer Unit) : (answer.map fun _ => ()) = answer := by
  cases answer <;> rfl

section

variable {deployment : Deployment} {place : Nat} {station : Station}
  (there : deployment.stations[place]? = some station)
include there

theorem performs_decide (context : EnforceContext) (values : List Value) (explain : Bool) :
    Performs place station.enforcer (.decide context values explain)
      (deployment.decide place context values explain) := by
  simp only [Performs, Leaves, decide, there]
  exact ⟨_, station_setEnforcer_self _ there _, rfl⟩

theorem performs_load :
    Performs place station.enforcer (.load (deployment.storageAt? station.storage?))
      (deployment.load place) := by
  simp only [Performs, Leaves, load, there]
  refine ⟨_, station_setEnforcer_self _ (by rwa [stations_setStorage]) _, ?_⟩
  rw [map_unit]
  rfl

theorem performs_save :
    Performs place station.enforcer (.save (deployment.storageAt? station.storage?))
      (deployment.save place) := by
  simp only [Performs, Leaves, save, there]
  refine ⟨station, by rwa [stations_setStorage], ?_⟩
  rw [map_unit]
  rfl

theorem performs_saveDeferred :
    Performs place station.enforcer (.saveDeferred (deployment.storageAt? station.storage?))
      (deployment.saveDeferred place) := by
  simp only [Performs, Leaves, saveDeferred, there]
  refine ⟨station, by rwa [stations_setStorage], ?_⟩
  rw [map_unit]
  rfl

theorem performs_read (number : Nat) :
    Performs place station.enforcer (.read deployment.storages[number]?)
      (deployment.read place number) := by
  unfold Performs Leaves
  cases found : deployment.storages[number]? with
  | none =>
      simp only [read, there, found]
      exact ⟨station, rfl, rfl⟩
  | some storage =>
      have waiting : (deployment.setStorage (some number)
          (some { storage with loads := storage.loads + 1 })).stations[place]? =
            some station := by
        rwa [stations_setStorage]
      cases obstacle : storage.obstacle? .load with
      | none =>
          rw [read_of_able there found obstacle]
          refine ⟨station, waiting, ?_⟩
          simp only [Enforcer.act, Enforcer.read, Storage.load, obstacle]
          rfl
      | some error =>
          rw [read_of_obstacle there found obstacle]
          refine ⟨_, station_setEnforcer_self _ waiting _, ?_⟩
          simp only [Enforcer.act, Enforcer.read, Storage.load, obstacle]
          rfl

theorem performs_install (reading : Reading) :
    Performs place station.enforcer (.take reading.label reading.lines)
      (deployment.install place reading) := by
  simp only [Performs, Leaves, install, there]
  refine ⟨_, station_setEnforcer_self _ there _, ?_⟩
  rw [map_unit]
  rfl

/-- A load that is not interrupted comes down to the read that fails, or to what is taken. -/
theorem performs_loadDeferred {number : Nat} {storage : Storage}
    (attached : station.storage? = some number)
    (found : deployment.storages[number]? = some storage) :
    Performs place station.enforcer
      (if (storage.obstacle? .load).isSome then .read (some storage)
        else .take storage.label storage.lines)
      (deployment.loadDeferred place []) := by
  simp only [loadDeferred, there, Option.bind_some, attached, loadFrom]
  cases obstacle : storage.obstacle? .load with
  | some error =>
      have performs := performs_read there number
      rw [found] at performs
      rw [read_of_obstacle there found obstacle] at performs ⊢
      exact performs
  | none =>
      rw [read_of_able there found obstacle]
      exact performs_install (by rwa [stations_setStorage])
        ⟨station.enforcer.version, storage.label, storage.lines⟩

theorem leaves_react (watcher : Watcher) :
    ∃ acts : List Act, (acts = [] ∨ ∃ storage?, acts = [.load storage?]) ∧
      Leaves place (deployment.react watcher) fun _ after =>
        after = station.enforcer.runActs acts := by
  unfold react
  split
  · exact ⟨[], .inl rfl, station, there, rfl⟩
  · split
    · exact ⟨[], .inl rfl, station, there, rfl⟩
    · split
      · exact ⟨[], .inl rfl, station, there, rfl⟩
      · next target _ =>
          by_cases here : place = target
          · subst here
            obtain ⟨later, left, done⟩ := performs_load there
            refine ⟨[.load (deployment.storageAt? station.storage?)], .inr ⟨_, rfl⟩, later, ?_,
              congrArg Prod.snd done⟩
            split <;> next loaded => rwa [loaded] at left
          · refine ⟨[], .inl rfl, station, ?_, rfl⟩
            have same := (deployment.station_load_of_ne here).trans there
            split <;> next loaded => rwa [loaded] at same

theorem leaves_notify :
    ∃ acts, Echo acts ∧ ∃ later, (deployment.notify place).stations[place]? = some later ∧
      later.enforcer = station.enforcer.runActs acts := by
  unfold notify
  rw [there]
  simp only
  split
  · exact ⟨[], echo_nil, station, there, rfl⟩
  · next watcher _ =>
      split
      · exact ⟨[], echo_nil, station, there, rfl⟩
      · have told : (deployment.changeWatcher (station.watcher?.getD 0)
            .told).stations[place]? = some station := there
        obtain ⟨reload, isLoad, later, left, after⟩ := leaves_react told watcher
        generalize (deployment.changeWatcher (station.watcher?.getD 0) .told).react watcher =
          reaction at left ⊢
        obtain ⟨fails, reacted⟩ := reaction
        cases fails with
        | false =>
            exact ⟨reload, ⟨reload, [], (List.append_nil reload).symm, isLoad, .inl rfl⟩, later,
              left, after⟩
        | true =>
            refine ⟨reload ++ [.watcherFails], ⟨reload, _, rfl, isLoad, .inr rfl⟩,
              later.countFailure, (List.getElem?_modify_eq ..).trans (congrArg _ left), ?_⟩
            rw [Enforcer.runActs_append, ← after]
            rfl

theorem leaves_mutateBy
    (follow : Storage → Mutation Row → Except StorageFault Unit × Storage)
    (mutation : Mutation Fields) :
    ∃ acts, Echo acts ∧ ((deployment.mutateBy follow place mutation).1 ≠ .ok true → acts = []) ∧
      Leaves place (deployment.mutateBy follow place mutation) fun answer after =>
        (answer.map fun _ => ()) = (station.enforcer.act
          (.mutate follow (deployment.storageAt? station.storage?) mutation)).1 ∧
        after = station.enforcer.runActs
          (.mutate follow (deployment.storageAt? station.storage?) mutation :: acts) := by
  obtain ⟨settled, thereSettled, -, ofMade, ofNotMade⟩ := mutateBy_settles there mutation follow
  have answered := congrArg (Except.map fun _ => ()) (@mutateBy_fst follow _ _ _ there mutation)
  by_cases made : (deployment.mutateBy follow place mutation).1 = .ok true
  · obtain ⟨acts, echo, later, left, after⟩ := leaves_notify thereSettled
    refine ⟨acts, echo, fun notMade => absurd made notMade, later, ?_, answered, after⟩
    rwa [ofMade made]
  · rw [← ofNotMade made] at thereSettled
    exact ⟨[], echo_nil, fun _ => rfl, _, thereSettled, answered, rfl⟩

end

end AccessControl.Deployment
