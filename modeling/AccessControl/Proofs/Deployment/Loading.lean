import AccessControl.Proofs.Deployment.Interruption
import AccessControl.Proofs.Deployment.Mirror
import AccessControl.Proofs.Enforcer.Loading

namespace AccessControl

namespace Deployment

/-- What is done leaves an enforcer at the place with a property, and answers with it. -/
def Leaves {α : Type} (place : Nat) (left : α × Deployment) (P : α → Enforcer → Prop) : Prop :=
  ∃ later, left.2.stations[place]? = some later ∧ P left.1 later.enforcer

variable {deployment : Deployment} {place : Nat} {station : Station}
  (there : deployment.stations[place]? = some station)
include there

theorem leaves_load :
    Leaves place (deployment.load place) (Enforcer.Loads station.enforcer
      (Enforcer.Readable (deployment.storageAt? station.storage?))
      (Enforcer.linesOf (deployment.storageAt? station.storage?))) := by
  have left : (deployment.load place).2.stations[place]? = some { station with
      enforcer := (station.enforcer.load (deployment.storageAt? station.storage?)).2.1 } := by
    simp only [load, there]
    refine station_setEnforcer_self _ ?_ _
    rwa [stations_setStorage]
  have answered : (deployment.load place).1 =
      (station.enforcer.load (deployment.storageAt? station.storage?)).1 := by
    simp only [load, there]
  refine ⟨_, left, ?_⟩
  rw [answered]
  exact station.enforcer.loads_load (deployment.storageAt? station.storage?)

theorem read_of_able {number : Nat} {storage : Storage}
    (found : deployment.storages[number]? = some storage)
    (able : storage.obstacle? .load = none) :
    deployment.read place number =
      (.ok ⟨station.enforcer.version, storage.label, storage.lines⟩,
        deployment.setStorage (some number)
          (some { storage with loads := storage.loads + 1 })) := by
  simp only [read, there, found, Storage.load, able, Storage.label]

theorem read_of_obstacle {number : Nat} {storage : Storage} {error : StorageError}
    (found : deployment.storages[number]? = some storage)
    (obstacle : storage.obstacle? .load = some error) :
    deployment.read place number =
      (.error (.storage ⟨storage.label, .failed error.message Hook.load.name⟩),
        (deployment.setStorage (some number)
          (some { storage with loads := storage.loads + 1 })).setEnforcer place
            (station.enforcer.record (·.recordError Category.adapter.code))) := by
  simp only [read, there, found, Storage.load, obstacle, Storage.label]

theorem read_cases (number : Nat) :
    (∃ fault waiting later, deployment.read place number = (.error (.storage fault), waiting) ∧
      waiting.stations[place]? = some later ∧
      Enforcer.Intact station.enforcer later.enforcer ∧
      ∀ storage, deployment.storages[number]? = some storage →
        storage.obstacle? .load ≠ none) ∨
    ∃ storage waiting, deployment.read place number =
        (.ok ⟨station.enforcer.version, storage.label, storage.lines⟩, waiting) ∧
      waiting.stations[place]? = some station ∧
      deployment.storages[number]? = some storage ∧ storage.obstacle? .load = none := by
  cases found : deployment.storages[number]? with
  | none =>
      left
      refine ⟨⟨Enforcer.missingDeferredLabel, .missing⟩, deployment, station, ?_, there,
        .refl _, ?_⟩
      · simp only [read, there, found]
      · intro storage attached
        cases attached
  | some storage =>
      have waiting : (deployment.setStorage (some number)
          (some { storage with loads := storage.loads + 1 })).stations[place]? =
            some station := by
        rwa [stations_setStorage]
      cases obstacle : storage.obstacle? .load with
      | none =>
          exact .inr ⟨storage, _, read_of_able there found obstacle, waiting, rfl, obstacle⟩
      | some error =>
          refine .inl ⟨_, _, _, read_of_obstacle there found obstacle,
            station_setEnforcer_self _ waiting _, station.enforcer.intact_record _, ?_⟩
          intro other attached
          cases attached
          rw [obstacle]
          exact Option.some_ne_none error

theorem leaves_install (reading : Reading) :
    Leaves place (deployment.install place reading)
      (Enforcer.Loads station.enforcer True reading.lines) := by
  unfold install
  rw [there]
  exact ⟨_, station_setEnforcer_self _ there _,
    station.enforcer.loads_install reading.label reading.lines⟩

def ReadableLater (storage? : Option Storage) : Prop :=
  ∃ storage, storage? = some storage ∧ storage.obstacle? .load = none

theorem leaves_loadDeferred :
    Leaves place (deployment.loadDeferred place []) (Enforcer.Loads station.enforcer
      (ReadableLater (deployment.storageAt? station.storage?))
      (Enforcer.linesOf (deployment.storageAt? station.storage?))) := by
  unfold loadDeferred
  rw [there, Option.bind_some]
  cases station.storage? with
  | none =>
      refine ⟨station, there, .refused _ ?_ (.refl _)⟩
      rintro ⟨⟨storage, attached, -⟩, -⟩
      cases attached
  | some number =>
      change Leaves place (deployment.loadFrom place number []) (Enforcer.Loads
        station.enforcer (ReadableLater deployment.storages[number]?)
        (Enforcer.linesOf deployment.storages[number]?))
      unfold loadFrom
      rcases read_cases there number with
        ⟨fault, waiting, later, read, thereLater, intact, unable⟩ |
        ⟨storage, waiting, read, thereLater, found, able⟩
      · rw [read]
        refine ⟨later, thereLater, .refused fault ?_ intact⟩
        rintro ⟨⟨storage, attached, able⟩, -⟩
        exact unable storage attached able
      · rw [read, found]
        obtain ⟨last, thereLast, loads⟩ := leaves_install thereLater
          ⟨station.enforcer.version, storage.label, storage.lines⟩
        exact ⟨last, thereLast, loads.of_install ⟨storage, rfl, able⟩⟩

end Deployment

namespace Session

def Leaves (place : Nat) (left : Response × Session) (P : Response → Enforcer → Prop) : Prop :=
  Deployment.Leaves place (left.1, left.2.deployment) P

inductive Ends (P : Answer Unit → Enforcer → Prop) : Response → Enforcer → Prop
  | ended {answer : Answer Unit} {after : Enforcer} (left : P answer after) :
      Ends P (done answer) after

/-- Nothing has changed while lines are waited for, or there is an answer. -/
inductive WaitsOrEnds (before : Enforcer) (P : Answer Unit → Enforcer → Prop) :
    Response → Enforcer → Prop
  | waits {after : Enforcer} (intact : Enforcer.Intact before after) :
      WaitsOrEnds before P none after
  | ended {answer : Answer Unit} {after : Enforcer} (left : P answer after) :
      WaitsOrEnds before P (done answer) after

/-- Whatever loads the rows of the enforcer at a place, or exchanges its model, does so as a
whole or leaves the enforcer as it was. -/
structure LoadsWhole (session : Session) (place : Nat) (station : Station) : Prop where
  loaded : Leaves place (session.step (.perform place .load)) (Ends (station.enforcer.Loads
    (Enforcer.Readable (session.deployment.storageAt? station.storage?))
    (Enforcer.linesOf (session.deployment.storageAt? station.storage?))))
  deferred : Leaves place (session.step (.perform place .loadDeferred))
    (Ends (station.enforcer.Loads
      (Deployment.ReadableLater (session.deployment.storageAt? station.storage?))
      (Enforcer.linesOf (session.deployment.storageAt? station.storage?))))
  /-- a load that only starts takes no lines yet -/
  started : Leaves place (session.step (.startLoad place))
    (WaitsOrEnds station.enforcer (station.enforcer.Loads False []))
  resumed : ∀ number loading, session.loadings[number]? = some (some loading) →
    loading.place = place → Leaves place (session.step (.resumeLoad number))
      (WaitsOrEnds station.enforcer (station.enforcer.Loads
        (session.deployment.isCurrent place loading.reading = true) loading.reading.lines))
  exchanged : ∀ read, Enforcer.ExchangesModel station.enforcer read
    (station.enforcer.exchangeModel read).1 (station.enforcer.exchangeModel read).2

section

variable {session : Session} {place : Nat} {station : Station}
  (there : session.deployment.stations[place]? = some station)
include there

theorem startLoad_waits {number : Nat} {reading : Deployment.Reading} {waiting : Deployment}
    (attached : station.storage? = some number)
    (read : session.deployment.read place number = (.ok reading, waiting)) :
    session.startLoad place =
      (none, ⟨waiting, session.loadings ++ [some ⟨place, number, reading⟩]⟩) := by
  simp only [startLoad, there, Option.bind_some, attached, read]

theorem startLoad_failed {number : Nat} {failure : Failure} {waiting : Deployment}
    (attached : station.storage? = some number)
    (failed : session.deployment.read place number = (.error failure, waiting)) :
    session.startLoad place =
      (done (.error failure), { session with deployment := waiting }) := by
  simp only [startLoad, there, Option.bind_some, attached, failed]

theorem leaves_startLoad :
    Leaves place (session.startLoad place)
      (WaitsOrEnds station.enforcer (station.enforcer.Loads False [])) := by
  cases attached : station.storage? with
  | none =>
      simp only [startLoad, there, Option.bind_some, attached]
      exact ⟨station, there, .ended (.refused _ (fun able => able.1) (.refl _))⟩
  | some number =>
      rcases Deployment.read_cases there number with
        ⟨fault, waiting, later, read, thereLater, intact, -⟩ |
        ⟨storage, waiting, read, thereLater, -⟩
      · rw [startLoad_failed there attached read]
        exact ⟨later, thereLater, .ended (.refused fault (fun able => able.1) intact)⟩
      · rw [startLoad_waits there attached read]
        exact ⟨station, thereLater, .waits (.refl _)⟩

theorem leaves_resumeLoad {number : Nat} {loading : Loading}
    (numbered : session.loadings[number]? = some (some loading)) (here : loading.place = place) :
    Leaves place (session.resumeLoad number)
      (WaitsOrEnds station.enforcer (station.enforcer.Loads
        (session.deployment.isCurrent place loading.reading = true) loading.reading.lines)) := by
  subst here
  by_cases current : session.deployment.isCurrent loading.place loading.reading = true
  · rw [resumeLoad_current numbered current]
    obtain ⟨later, thereLater, loads⟩ := Deployment.leaves_install there loading.reading
    exact ⟨later, thereLater, .ended (loads.of_install current)⟩
  · rcases Deployment.read_cases there loading.storage with
      ⟨fault, waiting, later, read, thereLater, intact, -⟩ |
      ⟨storage, waiting, read, thereLater, -⟩
    · rw [resumeLoad_failed numbered current read]
      exact ⟨later, thereLater, .ended (.refused fault (fun able => current able.1) intact)⟩
    · rw [resumeLoad_again numbered current read]
      exact ⟨station, thereLater, .waits (.refl _)⟩

/-- Loading takes the lines of every key as its rows, and exchanging the model keeps the rows
of the keys that both models have, or neither changes anything but what is counted. -/
theorem loads_whole (reachable : Enforcer.Reachable station.enforcer)
    (defined : station.enforcer.model.Defined) : session.LoadsWhole place station where
  loaded := by
    obtain ⟨later, thereLater, loads⟩ := Deployment.leaves_load there
    exact ⟨later, thereLater, .ended loads⟩
  deferred := by
    obtain ⟨later, thereLater, loads⟩ := Deployment.leaves_loadDeferred there
    exact ⟨later, thereLater, .ended loads⟩
  started := leaves_startLoad there
  resumed _ _ numbered here := leaves_resumeLoad there numbered here
  exchanged := Enforcer.exchangesModel_exchangeModel reachable defined

end

theorem loads_whole_staffed :
    Sample.staffed.LoadsWhole 0 ⟨Enforcer.Sample.staffed, some 0, some 0⟩ :=
  loads_whole rfl Enforcer.mirrored_staffed.reachable Enforcer.mirrored_staffed.defined

end Session

end AccessControl
