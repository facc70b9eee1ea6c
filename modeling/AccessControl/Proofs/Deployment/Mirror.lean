import AccessControl.Deployment.Session
import AccessControl.Proofs.Deployment.Stations
import AccessControl.Proofs.Enforcer.Mirror

namespace AccessControl

namespace Deployment

/-- The enforcer at a place saves every change to a storage in memory that holds its
rows. -/
def Mirrored (deployment : Deployment) (place : Nat) : Prop :=
  ∃ station number storage, deployment.stations[place]? = some station ∧
    station.storage? = some number ∧ deployment.storages[number]? = some storage ∧
    station.enforcer.Mirrored storage

def ReloadsSame (deployment : Deployment) (place : Nat) : Prop :=
  ∃ station reloaded, deployment.stations[place]? = some station ∧
    (deployment.load place).1 = .ok () ∧
    (deployment.load place).2.stations[place]? = some reloaded ∧
    ∀ key, reloaded.enforcer.table.rows key = station.enforcer.table.rows key

/-- Requests, questions, changes of the rows except removals of several at once, loading
and saving. -/
def Operation.Plain : Operation → Prop
  | .mutate mutation => mutation.Plain
  | .decide .. | .ask _ | .load | .save => True
  | _ => False

variable {deployment : Deployment} {place : Nat}

theorem mirrored_of_station {later : Deployment} {station : Station} {number : Nat}
    {storage : Storage} (there : later.stations[place]? = some station)
    (attached : station.storage? = some number)
    (stored : later.storages[number]? = some storage)
    (mirrored : station.enforcer.Mirrored storage) : later.Mirrored place :=
  ⟨station, number, storage, there, attached, stored, mirrored⟩

theorem Mirrored.of_stations (mirrored : deployment.Mirrored place) {later : Deployment}
    (stations : later.stations[place]? = deployment.stations[place]?)
    (storages : later.storages = deployment.storages) : later.Mirrored place := by
  unfold Mirrored
  rw [stations, storages]
  exact mirrored

theorem mirrored_exchange {station : Station} {number : Nat} {storage later : Storage}
    {enforcer : Enforcer} (there : deployment.stations[place]? = some station)
    (attached : station.storage? = some number)
    (stored : deployment.storages[number]? = some storage)
    (mirrored : enforcer.Mirrored later) :
    ((deployment.setStorage station.storage? (some later)).setEnforcer place
      enforcer).Mirrored place := by
  rw [attached]
  have inside : number < deployment.storages.length := (List.getElem?_eq_some_iff.mp stored).1
  refine mirrored_of_station (station_setEnforcer_self _ there enforcer) attached ?_ mirrored
  exact List.getElem?_set_self inside

theorem storage_load (deployment : Deployment) (target : Nat) {number : Nat}
    {storage : Storage} (stored : deployment.storages[number]? = some storage) :
    ∃ later, (deployment.load target).2.storages[number]? = some later ∧
      storage.SameLines later := by
  unfold load
  split
  · exact ⟨storage, stored, rfl, rfl⟩
  · next station there =>
      change ∃ later, (deployment.setStorage station.storage? (station.enforcer.load
        (deployment.storageAt? station.storage?)).2.2).storages[number]? = some later ∧ _
      cases station.storage? with
      | none => exact ⟨storage, stored, rfl, rfl⟩
      | some other =>
          rw [storageAt?, Option.bind_some]
          cases found : deployment.storages[other]? with
          | none => exact ⟨storage, stored, rfl, rfl⟩
          | some old =>
              obtain ⟨later, left, same⟩ := station.enforcer.load_storage old
              rw [left]
              change ∃ later, (deployment.storages.set other _)[number]? = some later ∧ _
              rw [List.getElem?_set]
              by_cases here : other = number
              · subst here
                cases stored.symm.trans found
                have inside := (List.getElem?_eq_some_iff.mp stored).1
                exact ⟨later, by simp [inside], same⟩
              · exact ⟨storage, by simp [here, stored], rfl, rfl⟩

theorem Mirrored.load_self (mirrored : deployment.Mirrored place) :
    (deployment.load place).2.Mirrored place ∧ deployment.ReloadsSame place := by
  obtain ⟨station, number, storage, there, attached, stored, mirrored⟩ := mirrored
  obtain ⟨reloaded, later, loaded, rows, mirroredLater⟩ := mirrored.load
  have left : deployment.load place =
      (.ok (), (deployment.setStorage station.storage? (some later)).setEnforcer place
        reloaded) := by
    simp only [load, there, attached, storageAt?, Option.bind_some, stored, loaded]
  have thereLater : (deployment.load place).2.stations[place]? =
      some { station with enforcer := reloaded } := by
    rw [left]
    refine station_setEnforcer_self _ ?_ reloaded
    rw [stations_setStorage]
    exact there
  refine ⟨?_, station, _, there, congrArg Prod.fst left, thereLater, rows⟩
  rw [left]
  exact mirrored_exchange there attached stored mirroredLater

theorem Mirrored.load (mirrored : deployment.Mirrored place) (target : Nat) :
    (deployment.load target).2.Mirrored place := by
  by_cases here : place = target
  · rw [← here]
    exact mirrored.load_self.1
  · obtain ⟨station, number, storage, there, attached, stored, mirrored⟩ := mirrored
    obtain ⟨later, storedLater, same⟩ := deployment.storage_load target stored
    exact mirrored_of_station ((deployment.station_load_of_ne here).trans there) attached
      storedLater (mirrored.of_sameLines same)

theorem Mirrored.react (mirrored : deployment.Mirrored place) (watcher : Watcher) :
    (deployment.react watcher).2.Mirrored place := by
  unfold Deployment.react
  split
  · exact mirrored
  · split
    · exact mirrored
    · split
      · exact mirrored
      · next target _ =>
          have loaded := mirrored.load target
          split <;> next made => rw [made] at loaded; exact loaded

theorem Mirrored.countFailure (mirrored : deployment.Mirrored place) (other : Nat) :
    (deployment.changeStation other .countFailure).Mirrored place := by
  by_cases here : place = other
  · subst here
    obtain ⟨station, number, storage, there, attached, stored, mirrored⟩ := mirrored
    have counted : (deployment.changeStation place .countFailure).stations[place]? =
        some station.countFailure := by
      simp [changeStation, there]
    exact mirrored_of_station counted attached stored (mirrored.after_fail "WATCHER_ERROR")
  · exact mirrored.of_stations (deployment.station_changeStation_of_ne here _) rfl

theorem Mirrored.notify (mirrored : deployment.Mirrored place) (other : Nat) :
    (deployment.notify other).Mirrored place := by
  unfold Deployment.notify
  split
  · exact mirrored
  · next station _ =>
      split
      · exact mirrored
      · next watcher _ =>
          split
          · exact mirrored
          · have told : (deployment.changeWatcher (station.watcher?.getD 0) .told).Mirrored
                place := mirrored
            have reacted := told.react watcher
            simp only
            split
            · exact reacted.countFailure other
            · exact reacted

theorem Mirrored.mutate (mirrored : deployment.Mirrored place) {mutation : Mutation Fields}
    (plain : mutation.Plain) : (deployment.mutate place mutation).2.Mirrored place := by
  obtain ⟨station, number, storage, there, attached, stored, mirrored⟩ := mirrored
  obtain ⟨later, followed, changed⟩ := mirrored.mutate plain
  have exchanged := mirrored_exchange there attached stored changed
  have asked : deployment.storageAt? station.storage? = some storage := by
    rw [attached]
    exact stored
  rw [← followed] at exchanged
  unfold Deployment.mutate Deployment.mutateBy
  rw [there]
  simp only [asked]
  split
  · exact exchanged.notify place
  · exact exchanged

theorem Mirrored.save (mirrored : deployment.Mirrored place) :
    (deployment.save place).2.Mirrored place := by
  obtain ⟨station, number, storage, there, attached, stored, mirrored⟩ := mirrored
  obtain ⟨later, saved, mirroredLater⟩ := mirrored.save
  have inside := (List.getElem?_eq_some_iff.mp stored).1
  have left : (deployment.save place).2 = deployment.setStorage (some number) (some later) := by
    simp only [Deployment.save, there, attached, storageAt?, Option.bind_some, stored, saved]
  rw [left]
  exact mirrored_of_station there attached (List.getElem?_set_self inside) mirroredLater

theorem Mirrored.setEnforcer (mirrored : deployment.Mirrored place) {station : Station}
    (there : deployment.stations[place]? = some station) {enforcer : Enforcer}
    (kept : ∀ storage, station.enforcer.Mirrored storage → enforcer.Mirrored storage) :
    (deployment.setEnforcer place enforcer).Mirrored place := by
  obtain ⟨other, number, storage, thereOther, attached, stored, mirrored⟩ := mirrored
  cases there.symm.trans thereOther
  exact mirrored_of_station (station_setEnforcer_self _ there enforcer) attached stored
    (kept storage mirrored)

theorem Mirrored.perform (mirrored : deployment.Mirrored place) {operation : Operation}
    (plain : operation.Plain) : (deployment.perform place [] operation).2.Mirrored place := by
  cases operation with
  | mutate mutation => exact mirrored.mutate plain
  | load => exact mirrored.load place
  | save => exact mirrored.save
  | decide context values explain =>
      simp only [Deployment.perform, Deployment.decide]
      split
      · exact mirrored
      · next station there =>
          have decided := mirrored.setEnforcer there fun storage kept =>
            kept.after_decide context values explain
          exact decided
  | ask question =>
      simp only [Deployment.perform]
      split
      · exact mirrored
      · next station there =>
          exact mirrored.setEnforcer there fun storage kept => kept.after_answer question
  | _ => exact plain.elim

end Deployment

namespace Session

variable {session : Session} {place : Nat}

theorem mirrored_run (mirrored : session.deployment.Mirrored place)
    {operations : List Deployment.Operation}
    (plain : ∀ operation ∈ operations, operation.Plain) :
    (session.run (operations.map (.perform place))).2.deployment.Mirrored place := by
  induction operations generalizing session with
  | nil => exact mirrored
  | cons operation operations ih =>
      refine ih ?_ fun later member => plain later (List.mem_cons_of_mem operation member)
      exact mirrored.perform (plain operation List.mem_cons_self)

/-- As long as an enforcer saves every change to a storage in memory that holds its rows,
the storage goes on to hold them, and loading them again changes none of them. -/
theorem storage_mirrors_rows (mirrored : session.deployment.Mirrored place)
    {operations : List Deployment.Operation}
    (plain : ∀ operation ∈ operations, operation.Plain) :
    (session.run (operations.map (.perform place))).2.deployment.Mirrored place ∧
      (session.run (operations.map (.perform place))).2.deployment.ReloadsSame place := by
  have later := mirrored_run mirrored plain
  exact ⟨later, later.load_self.2⟩

/-- A session in which a storage holds the rows of an enforcer, and a watcher makes the
enforcer load them again after every change. -/
def Sample.staffed : Session :=
  ⟨{ Deployment.empty with
      storages := [Enforcer.Sample.storage]
      watchers := [.start false (some "guard")]
      stations := [⟨Enforcer.Sample.staffed, some 0, some 0⟩]
      stationNames := [("guard", 0)] }, []⟩

theorem storage_mirrors_rows_staffed :
    (Sample.staffed.run (([.mutate (.add "g" [.text "ann", .text "staff"]),
      .mutate (.removeFiltered "g" ⟨0, ["bob"]⟩), .save, .load] :
        List Deployment.Operation).map (.perform 0))).2.deployment.ReloadsSame 0 := by
  refine (@storage_mirrors_rows Sample.staffed 0
    ⟨_, _, _, rfl, rfl, rfl, Enforcer.mirrored_staffed⟩ _ ?_).2
  intro operation member
  simp only [List.mem_cons, List.not_mem_nil, or_false] at member
  rcases member with rfl | rfl | rfl | rfl <;> trivial

end Session

end AccessControl
