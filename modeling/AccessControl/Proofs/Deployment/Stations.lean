import AccessControl.Deployment.Operation
import AccessControl.Proofs.Enforcer.Reachable

namespace AccessControl.Deployment

variable (deployment : Deployment)

section

variable (place? : Option Nat) (storage? : Option Storage)

@[simp] theorem stations_setStorage :
    (deployment.setStorage place? storage?).stations = deployment.stations := by
  unfold setStorage
  split <;> rfl

@[simp] theorem watchers_setStorage :
    (deployment.setStorage place? storage?).watchers = deployment.watchers := by
  unfold setStorage
  split <;> rfl

@[simp] theorem stationNames_setStorage :
    (deployment.setStorage place? storage?).stationNames = deployment.stationNames := by
  unfold setStorage
  split <;> rfl

end

theorem station_setEnforcer_self {place : Nat} {station : Station}
    (there : deployment.stations[place]? = some station) (enforcer : Enforcer) :
    (deployment.setEnforcer place enforcer).stations[place]? =
      some { station with enforcer } := by
  simp [setEnforcer, changeStation, there]

theorem station_changeStation_of_ne {place other : Nat} (different : other ≠ place)
    (change : Station → Station) :
    (deployment.changeStation place change).stations[other]? =
      deployment.stations[other]? :=
  List.getElem?_modify_ne change deployment.stations different.symm

@[simp] theorem watchers_load (place : Nat) :
    (deployment.load place).2.watchers = deployment.watchers := by
  unfold load
  split
  · rfl
  · exact watchers_setStorage deployment _ _

theorem station_load_of_ne {place other : Nat} (different : other ≠ place) :
    (deployment.load place).2.stations[other]? = deployment.stations[other]? := by
  unfold load
  split
  · rfl
  · simp only [setEnforcer]
    rw [station_changeStation_of_ne _ different, stations_setStorage]

end AccessControl.Deployment
