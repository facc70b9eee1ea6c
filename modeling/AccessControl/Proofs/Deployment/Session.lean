import AccessControl.Deployment.Session
import AccessControl.Proofs.Deployment.Stations
import AccessControl.Proofs.Enforcer.Linked

namespace AccessControl

/-! What is done with a deployment comes to each of its enforcers as what can happen to an
enforcer. So all enforcers of a session have a property that new ones have and that all
these events keep. -/

namespace Deployment

def Operation.Within (allowed : Enforcer.Adjustment → Prop) : Operation → Prop
  | .adjust adjustment => allowed adjustment
  | _ => True

/-- A property of new enforcers that is kept by all that can happen, if adjustments are
allowed. -/
structure Invariant (P : Enforcer → Prop) (fits : Plan → Prop)
    (allowed : Enforcer.Adjustment → Prop) : Prop where
  built : ∀ {plan : Plan} {enforcer : Enforcer}, fits plan →
    Enforcer.build plan.settings plan.functions plan.metrics? plan.model = .ok enforcer →
    P enforcer
  after : ∀ {enforcer : Enforcer} {event : Enforcer.Event},
    (∀ adjustment, event = .adjust adjustment → allowed adjustment) → P enforcer →
    P (enforcer.after event)

def Everywhere (P : Enforcer → Prop) (deployment : Deployment) : Prop :=
  ∀ station ∈ deployment.stations, P station.enforcer

section

variable {P : Enforcer → Prop} {deployment : Deployment}

theorem Everywhere.of_stations (holds : Everywhere P deployment) {other : Deployment}
    (same : other.stations = deployment.stations) : Everywhere P other := by
  unfold Everywhere
  rw [same]
  exact holds

theorem Everywhere.station (holds : Everywhere P deployment) {place : Nat}
    {station : Station} (there : deployment.stations[place]? = some station) :
    P station.enforcer :=
  holds station (List.mem_of_getElem? there)

theorem Everywhere.changeStation (holds : Everywhere P deployment)
    {change : Station → Station}
    (kept : ∀ station, P station.enforcer → P (change station).enforcer) (place : Nat) :
    Everywhere P (deployment.changeStation place change) := by
  intro station member
  obtain ⟨other, found⟩ := List.mem_iff_getElem?.mp member
  simp only [Deployment.changeStation, List.getElem?_modify, Option.map_eq_map,
    Option.map_eq_some_iff] at found
  obtain ⟨before, there, rfl⟩ := found
  have old := holds.station there
  split
  · exact kept before old
  · exact old

theorem Everywhere.setEnforcer (holds : Everywhere P deployment) {enforcer : Enforcer}
    (new : P enforcer) (place : Nat) : Everywhere P (deployment.setEnforcer place enforcer) :=
  holds.changeStation (fun _ _ => new) place

theorem Everywhere.setStorage (holds : Everywhere P deployment) (place? : Option Nat)
    (storage? : Option Storage) : Everywhere P (deployment.setStorage place? storage?) :=
  holds.of_stations (stations_setStorage deployment place? storage?)

theorem Everywhere.attachStorage (holds : Everywhere P deployment) (place : Nat)
    (storage? : Option Nat) : Everywhere P (deployment.attachStorage place storage?) :=
  @Everywhere.changeStation _ _ holds ({ · with storage? }) (fun _ old => old) place

theorem Everywhere.attachWatcher (holds : Everywhere P deployment) (place : Nat)
    (watcher? : Option Nat) : Everywhere P (deployment.attachWatcher place watcher?) := by
  have attached :=
    @Everywhere.changeStation _ _ holds ({ · with watcher? }) (fun _ old => old) place
  unfold Deployment.attachWatcher
  cases watcher? with
  | none => exact attached
  | some watcher => exact attached

theorem Everywhere.save (holds : Everywhere P deployment) (place : Nat) :
    Everywhere P (deployment.save place).2 := by
  unfold Deployment.save
  split
  · exact holds
  · exact holds.setStorage _ _

theorem Everywhere.saveDeferred (holds : Everywhere P deployment) (place : Nat) :
    Everywhere P (deployment.saveDeferred place).2 := by
  unfold Deployment.saveDeferred
  split
  · exact holds
  · exact holds.setStorage _ _

end

namespace Invariant

variable {P : Enforcer → Prop} {fits : Plan → Prop} {allowed : Enforcer.Adjustment → Prop}
  (invariant : Invariant P fits allowed) {deployment : Deployment}
include invariant

theorem load (holds : Everywhere P deployment) (place : Nat) :
    Everywhere P (deployment.load place).2 := by
  unfold Deployment.load
  split
  · exact holds
  · next station there =>
      have loaded := @invariant.after _ (.load (deployment.storageAt? station.storage?))
        (fun _ different => nomatch different) (holds.station there)
      exact (holds.setStorage _ _).setEnforcer loaded place

theorem read (holds : Everywhere P deployment) (place storagePlace : Nat) :
    Everywhere P (deployment.read place storagePlace).2 := by
  unfold Deployment.read
  split
  · next station storage there _ =>
      have failed := @invariant.after _ (.fail Category.adapter.code)
        (fun _ different => nomatch different) (holds.station there)
      simp only
      split
      · exact holds.setStorage _ _
      · exact (holds.setStorage _ _).setEnforcer failed place
  · exact holds

theorem install (holds : Everywhere P deployment) (place : Nat) (reading : Reading) :
    Everywhere P (deployment.install place reading).2 := by
  unfold Deployment.install
  split
  · exact holds
  · next station there =>
      have installed := @invariant.after _ (.install reading.label reading.lines)
        (fun _ different => nomatch different) (holds.station there)
      exact holds.setEnforcer installed place

theorem loadDeferred (holds : Everywhere P deployment) (place : Nat) :
    Everywhere P (deployment.loadDeferred place []).2 := by
  unfold Deployment.loadDeferred
  split
  · next storagePlace _ =>
      have waited := invariant.read holds place storagePlace
      unfold loadFrom
      split
      · next made =>
          rw [made] at waited
          exact waited
      · next reading waiting made =>
          rw [made] at waited
          exact invariant.install waited place reading
  · exact holds

theorem react (holds : Everywhere P deployment) (watcher : Watcher) :
    Everywhere P (deployment.react watcher).2 := by
  unfold Deployment.react
  split
  · exact holds
  · split
    · exact holds
    · split
      · exact holds
      · next target _ =>
          have loaded := invariant.load holds target
          split <;> next made => rw [made] at loaded; exact loaded

theorem notify (holds : Everywhere P deployment) (place : Nat) :
    Everywhere P (deployment.notify place) := by
  unfold Deployment.notify
  split
  · exact holds
  · next station _ =>
      split
      · exact holds
      · next watcher _ =>
          split
          · exact holds
          · have told : Everywhere P
                (deployment.changeWatcher (station.watcher?.getD 0) .told) := holds
            have reacted := invariant.react told watcher
            simp only
            split
            · exact @Everywhere.changeStation _ _ reacted .countFailure
                (fun station old => @invariant.after _ (.fail "WATCHER_ERROR")
                  (fun _ different => nomatch different) old) place
            · exact reacted

theorem mutate (holds : Everywhere P deployment) (place : Nat)
    (mutation : Mutation Fields) : Everywhere P (deployment.mutate place mutation).2 := by
  unfold Deployment.mutate Deployment.mutateBy
  split
  · exact holds
  · next station there =>
      have mutated := @invariant.after _
        (.mutate (deployment.storageAt? station.storage?) mutation)
        (fun _ different => nomatch different) (holds.station there)
      have changed := (holds.setStorage station.storage? (station.enforcer.mutate
        (deployment.storageAt? station.storage?) mutation).2.2).setEnforcer mutated place
      simp only
      split
      · exact invariant.notify changed place
      · exact changed

theorem decide (holds : Everywhere P deployment) (place : Nat) (context : EnforceContext)
    (values : List Value) (explain : Bool) :
    Everywhere P (deployment.decide place context values explain).2 := by
  unfold Deployment.decide
  split
  · exact holds
  · next station there =>
      have decided := @invariant.after _ (.decide context values explain)
        (fun _ different => nomatch different) (holds.station there)
      exact holds.setEnforcer decided place

theorem trigger (holds : Everywhere P deployment) (watcher : Nat) :
    Everywhere P (deployment.trigger watcher).2 := by
  unfold Deployment.trigger
  split
  · exact invariant.load holds _
  · exact holds

theorem perform (holds : Everywhere P deployment) (place : Nat) {operation : Operation}
    (within : operation.Within allowed) :
    Everywhere P (deployment.perform place [] operation).2 := by
  cases operation with
  | decide context values explain => exact invariant.decide holds place context values explain
  | mutate mutation => exact invariant.mutate holds place mutation
  | ask question =>
      simp only [Deployment.perform]
      split
      · exact holds
      · next station there =>
          exact holds.setEnforcer (@invariant.after _ (.answer question)
            (fun _ different => nomatch different) (holds.station there)) place
  | adjust adjustment =>
      simp only [Deployment.perform]
      split
      · exact holds
      · next station there =>
          refine holds.setEnforcer (@invariant.after _ (.adjust adjustment) ?_
            (holds.station there)) place
          intro other same
          cases same
          exact within
  | load => exact invariant.load holds place
  | save => exact holds.save place
  | loadDeferred => exact invariant.loadDeferred holds place
  | saveDeferred => exact holds.saveDeferred place
  | attachStorage storage? => exact holds.attachStorage place storage?
  | attachWatcher watcher? => exact holds.attachWatcher place watcher?

theorem loadAtOnce (holds : Everywhere P deployment) (place : Nat)
    (storage? : Option Nat) : Everywhere P (deployment.loadAtOnce place storage?).2 := by
  unfold Deployment.loadAtOnce
  split
  · split
    · exact invariant.load holds place
    · exact holds
  · exact holds

theorem settle (holds : Everywhere P deployment) (plan : Plan) (place : Nat) :
    Everywhere P (deployment.settle plan place).2 := by
  have loaded := invariant.loadAtOnce holds place plan.storage?
  unfold Deployment.settle
  split
  · next made =>
      rw [made] at loaded
      exact loaded
  · next made =>
      rw [made] at loaded
      simp only
      split
      · exact Everywhere.attachWatcher loaded place _
      · exact loaded

theorem build (holds : Everywhere P deployment) {plan : Plan} (fit : fits plan) :
    Everywhere P (deployment.build plan).2 := by
  unfold Deployment.build
  split
  · exact holds
  · next enforcer built =>
      refine invariant.settle ?_ plan _
      intro station member
      rcases List.mem_append.mp member with old | new
      · exact holds station old
      · rw [List.mem_singleton.mp new]
        exact invariant.built fit built

end Invariant

end Deployment

namespace Session

def Step.Within (fits : Deployment.Plan → Prop) (allowed : Enforcer.Adjustment → Prop) :
    Step → Prop
  | .build _ plan => fits plan
  | .perform _ operation => operation.Within allowed
  | _ => True

section

variable {P : Enforcer → Prop} {fits : Deployment.Plan → Prop}
  {allowed : Enforcer.Adjustment → Prop}
  (invariant : Deployment.Invariant P fits allowed) {session : Session}
  (holds : session.deployment.Everywhere P)
include invariant holds

theorem everywhere_startLoad (place : Nat) :
    (session.startLoad place).2.deployment.Everywhere P := by
  unfold startLoad
  split
  · exact holds
  · next storage _ =>
      have waited := invariant.read holds place storage
      split <;> next read => rw [read] at waited; exact waited

theorem everywhere_resumeLoad (number : Nat) :
    (session.resumeLoad number).2.deployment.Everywhere P := by
  unfold resumeLoad
  split
  · exact holds
  · next loading _ =>
      split
      · exact invariant.install holds loading.place loading.reading
      · have waited := invariant.read holds loading.place loading.storage
        split <;> next read => rw [read] at waited; exact waited

theorem everywhere_build (name : String) {plan : Deployment.Plan} (fit : fits plan) :
    (session.build name plan).2.deployment.Everywhere P := by
  have built := invariant.build holds fit
  unfold build
  split <;> next made => rw [made] at built; exact built

theorem everywhere_step {step : Step} (within : step.Within fits allowed) :
    (session.step step).2.deployment.Everywhere P := by
  cases step with
  | addStorage name storage => exact holds
  | exchangeStorage place storage => exact holds.setStorage (some place) (some storage)
  | addWatcher name watcher => exact holds
  | build name plan => exact everywhere_build invariant holds name within
  | perform place operation => exact invariant.perform holds place within
  | startLoad place => exact everywhere_startLoad invariant holds place
  | resumeLoad number => exact everywhere_resumeLoad invariant holds number
  | trigger watcher => exact invariant.trigger holds watcher

theorem everywhere_run {steps : List Step} (within : ∀ step ∈ steps, step.Within fits allowed) :
    (session.run steps).2.deployment.Everywhere P := by
  induction steps generalizing session with
  | nil => exact holds
  | cons step steps ih =>
      refine ih ?_ fun later member => within later (List.mem_cons_of_mem step member)
      exact everywhere_step invariant holds (within step List.mem_cons_self)

end

theorem everywhere_start (P : Enforcer → Prop) : start.deployment.Everywhere P := by
  intro station member
  cases member

def Step.Legitimate : Step → Prop :=
  Step.Within (fun plan => plan.model.Read) Enforcer.Adjustment.Legitimate

theorem invariant_reachable :
    Deployment.Invariant Enforcer.Reachable (fun plan => plan.model.Read)
      Enforcer.Adjustment.Legitimate where
  built := fun read built => .built read built
  after := by
    intro enforcer event legitimate reachable
    refine reachable.after event ?_
    cases event with
    | adjust adjustment => exact legitimate adjustment rfl
    | _ => trivial

theorem reachable_run {steps : List Step} (legitimate : ∀ step ∈ steps, step.Legitimate) :
    (start.run steps).2.deployment.Everywhere Enforcer.Reachable :=
  everywhere_run invariant_reachable (everywhere_start _) legitimate

/-- Enforcers are built to build role links, and never told to stop it. -/
def Step.Linking : Step → Prop :=
  Step.Within (fun plan => plan.model.Read ∧ plan.settings.buildRoleLinks = true)
    fun adjustment => adjustment.Legitimate ∧ adjustment ≠ .enableBuildRoleLinks false

theorem invariant_linking :
    Deployment.Invariant Enforcer.Linking
      (fun plan => plan.model.Read ∧ plan.settings.buildRoleLinks = true)
      fun adjustment => adjustment.Legitimate ∧ adjustment ≠ .enableBuildRoleLinks false where
  built := by
    intro plan enforcer fits built
    refine .built fits.1 built ?_
    obtain ⟨matchers, -, whole⟩ := Answer.bind_eq_ok.mp built
    cases whole
    exact fits.2
  after := by
    intro enforcer event allowed linking
    have switch := linking.linked.switch
    cases event with
    | adjust adjustment =>
        obtain ⟨legitimate, notOff⟩ := allowed adjustment rfl
        exact linking.after (.adjust adjustment) legitimate
          (Enforcer.buildRoleLinks_adjust notOff switch)
    | _ =>
        refine linking.after _ trivial ?_
        rw [enforcer.switches_after (by simp)]
        exact switch

theorem linking_run {steps : List Step} (linking : ∀ step ∈ steps, step.Linking) :
    (start.run steps).2.deployment.Everywhere Enforcer.Linking :=
  everywhere_run invariant_linking (everywhere_start _) linking

end Session

end AccessControl
