import AccessControl.Enforcer.Decision
import AccessControl.Enforcer.Lifecycle

namespace AccessControl

/-- Counts the changes it is told of. It may fail then, or make an enforcer load
its rows again. -/
structure Watcher where
  updates : Nat
  fails : Bool
  reloads? : Option String
  callback? : Option Nat
deriving DecidableEq, Repr

def Watcher.start (fails : Bool) (reloads? : Option String) : Watcher :=
  { updates := 0, fails, reloads?, callback? := none }

def Watcher.told (watcher : Watcher) : Watcher :=
  { watcher with updates := watcher.updates + 1 }

structure Station where
  enforcer : Enforcer
  storage? : Option Nat
  watcher? : Option Nat

def Station.countFailure (station : Station) : Station :=
  { station with enforcer := station.enforcer.record (·.recordError "WATCHER_ERROR") }

structure Call where
  label : String
  arguments : List Value
  subject? : Option String
deriving Repr

/-- Things are numbered as they come; a name stands for the latest thing that it
was given to. -/
structure Deployment where
  storages : List Storage
  storageNames : Entries String Nat
  watchers : List Watcher
  watcherNames : Entries String Nat
  stations : List Station
  stationNames : Entries String Nat
  calls : List Call

namespace Deployment

def empty : Deployment :=
  { storages := []
    storageNames := []
    watchers := []
    watcherNames := []
    stations := []
    stationNames := []
    calls := [] }

def addStorage (deployment : Deployment) (name : String) (storage : Storage) :
    Deployment :=
  { deployment with
    storages := deployment.storages ++ [storage]
    storageNames :=
      Entries.put name deployment.storages.length deployment.storageNames }

def storageAt? (deployment : Deployment) (place? : Option Nat) : Option Storage :=
  place?.bind fun place => deployment.storages[place]?

def setStorage (deployment : Deployment) (place? : Option Nat)
    (storage? : Option Storage) : Deployment :=
  match place?, storage? with
  | some place, some storage =>
      { deployment with storages := deployment.storages.set place storage }
  | _, _ => deployment

def addWatcher (deployment : Deployment) (name : String) (watcher : Watcher) :
    Deployment :=
  { deployment with
    watchers := deployment.watchers ++ [watcher]
    watcherNames :=
      Entries.put name deployment.watchers.length deployment.watcherNames }

def changeWatcher (deployment : Deployment) (place : Nat)
    (change : Watcher → Watcher) : Deployment :=
  { deployment with watchers := deployment.watchers.modify place change }

def station? (deployment : Deployment) (name : String) : Option (Nat × Station) := do
  let place ← deployment.stationNames.lookup name
  return (place, ← deployment.stations[place]?)

def changeStation (deployment : Deployment) (place : Nat)
    (change : Station → Station) : Deployment :=
  { deployment with stations := deployment.stations.modify place change }

def setEnforcer (deployment : Deployment) (place : Nat) (enforcer : Enforcer) :
    Deployment :=
  deployment.changeStation place fun station => { station with enforcer }

def attachStorage (deployment : Deployment) (place : Nat)
    (storage? : Option Nat) : Deployment :=
  deployment.changeStation place fun station => { station with storage? }

/-- Attaches a watcher, which will call the enforcer back, or none. -/
def attachWatcher (deployment : Deployment) (place : Nat)
    (watcher? : Option Nat) : Deployment :=
  let attached :=
    deployment.changeStation place fun station => { station with watcher? }
  match watcher? with
  | some watcher =>
      attached.changeWatcher watcher ({ · with callback? := some place })
  | none => attached

def load (deployment : Deployment) (place : Nat) : Answer Unit × Deployment :=
  match deployment.stations[place]? with
  | none => (.ok (), deployment)
  | some station =>
      let (answer, enforcer, storage?) :=
        station.enforcer.load (deployment.storageAt? station.storage?)
      (answer,
        (deployment.setStorage station.storage? storage?).setEnforcer place enforcer)

def save (deployment : Deployment) (place : Nat) : Answer Unit × Deployment :=
  match deployment.stations[place]? with
  | none => (.ok (), deployment)
  | some station =>
      let (answer, storage?) :=
        station.enforcer.save (deployment.storageAt? station.storage?)
      (answer, deployment.setStorage station.storage? storage?)

def saveDeferred (deployment : Deployment) (place : Nat) :
    Answer Unit × Deployment :=
  match deployment.stations[place]? with
  | none => (.ok (), deployment)
  | some station =>
      let (answer, storage?) :=
        station.enforcer.saveDeferred (deployment.storageAt? station.storage?)
      (answer, deployment.setStorage station.storage? storage?)

/-- Lines that were read, and the version of the enforcer at that time. -/
structure Reading where
  version : Nat
  label : String
  lines : Lines

def read (deployment : Deployment) (place storagePlace : Nat) :
    Answer Reading × Deployment :=
  match deployment.stations[place]?, deployment.storages[storagePlace]? with
  | some station, some storage =>
      let (result, asked) := storage.load
      let waiting := deployment.setStorage (some storagePlace) (some asked)
      match result with
      | .ok lines =>
          (.ok { version := station.enforcer.version, label := asked.label, lines },
            waiting)
      | .error error =>
          (.error (.storage
            ⟨asked.label, .failed error.message Hook.load.name⟩),
            waiting.setEnforcer place
              (station.enforcer.record (·.recordError Category.adapter.code)))
  | _, _ =>
      (.error (.storage ⟨Enforcer.missingDeferredLabel, .missing⟩), deployment)

def install (deployment : Deployment) (place : Nat) (reading : Reading) :
    Answer Unit × Deployment :=
  match deployment.stations[place]? with
  | none => (.ok (), deployment)
  | some station =>
      let (answer, enforcer) :=
        station.enforcer.install reading.label reading.lines
      (answer, deployment.setEnforcer place enforcer)

/-- Whether the enforcer is as it was when the lines were read. -/
def isCurrent (deployment : Deployment) (place : Nat) (reading : Reading) : Bool :=
  (deployment.stations[place]?).any fun station =>
    station.enforcer.version == reading.version

/-- What happens elsewhere while a storage is waited for. -/
abbrev Interlude := Deployment → Deployment

/-- The lines are read again if the enforcer has changed while they were waited
for. The first interlude happens during the first read, and so on; reads after
the last interlude are not interrupted. -/
def loadFrom (place storagePlace : Nat) (deployment : Deployment) :
    List Interlude → Answer Unit × Deployment
  | [] =>
      match deployment.read place storagePlace with
      | (.error failure, waiting) => (.error failure, waiting)
      | (.ok reading, waiting) => waiting.install place reading
  | interlude :: later =>
      match deployment.read place storagePlace with
      | (.error failure, waiting) => (.error failure, waiting)
      | (.ok reading, waiting) =>
          let returned := interlude waiting
          if returned.isCurrent place reading then returned.install place reading
          else loadFrom place storagePlace returned later

def loadDeferred (deployment : Deployment) (place : Nat)
    (interludes : List Interlude) : Answer Unit × Deployment :=
  match (deployment.stations[place]?).bind (·.storage?) with
  | some storagePlace => loadFrom place storagePlace deployment interludes
  | none =>
      (.error (.storage ⟨Enforcer.missingDeferredLabel, .missing⟩), deployment)

structure Plan where
  settings : Settings
  functions : Entries String CustomFunction
  metrics? : Option Metrics
  model : Model
  storage? : Option Nat
  watcher? : Option Nat

def loadAtOnce (deployment : Deployment) (place : Nat) (storage? : Option Nat) :
    Answer Unit × Deployment :=
  match deployment.storageAt? storage? with
  | some storage =>
      if storage.kind.immediate then deployment.load place else (.ok (), deployment)
  | none => (.ok (), deployment)

def settle (deployment : Deployment) (plan : Plan) (place : Nat) :
    Answer Nat × Deployment :=
  match deployment.loadAtOnce place plan.storage? with
  | (.error failure, loaded) => (.error failure, loaded)
  | (.ok (), loaded) =>
      (.ok place,
        match plan.watcher? with
        | some watcher => loaded.attachWatcher place (some watcher)
        | none => loaded)

/-- Builds an enforcer. Its number comes with the answer. -/
def build (deployment : Deployment) (plan : Plan) : Answer Nat × Deployment :=
  match Enforcer.build plan.settings plan.functions plan.metrics? plan.model with
  | .error failure => (.error failure, deployment)
  | .ok enforcer =>
      let built := { deployment with
        stations := deployment.stations ++ [Station.mk enforcer plan.storage? none] }
      built.settle plan deployment.stations.length

def register (deployment : Deployment) (name : String) (place : Nat) :
    Deployment :=
  { deployment with
    stationNames := Entries.put name place deployment.stationNames }

def react (deployment : Deployment) (watcher : Watcher) : Bool × Deployment :=
  if watcher.fails then (true, deployment)
  else
    match watcher.reloads? with
    | none => (false, deployment)
    | some name =>
        match deployment.stationNames.lookup name with
        | none => (true, deployment)
        | some target =>
            match deployment.load target with
            | (.ok (), loaded) => (false, loaded)
            | (.error _, loaded) => (true, loaded)

/-- Makes the watcher of an enforcer tell of a change. A watcher that fails is
only counted as an error. -/
def notify (deployment : Deployment) (place : Nat) : Deployment :=
  match deployment.stations[place]? with
  | none => deployment
  | some station =>
      match station.watcher?.bind fun watcher => deployment.watchers[watcher]? with
      | none => deployment
      | some watcher =>
          if !station.enforcer.switches.notifyWatcher then deployment
          else
            let told := deployment.changeWatcher (station.watcher?.getD 0) .told
            let (failed, told) := told.react watcher
            if failed then told.changeStation place .countFailure else told

/-- Makes a change of an enforcer, with its storage following in a given way, and
tells its watcher if the change was made. -/
def mutateBy (follow : Storage → Mutation Row → Except StorageFault Unit × Storage)
    (deployment : Deployment) (place : Nat) (mutation : Mutation Fields) :
    Answer Bool × Deployment :=
  match deployment.stations[place]? with
  | none => (.ok false, deployment)
  | some station =>
      let (answer, enforcer, storage?) :=
        station.enforcer.mutateBy follow (deployment.storageAt? station.storage?)
          mutation
      let changed :=
        (deployment.setStorage station.storage? storage?).setEnforcer place enforcer
      match answer with
      | .ok true => (answer, changed.notify place)
      | _ => (answer, changed)

def mutate : Deployment → Nat → Mutation Fields → Answer Bool × Deployment :=
  mutateBy Enforcer.persist

def subject? : List Value → Option String
  | .text subject :: _ => if subject.isEmpty then none else some subject
  | _ => none

/-- Decides on a request, and records the calls of functions that have a
label. -/
def decide (deployment : Deployment) (place : Nat) (context : EnforceContext)
    (values : List Value) (explain : Bool) : Answer Decision × Deployment :=
  match deployment.stations[place]? with
  | none => (.error (.enforce (.unknownContext context.key)), deployment)
  | some station =>
      let (answer, enforcer, invocations) :=
        station.enforcer.decide context values explain
      let calls := invocations.filterMap fun invocation =>
        (station.enforcer.callLabel? invocation.function).map fun label =>
          { label, arguments := invocation.arguments, subject? := subject? values }
      let decided := deployment.setEnforcer place enforcer
      (answer, { decided with calls := decided.calls ++ calls })

def trigger (deployment : Deployment) (watcher : Nat) :
    Answer Unit × Deployment :=
  match (deployment.watchers[watcher]?).bind (·.callback?) with
  | some place => deployment.load place
  | none => (.ok (), deployment)

end Deployment

end AccessControl
