import AccessControl.Enforcer.Change

namespace AccessControl.Enforcer

def exchange (enforcer : Enforcer) (table : PolicyTable)
    (graphs : Entries String RoleGraph) : Enforcer :=
  { enforcer with table, graphs }.published

def recordLoad (table : PolicyTable) (metrics : Metrics) : Metrics :=
  table.keys.foldl (fun metrics key => metrics.setPolicyRows key (table.count key))
    (metrics.recordMutation "load_policy")

def install (enforcer : Enforcer) (label : String) (lines : Lines) :
    Answer Unit × Enforcer :=
  match enforcer.stage enforcer.model lines with
  | .error fault => (.error (.storage ⟨label, .unfit (.row fault)⟩), enforcer)
  | .ok (table, graphs) =>
      (.ok (), (enforcer.exchange table graphs).record (recordLoad table))

def missingLabel : String := "NoneType"

/-- The label of a missing storage that would have been waited for. -/
def missingDeferredLabel : String := "None"

def refused (enforcer : Enforcer) (label reason operation : String) :
    Answer Unit × Enforcer :=
  (.error (.storage ⟨label, .failed reason operation⟩),
    enforcer.record (·.recordError Category.adapter.code))

def load (enforcer : Enforcer) (storage? : Option Storage) :
    Answer Unit × Enforcer × Option Storage :=
  let operation := Hook.load.name
  match storage? with
  | none =>
      (.error (.storage ⟨missingLabel, .notSynchronous operation⟩), enforcer, none)
  | some storage =>
      if !storage.kind.immediate then
        (.error (.storage ⟨storage.label, .notSynchronous operation⟩), enforcer,
          storage?)
      else
        match storage.load with
        | (.error error, storage) =>
            let (answer, enforcer) :=
              enforcer.refused storage.label error.message operation
            (answer, enforcer, some storage)
        | (.ok lines, storage) =>
            let (answer, enforcer) := enforcer.install storage.label lines
            (answer, enforcer, some storage)

def saveTo (enforcer : Enforcer) (storage : Storage) :
    Answer Unit × Option Storage :=
  match storage.save enforcer.lines with
  | .ok storage => (.ok (), some storage)
  | .error error =>
      (.error (.storage ⟨storage.label, .failed error.message Hook.save.name⟩),
        some storage)

def save (enforcer : Enforcer) (storage? : Option Storage) :
    Answer Unit × Option Storage :=
  match storage? with
  | none =>
      (.error (.storage ⟨missingLabel, .notSynchronous Hook.save.name⟩), none)
  | some storage =>
      if storage.kind.immediate then enforcer.saveTo storage
      else
        (.error (.storage ⟨storage.label, .notSynchronous Hook.save.name⟩),
          storage?)

def saveDeferred (enforcer : Enforcer) (storage? : Option Storage) :
    Answer Unit × Option Storage :=
  match storage? with
  | none => (.error (.storage ⟨missingDeferredLabel, .missing⟩), none)
  | some storage => enforcer.saveTo storage

/-- Exchanges the model. Rows of keys that both models have are kept, and must
fit the new model. -/
def loadModel (enforcer : Enforcer) (model : Model) : Answer Enforcer := do
  let matchers ← compileMatchers enforcer.functions model
  let kept := enforcer.model.rowKeys.filter fun key => (model.arity? key).isSome
  match enforcer.stage model (linesUnder enforcer.table kept) with
  | .error fault => throw (.model (.row fault))
  | .ok (table, graphs) =>
      return { enforcer with model, matchers }.exchange table graphs

/-- Forgets all rows and links, but not the storage's. -/
def clear (enforcer : Enforcer) : Enforcer :=
  enforcer.exchange enforcer.table.clear
    (enforcer.graphs.map fun entry => (entry.1, entry.2.clear))

def rebuildLinks (enforcer : Enforcer) : Enforcer :=
  { enforcer with
    graphs := linkAll enforcer.model enforcer.table
      (newGraphs enforcer.settings enforcer.matchings enforcer.model)
    cache := enforcer.cache.invalidate }

def withMatching (enforcer : Enforcer) (key : String)
    (change : RoleMatching → RoleMatching) : Except EnforceFault Enforcer :=
  match enforcer.graphs.lookup key with
  | none => .error (.unknownRole key)
  | some graph =>
      let matching := change ((enforcer.matchings.lookup key).getD .exact)
      .ok { enforcer with
        matchings := Entries.put key matching enforcer.matchings
        graphs := Entries.put key
          { graph with names? := matching.names?, domains? := matching.domains? }
          enforcer.graphs
        cache := enforcer.cache.invalidate }

/-- Names of a role graph are taken as patterns from now on, or as they are. -/
def setNameMatching (enforcer : Enforcer) (key : String)
    (names? : Option NameMatching) : Except EnforceFault Enforcer :=
  enforcer.withMatching key fun matching => { matching with names? }

def setDomainMatching (enforcer : Enforcer) (key : String)
    (domains? : Option NameMatching) : Except EnforceFault Enforcer :=
  enforcer.withMatching key fun matching => { matching with domains? }

def withSwitches (enforcer : Enforcer) (change : Switches → Switches) : Enforcer :=
  { enforcer with switches := change enforcer.switches }

def enable (enforcer : Enforcer) (enabled : Bool) : Enforcer :=
  enforcer.withSwitches ({ · with enabled })

/-- Decisions made before are forgotten in any case. -/
def enableCache (enforcer : Enforcer) (cacheEnabled : Bool) : Enforcer :=
  { enforcer.withSwitches ({ · with cacheEnabled }) with
    cache := enforcer.cache.invalidate }

def enableAutoSave (enforcer : Enforcer) (autoSave : Bool) : Enforcer :=
  enforcer.withSwitches ({ · with autoSave })

def enableNotifyWatcher (enforcer : Enforcer) (notifyWatcher : Bool) : Enforcer :=
  enforcer.withSwitches ({ · with notifyWatcher })

def enableBuildRoleLinks (enforcer : Enforcer) (buildRoleLinks : Bool) :
    Enforcer :=
  enforcer.withSwitches ({ · with buildRoleLinks })

end AccessControl.Enforcer
