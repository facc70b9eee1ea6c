import AccessControl.Proofs.Deployment.Mirror
import AccessControl.Proofs.Enforcer.Agreement

namespace AccessControl

def Watcher.target? (names : Entries String Nat) (watcher : Watcher) : Option Nat :=
  if watcher.fails then none else watcher.reloads?.bind fun name => names.lookup name

namespace Deployment

def partner? (deployment : Deployment) (place : Nat) : Option Nat :=
  ((deployment.stations[place]?).bind (·.watcher?)).bind fun watcher =>
    (deployment.watchers[watcher]?).bind (·.target? deployment.stationNames)

section

variable {deployment : Deployment}

@[simp] theorem partner?_setStorage (place? : Option Nat) (storage? : Option Storage)
    (place : Nat) :
    (deployment.setStorage place? storage?).partner? place = deployment.partner? place := by
  simp [partner?]

@[simp] theorem partner?_setEnforcer (target : Nat) (enforcer : Enforcer) (place : Nat) :
    (deployment.setEnforcer target enforcer).partner? place = deployment.partner? place := by
  simp only [partner?, setEnforcer, changeStation, List.getElem?_modify]
  cases deployment.stations[place]? with
  | none => rfl
  | some station => by_cases here : target = place <;> simp [here]

@[simp] theorem partner?_told (told place : Nat) :
    (deployment.changeWatcher told .told).partner? place = deployment.partner? place := by
  simp only [partner?, changeWatcher, List.getElem?_modify]
  cases (deployment.stations[place]?).bind (·.watcher?) with
  | none => rfl
  | some watcher =>
      simp only [Option.bind_some]
      cases deployment.watchers[watcher]? with
      | none => rfl
      | some old => by_cases here : told = watcher <;> simp [here, Watcher.target?, Watcher.told]

theorem notify_eq {place other : Nat} {station : Station}
    (there : deployment.stations[place]? = some station)
    (notifies : station.enforcer.switches.notifyWatcher = true)
    (partner : deployment.partner? place = some other) :
    ∃ watcher, ∀ loaded,
      (deployment.changeWatcher watcher .told).load other = (.ok (), loaded) →
        deployment.notify place = loaded := by
  rw [partner?, there, Option.bind_some] at partner
  obtain ⟨number, attached, partner⟩ := Option.bind_eq_some_iff.mp partner
  obtain ⟨watcher, found, target⟩ := Option.bind_eq_some_iff.mp partner
  unfold Watcher.target? at target
  split at target
  · cases target
  · next works =>
      obtain ⟨name, reloads, named⟩ := Option.bind_eq_some_iff.mp target
      refine ⟨number, fun loaded done => ?_⟩
      have reacts : (deployment.changeWatcher number .told).react watcher = (false, loaded) := by
        have named : (deployment.changeWatcher number .told).stationNames.lookup name =
            some other := named
        simp only [react, if_neg works, reloads, named, done]
      simp only [notify, there, attached, Option.bind_some, found, notifies, Option.getD_some,
        reacts]
      rfl

def exchange (deployment : Deployment) (place number : Nat) (enforcer : Enforcer)
    (storage : Storage) : Deployment :=
  (deployment.setStorage (some number) (some storage)).setEnforcer place enforcer

section

variable {place number : Nat} {station : Station} {old : Storage}
  (there : deployment.stations[place]? = some station)
  (stored : deployment.storages[number]? = some old) (enforcer : Enforcer) (storage : Storage)

@[simp] theorem partner?_exchange (target : Nat) :
    (deployment.exchange place number enforcer storage).partner? target =
      deployment.partner? target := by
  simp [exchange]

include there in
theorem station_exchange_self :
    (deployment.exchange place number enforcer storage).stations[place]? =
      some { station with enforcer } := by
  refine station_setEnforcer_self _ ?_ enforcer
  rwa [stations_setStorage]

theorem station_exchange_of_ne {other : Nat} (different : other ≠ place) :
    (deployment.exchange place number enforcer storage).stations[other]? =
      deployment.stations[other]? := by
  refine (station_changeStation_of_ne _ different _).trans ?_
  rw [stations_setStorage]

include stored in
theorem storage_exchange_self :
    (deployment.exchange place number enforcer storage).storages[number]? = some storage :=
  List.getElem?_set_self (List.getElem?_eq_some_iff.mp stored).1

end

/-- The stations at two places are attached to one storage in memory, in tune with it, and
tell of their changes. -/
structure Share (deployment : Deployment) (place other number : Nat) (first second : Station)
    (storage : Storage) : Prop where
  there : deployment.stations[place]? = some first
  thereOther : deployment.stations[other]? = some second
  attached : first.storage? = some number
  attachedOther : second.storage? = some number
  stored : deployment.storages[number]? = some storage
  tuned : first.enforcer.InTune storage
  tunedOther : second.enforcer.InTune storage
  same : Enforcer.SameKind first.enforcer second.enforcer
  notifies : first.enforcer.switches.notifyWatcher = true

/-- Enforcers that share a storage, each of which loads its rows again when the other has
changed them. -/
structure Twins (deployment : Deployment) (place other : Nat) : Prop where
  apart : place ≠ other
  partner : deployment.partner? place = some other
  partnerBack : deployment.partner? other = some place
  share : ∃ number first second storage,
    deployment.Share place other number first second storage

variable {place other : Nat}

theorem Twins.symm (twins : deployment.Twins place other) : deployment.Twins other place := by
  obtain ⟨number, first, second, storage, share⟩ := twins.share
  refine ⟨twins.apart.symm, twins.partnerBack, twins.partner, number, second, first, storage,
    share.thereOther, share.there, share.attachedOther, share.attached, share.stored,
    share.tunedOther, share.tuned, share.same.symm, ?_⟩
  rw [share.same.switches]
  exact share.notifies

theorem load_eq {number : Nat} {station : Station} {storage last : Storage}
    {reloaded : Enforcer} (there : deployment.stations[place]? = some station)
    (attached : station.storage? = some number)
    (stored : deployment.storages[number]? = some storage)
    (loaded : station.enforcer.load (some storage) = (.ok (), reloaded, some last)) :
    deployment.load place = (.ok (), deployment.exchange place number reloaded last) := by
  simp only [load, there, attached, storageAt?, Option.bind_some, stored, loaded]
  rfl

theorem mutate_eq {number : Nat} {station : Station} {storage later : Storage}
    {answer : Answer Bool} {changed : Enforcer} {mutation : Mutation Fields}
    (there : deployment.stations[place]? = some station)
    (attached : station.storage? = some number)
    (stored : deployment.storages[number]? = some storage)
    (left : station.enforcer.mutate (some storage) mutation = (answer, changed, some later)) :
    (answer = .ok true → (deployment.mutate place mutation).2 =
      (deployment.exchange place number changed later).notify place) ∧
    (answer ≠ .ok true → (deployment.mutate place mutation).2 =
      deployment.exchange place number changed later) := by
  unfold Enforcer.mutate at left
  simp only [mutate, mutateBy, there, attached, storageAt?, Option.bind_some, stored, left]
  constructor
  · rintro rfl
    rfl
  · intro notMade
    cases answer with
    | error failure => rfl
    | ok made =>
        cases made with
        | false => rfl
        | true => exact absurd rfl notMade

theorem Twins.mutate (twins : deployment.Twins place other) {mutation : Mutation Fields}
    (plain : mutation.Plain) : (deployment.mutate place mutation).2.Twins place other := by
  obtain ⟨number, first, second, storage, share⟩ := twins.share
  rcases share.tuned.mutate plain with
    ⟨changed, later, made, tuned, kind⟩ | ⟨notMade, unchanged⟩
  · have exchanged : (deployment.exchange place number changed later).stations[place]? =
        some { first with enforcer := changed } := station_exchange_self share.there changed later
    have notifies : changed.switches.notifyWatcher = true := kind.switches ▸ share.notifies
    obtain ⟨watcher, notified⟩ := notify_eq exchanged notifies
      ((partner?_exchange changed later place).trans twins.partner)
    obtain ⟨reloaded, last, loaded, lines, tunedOther, kindOther⟩ :=
      share.tunedOther.load tuned (kind.symm.trans share.same)
    have stored : (deployment.exchange place number changed later).storages[number]? =
        some later := storage_exchange_self share.stored changed later
    have thereOther : (deployment.exchange place number changed later).stations[other]? =
        some second := by
      rw [station_exchange_of_ne _ _ twins.apart.symm]
      exact share.thereOther
    have taken : ((deployment.exchange place number changed later).changeWatcher watcher
        .told).load other = _ := load_eq thereOther share.attachedOther stored loaded
    rw [(mutate_eq share.there share.attached share.stored made).1 rfl, notified _ taken]
    refine ⟨twins.apart, by simp [twins.partner], by simp [twins.partnerBack], number,
      { first with enforcer := changed }, { second with enforcer := reloaded }, last, ?_, ?_,
      share.attached, share.attachedOther, ?_, tuned.of_sameLines lines, tunedOther,
      (kind.symm.trans share.same).trans kindOther, notifies⟩
    · exact (station_exchange_of_ne reloaded last twins.apart).trans exchanged
    · exact @station_exchange_self _ _ number _ thereOther reloaded last
    · exact @storage_exchange_self _ other _ _ stored reloaded last
  · have left : first.enforcer.mutate (some storage) mutation =
        ((first.enforcer.mutate (some storage) mutation).1, first.enforcer, some storage) :=
      Prod.ext rfl unchanged
    rw [(mutate_eq share.there share.attached share.stored left).2 notMade]
    refine ⟨twins.apart, by simp [twins.partner], by simp [twins.partnerBack], number, first,
      second, storage, ?_, ?_, share.attached, share.attachedOther, ?_, share.tuned,
      share.tunedOther, share.same, share.notifies⟩
    · exact station_exchange_self share.there first.enforcer storage
    · rw [station_exchange_of_ne _ _ twins.apart.symm]
      exact share.thereOther
    · exact storage_exchange_self share.stored first.enforcer storage

end

theorem build_eq {deployment : Deployment} {plan : Plan} {place number watcher : Nat}
    {storage : Storage} (answered : (deployment.build plan).1 = .ok place)
    (attached : plan.storage? = some number) (watched : plan.watcher? = some watcher)
    (stored : deployment.storages[number]? = some storage) (memory : storage.kind = .memory) :
    ∃ enforcer reloaded last,
      Enforcer.build plan.settings plan.functions plan.metrics? plan.model = .ok enforcer ∧
      enforcer.load (some storage) = (.ok (), reloaded, some last) ∧
      place = deployment.stations.length ∧
      (deployment.build plan).2 =
        (({ deployment with stations := deployment.stations ++
            [⟨enforcer, some number, none⟩] } : Deployment).exchange place number reloaded
              last).attachWatcher place (some watcher) := by
  unfold build at answered ⊢
  cases isBuilt : Enforcer.build plan.settings plan.functions plan.metrics? plan.model with
  | error failure =>
      rw [isBuilt] at answered
      cases answered
  | ok enforcer =>
      have immediate : storage.kind.immediate = true := by
        rw [memory]
        rfl
      obtain ⟨last, left, -⟩ := enforcer.load_storage storage
      have there : ({ deployment with stations := deployment.stations ++
          [⟨enforcer, some number, none⟩] } : Deployment).stations[deployment.stations.length]? =
            some ⟨enforcer, some number, none⟩ := List.getElem?_concat_length
      cases loaded : (enforcer.load (some storage)).1 with
      | error failure =>
          simp [isBuilt, settle, attached, loadAtOnce, storageAt?, stored, immediate, load,
            loaded] at answered
      | ok done =>
          have whole : enforcer.load (some storage) =
              (.ok (), (enforcer.load (some storage)).2.1, some last) :=
            Prod.ext loaded (Prod.ext rfl left)
          have loads := load_eq there rfl stored whole
          simp only [isBuilt, settle, attached, loadAtOnce, storageAt?, Option.bind_some, stored,
            immediate, if_true, loads, watched] at answered ⊢
          cases answered
          exact ⟨enforcer, _, last, rfl, whole, rfl, rfl⟩

end Deployment

namespace Session

theorem build_done {session : Session} {name : String} {plan : Deployment.Plan}
    (answered : (session.build name plan).1 = done (.ok ())) :
    ∃ place, (session.deployment.build plan).1 = .ok place ∧
      (session.build name plan).2 =
        { session with deployment := (session.deployment.build plan).2.register name place } := by
  unfold build at answered ⊢
  cases made : session.deployment.build plan with
  | mk answer built =>
      cases answer with
      | error failure =>
          rw [made] at answered
          cases answered
      | ok place => exact ⟨place, rfl, rfl⟩

theorem build_answer {session : Session} {name : String} {plan : Deployment.Plan} {place : Nat}
    (made : (session.deployment.build plan).1 = .ok place) :
    (session.build name plan).1 = done (.ok ()) := by
  unfold build
  cases whole : session.deployment.build plan with
  | mk answer built =>
      rw [whole] at made
      cases made
      rfl

section

variable (settings : Settings) (functions : Entries String CustomFunction) (model : Model)
  (firstMetrics? secondMetrics? : Option Metrics) (lines : Lines)

def twinPlan (metrics? : Option Metrics) (watcher : Nat) : Deployment.Plan :=
  { settings, functions, metrics?, model, storage? := some 0, watcher? := some watcher }

/-- Two enforcers are built over a storage in memory with some lines. Each has a watcher that
makes the other load its rows again. -/
def twinSetup : List Step :=
  [.addStorage "shared" (.ofLines .memory lines),
    .addWatcher "ahead" (.start false (some "second")),
    .addWatcher "back" (.start false (some "first")),
    .build "first" (twinPlan settings functions model firstMetrics? 0),
    .build "second" (twinPlan settings functions model secondMetrics? 1)]

def beforeTwins : Deployment :=
  ((Deployment.empty.addStorage "shared" (.ofLines .memory lines)).addWatcher "ahead"
    (.start false (some "second"))).addWatcher "back" (.start false (some "first"))

theorem run_twinSetup :
    start.run (twinSetup settings functions model firstMetrics? secondMetrics? lines) =
      let middle := (Session.mk (beforeTwins lines) []).build "first"
        (twinPlan settings functions model firstMetrics? 0)
      let last := middle.2.build "second" (twinPlan settings functions model secondMetrics? 1)
      ([none, none, none, middle.1, last.1], last.2) :=
  rfl

end

/-- The rows are changed at one of the twins, but not by a removal of several at once. -/
def Step.ChangesTwin (step : Step) : Prop :=
  ∃ place mutation, (place = 0 ∨ place = 1) ∧ mutation.Plain ∧
    step = .perform place (.mutate mutation)

theorem twins_run {session : Session} (twins : session.deployment.Twins 0 1)
    {steps : List Step} (changes : ∀ step ∈ steps, step.ChangesTwin) :
    (session.run steps).2.deployment.Twins 0 1 := by
  induction steps generalizing session with
  | nil => exact twins
  | cons step steps ih =>
      refine ih ?_ fun later member => changes later (List.mem_cons_of_mem step member)
      obtain ⟨place, mutation, side, plain, rfl⟩ := changes step List.mem_cons_self
      rcases side with rfl | rfl
      · exact twins.mutate plain
      · exact (twins.symm.mutate plain).symm

section

variable {settings : Settings} {functions : Entries String CustomFunction} {model : Model}
  {firstMetrics? secondMetrics? : Option Metrics} {lines : Lines}

theorem twins_setup (defined : model.Defined) (saves : settings.autoSave = true)
    (links : settings.buildRoleLinks = true) (notifies : settings.notifyWatcher = true)
    (distinct : lines.Nodup)
    (answered : (start.run (twinSetup settings functions model firstMetrics? secondMetrics?
      lines)).1 = [none, none, none, done (.ok ()), done (.ok ())]) :
    (start.run (twinSetup settings functions model firstMetrics? secondMetrics?
      lines)).2.deployment.Twins 0 1 := by
  rw [run_twinSetup] at answered ⊢
  simp only [List.cons.injEq, true_and, and_true] at answered ⊢
  obtain ⟨answered, answeredSecond⟩ := answered
  obtain ⟨place, made, left⟩ := build_done answered
  rw [left] at answeredSecond ⊢
  obtain ⟨built, first, storage, isBuilt, loaded, rfl, left⟩ :=
    Deployment.build_eq made rfl rfl rfl rfl
  rw [left] at answeredSecond ⊢
  obtain ⟨same, tuned, kind⟩ :=
    Enforcer.inTune_of_built defined saves links isBuilt rfl distinct loaded
  obtain ⟨place, made, left⟩ := build_done answeredSecond
  rw [left]
  obtain ⟨builtSecond, second, last, isBuiltSecond, loadedSecond, rfl, left⟩ :=
    Deployment.build_eq made rfl rfl rfl same.kind
  rw [left]
  have distinctSecond : storage.lines.Nodup := by
    rw [same.lines]
    exact distinct
  obtain ⟨sameSecond, tunedSecond, kindSecond⟩ :=
    Enforcer.inTune_of_built defined saves links isBuiltSecond same.kind distinctSecond
      loadedSecond
  have alike := Enforcer.sameKind_of_built isBuilt isBuiltSecond
  have tells : first.switches.notifyWatcher = true := by
    rw [kind.switches, (Enforcer.switches_of_built isBuilt).1]
    exact notifies
  -- both enforcers now stand at their places, so the rest can be read off the deployment
  exact ⟨by decide, rfl, rfl, 0, ⟨first, some 0, some 0⟩, ⟨second, some 0, some 1⟩, last, rfl, rfl,
    rfl, rfl, rfl, tuned.of_sameLines sameSecond, tunedSecond,
    (kind.symm.trans alike).trans kindSecond, tells⟩

/-- Two enforcers over one storage in memory, each of which loads its rows again when the other
has changed them, agree after every change. -/
theorem twins_agree (defined : model.Defined) (saves : settings.autoSave = true)
    (links : settings.buildRoleLinks = true) (notifies : settings.notifyWatcher = true)
    (distinct : lines.Nodup)
    (answered : (start.run (twinSetup settings functions model firstMetrics? secondMetrics?
      lines)).1 = [none, none, none, done (.ok ()), done (.ok ())])
    {steps : List Step} (changes : ∀ step ∈ steps, step.ChangesTwin) :
    ∃ first second,
      ((start.run (twinSetup settings functions model firstMetrics? secondMetrics?
        lines)).2.run steps).2.deployment.stations[0]? = some first ∧
      ((start.run (twinSetup settings functions model firstMetrics? secondMetrics?
        lines)).2.run steps).2.deployment.stations[1]? = some second ∧
      Enforcer.Agree first.enforcer second.enforcer := by
  have twins := twins_setup defined saves links notifies distinct answered
  obtain ⟨number, first, second, storage, share⟩ := (twins_run twins changes).share
  exact ⟨first, second, share.there, share.thereOther,
    share.tuned.agree share.tunedOther share.same⟩

end

def Sample.twins : List Step :=
  twinSetup .standard [] Enforcer.Sample.model none none Enforcer.Sample.storage.lines

def Sample.twinChanges : List Step :=
  [.perform 0 (.mutate (.add "g" [.text "ann", .text "staff"])),
    .perform 1 (.mutate (.update "g" [.text "bob", .text "staff"]
      [.text "eve", .text "staff"])),
    .perform 1 (.mutate (.removeFiltered "g" ⟨0, ["ann"]⟩))]

theorem twins_agree_staffed :
    ∃ first second,
      ((start.run Sample.twins).2.run Sample.twinChanges).2.deployment.stations[0]? =
        some first ∧
      ((start.run Sample.twins).2.run Sample.twinChanges).2.deployment.stations[1]? =
        some second ∧
      Enforcer.Agree first.enforcer second.enforcer := by
  have defined : Enforcer.Sample.model.Defined := Enforcer.mirrored_staffed.defined
  have distinct : Enforcer.Sample.storage.lines.Nodup := List.nodup_singleton _
  unfold Sample.twins
  refine twins_agree defined rfl rfl rfl distinct ?_ ?_
  · rw [run_twinSetup]
    exact congrArg₂ (fun first second => [none, none, none, first, second])
      (@build_answer _ _ _ 0 (Answer.eq_ok_of_gives (by decide +kernel)))
      (@build_answer _ _ _ 1 (Answer.eq_ok_of_gives (by decide +kernel)))
  · intro step member
    simp only [Sample.twinChanges, List.mem_cons, List.not_mem_nil, or_false] at member
    rcases member with rfl | rfl | rfl
    · exact ⟨0, .add .., .inl rfl, trivial, rfl⟩
    · exact ⟨1, .update .., .inr rfl, trivial, rfl⟩
    · exact ⟨1, .removeFiltered .., .inr rfl, trivial, rfl⟩

end Session

end AccessControl
