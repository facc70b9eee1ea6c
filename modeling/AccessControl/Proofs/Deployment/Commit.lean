import AccessControl.Proofs.Deployment.Stations
import AccessControl.Proofs.Enforcer.Change

namespace AccessControl.Deployment

def calledBack? (deployment : Deployment) (place : Nat) : Option Nat := do
  let station ← deployment.stations[place]?
  let watcher ← deployment.watchers[← station.watcher?]?
  deployment.stationNames.lookup (← watcher.reloads?)

def updates? (deployment : Deployment) (watcher : Nat) : Option Nat :=
  deployment.watchers[watcher]?.map (·.updates)

theorem updates?_eq {before after : Deployment} (same : after.watchers = before.watchers)
    (watcher : Nat) : after.updates? watcher = before.updates? watcher := by
  rw [updates?, updates?, same]

theorem updates?_changeWatcher (deployment : Deployment) (place watcher : Nat) :
    (deployment.changeWatcher place .told).updates? watcher =
      (deployment.updates? watcher).map (· + if place = watcher then 1 else 0) := by
  simp only [updates?, changeWatcher, List.getElem?_modify]
  cases deployment.watchers[watcher]? with
  | none => rfl
  | some found => split <;> rfl

theorem watchers_react (deployment : Deployment) (watcher : Watcher) :
    (deployment.react watcher).2.watchers = deployment.watchers := by
  unfold react
  split
  · rfl
  · split
    · rfl
    · split
      · rfl
      · next target _ =>
          have same := deployment.watchers_load target
          split <;> next loaded => rw [loaded] at same; exact same

theorem station_react {deployment : Deployment} {watcher : Watcher} {place : Nat}
    (elsewhere : (watcher.reloads?.bind fun name => deployment.stationNames.lookup name) ≠
      some place) :
    (deployment.react watcher).2.stations[place]? = deployment.stations[place]? := by
  unfold react
  split
  · rfl
  · split
    · rfl
    · next name reloads =>
        split
        · rfl
        · next target found =>
            have different : place ≠ target := by
              rintro rfl
              exact elsewhere (by rw [reloads]; exact found)
            have same := deployment.station_load_of_ne different
            split <;> next loaded => rw [loaded] at same; exact same

theorem notify_leaves {deployment : Deployment} {place : Nat} {station : Station}
    (there : deployment.stations[place]? = some station)
    (notCalledBack : deployment.calledBack? place ≠ some place) :
    (∃ later, (deployment.notify place).stations[place]? = some later ∧
      (later.enforcer = station.enforcer ∨
        later.enforcer = station.enforcer.record (·.recordError "WATCHER_ERROR"))) ∧
    ∀ watcher, (deployment.notify place).updates? watcher =
      (deployment.updates? watcher).map (· +
        if station.watcher? = some watcher ∧
          station.enforcer.switches.notifyWatcher = true then 1 else 0) := by
  unfold notify
  rw [there]
  simp only
  cases attached : station.watcher?.bind fun watcher => deployment.watchers[watcher]? with
  | none =>
      refine ⟨⟨station, there, .inl rfl⟩, fun watcher => ?_⟩
      cases found : deployment.watchers[watcher]? with
      | none => simp [updates?, found]
      | some other =>
          have notAttached : station.watcher? ≠ some watcher := by
            intro same
            simp [same, found] at attached
          simp [notAttached]
  | some watcher =>
      obtain ⟨number, isWatcher, found⟩ := Option.bind_eq_some_iff.mp attached
      cases notifies : station.enforcer.switches.notifyWatcher with
      | false =>
          refine ⟨⟨station, there, .inl rfl⟩, fun watcher => ?_⟩
          simp
      | true =>
          simp only [Bool.not_true, Bool.false_eq_true, if_false, isWatcher,
            Option.getD_some]
          have elsewhere : (watcher.reloads?.bind fun name =>
              (deployment.changeWatcher number .told).stationNames.lookup name) ≠
                some place := by
            intro back
            refine notCalledBack ?_
            simp only [calledBack?, there, isWatcher, found, Option.bind_eq_bind,
              Option.bind_some]
            exact back
          have kept := (station_react elsewhere).trans there
          have updates := fun other =>
            (updates?_eq (watchers_react (deployment.changeWatcher number .told) watcher)
              other).trans (deployment.updates?_changeWatcher number other)
          generalize (deployment.changeWatcher number .told).react watcher = reaction
            at kept updates ⊢
          obtain ⟨failed, later⟩ := reaction
          cases failed with
          | false =>
              exact ⟨⟨station, kept, .inl rfl⟩, fun other => by simpa using updates other⟩
          | true =>
              refine ⟨⟨_, (List.getElem?_modify_eq ..).trans (congrArg _ kept), .inr rfl⟩,
                fun other => ?_⟩
              change later.updates? other = _
              simpa using updates other

theorem notify_tells {deployment : Deployment} {place : Nat} {station : Station}
    (there : deployment.stations[place]? = some station)
    (notCalledBack : deployment.calledBack? place ≠ some place) :
    (∃ later, (deployment.notify place).stations[place]? = some later ∧
      Enforcer.Unmoved station.enforcer later.enforcer) ∧
    ∀ watcher, (deployment.notify place).updates? watcher =
      (deployment.updates? watcher).map (· +
        if station.watcher? = some watcher ∧
          station.enforcer.switches.notifyWatcher = true then 1 else 0) := by
  obtain ⟨⟨later, thereLater, left⟩, told⟩ := notify_leaves there notCalledBack
  refine ⟨⟨later, thereLater, ?_⟩, told⟩
  rcases left with same | failed
  · rw [same]
    exact .refl _
  · rw [failed]
    exact Enforcer.unmoved_recordError station.enforcer "WATCHER_ERROR"

theorem calledBack?_setEnforcer {deployment : Deployment} {place : Nat} {station : Station}
    (there : deployment.stations[place]? = some station) (enforcer : Enforcer) :
    (deployment.setEnforcer place enforcer).calledBack? place =
      deployment.calledBack? place := by
  simp only [calledBack?, station_setEnforcer_self deployment there, there]
  rfl

theorem calledBack?_setStorage (deployment : Deployment) (place? : Option Nat)
    (storage? : Option Storage) (place : Nat) :
    (deployment.setStorage place? storage?).calledBack? place =
      deployment.calledBack? place := by
  simp [calledBack?]

section

variable {follow : Storage → Mutation Row → Except StorageFault Unit × Storage}
  {deployment : Deployment} {place : Nat} {station : Station}
  (there : deployment.stations[place]? = some station) (mutation : Mutation Fields)
include there

theorem mutateBy_fst :
    (deployment.mutateBy follow place mutation).1 =
      (station.enforcer.mutateBy follow (deployment.storageAt? station.storage?)
        mutation).1 := by
  simp only [mutateBy, there]
  split <;> rfl

theorem mutateBy_snd_of_made {enforcer : Enforcer} {storage? : Option Storage}
    (outcome : station.enforcer.mutateBy follow (deployment.storageAt? station.storage?)
      mutation = (.ok true, enforcer, storage?)) :
    (deployment.mutateBy follow place mutation).2 =
      ((deployment.setStorage station.storage? storage?).setEnforcer place
        enforcer).notify place := by
  simp only [mutateBy, there, outcome]

theorem mutateBy_snd_of_not_made {answer : Answer Bool} {enforcer : Enforcer}
    {storage? : Option Storage}
    (outcome : station.enforcer.mutateBy follow (deployment.storageAt? station.storage?)
      mutation = (answer, enforcer, storage?)) (notMade : answer ≠ .ok true) :
    (deployment.mutateBy follow place mutation).2 =
      (deployment.setStorage station.storage? storage?).setEnforcer place enforcer := by
  simp only [mutateBy, there, outcome]

/-- What a change makes of an enforcer is settled before its watcher is told of it. -/
theorem mutateBy_settles
    (follow : Storage → Mutation Row → Except StorageFault Unit × Storage) :
    ∃ settled, settled.stations[place]? =
        some { station with enforcer := (station.enforcer.mutateBy follow
          (deployment.storageAt? station.storage?) mutation).2.1 } ∧
      settled.calledBack? place = deployment.calledBack? place ∧
      ((deployment.mutateBy follow place mutation).1 = .ok true →
        (deployment.mutateBy follow place mutation).2 = settled.notify place) ∧
      ((deployment.mutateBy follow place mutation).1 ≠ .ok true →
        (deployment.mutateBy follow place mutation).2 = settled) := by
  rw [mutateBy_fst there]
  cases outcome : station.enforcer.mutateBy follow
      (deployment.storageAt? station.storage?) mutation with
  | mk answer left =>
      obtain ⟨enforcer, storage?⟩ := left
      have thereStored :
          (deployment.setStorage station.storage? storage?).stations[place]? =
            some station := by
        simpa using there
      refine ⟨_, station_setEnforcer_self _ thereStored enforcer, ?_, fun made => ?_,
        mutateBy_snd_of_not_made there mutation outcome⟩
      · rw [calledBack?_setEnforcer thereStored, calledBack?_setStorage]
      · cases made
        exact mutateBy_snd_of_made there mutation outcome

end

/-- Whatever the storage and the watcher do, a change that is made is committed and the
watcher of the enforcer is told of it once if it is to be told, and one that is not made,
or fails, leaves the enforcer and all watchers. -/
theorem mutateBy_commits_or_leaves
    (follow : Storage → Mutation Row → Except StorageFault Unit × Storage)
    {deployment : Deployment} {place : Nat} {station : Station}
    (there : deployment.stations[place]? = some station)
    (notCalledBack : deployment.calledBack? place ≠ some place)
    (mutation : Mutation Fields) :
    ∃ later,
      (deployment.mutateBy follow place mutation).2.stations[place]? = some later ∧
      ((deployment.mutateBy follow place mutation).1 ≠ .ok true →
        Enforcer.Unmoved station.enforcer later.enforcer ∧
        ∀ watcher, (deployment.mutateBy follow place mutation).2.updates? watcher =
          deployment.updates? watcher) ∧
      ((deployment.mutateBy follow place mutation).1 = .ok true →
        Enforcer.Committed mutation.operation station.enforcer later.enforcer ∧
        ∀ watcher, (deployment.mutateBy follow place mutation).2.updates? watcher =
          (deployment.updates? watcher).map (· +
            if station.watcher? = some watcher ∧
              station.enforcer.switches.notifyWatcher = true then 1 else 0)) := by
  have moves := Enforcer.mutateBy_moves follow station.enforcer
    (deployment.storageAt? station.storage?) mutation
  have switches := Enforcer.switches_mutateBy follow station.enforcer
    (deployment.storageAt? station.storage?) mutation
  rw [mutateBy_fst there]
  cases outcome : station.enforcer.mutateBy follow
      (deployment.storageAt? station.storage?) mutation with
  | mk answer left =>
      obtain ⟨enforcer, storage?⟩ := left
      rw [outcome] at moves switches
      have thereStored :
          (deployment.setStorage station.storage? storage?).stations[place]? =
            some station := by
        simpa using there
      have thereChanged := station_setEnforcer_self _ thereStored enforcer
      have updates : ∀ watcher, ((deployment.setStorage station.storage?
          storage?).setEnforcer place enforcer).updates? watcher =
            deployment.updates? watcher :=
        updates?_eq (deployment.watchers_setStorage _ _)
      by_cases made : answer = .ok true
      · subst made
        rw [mutateBy_snd_of_made there mutation outcome]
        have back : ((deployment.setStorage station.storage? storage?).setEnforcer place
            enforcer).calledBack? place ≠ some place := by
          rw [calledBack?_setEnforcer thereStored, calledBack?_setStorage]
          exact notCalledBack
        obtain ⟨⟨later, thereLater, unmoved⟩, told⟩ := notify_tells thereChanged back
        refine ⟨later, thereLater, fun notMade => absurd rfl notMade, fun _ =>
          ⟨(moves.1 rfl).of_unmoved unmoved, fun watcher => ?_⟩⟩
        rw [← switches, ← updates watcher]
        exact told watcher
      · rw [mutateBy_snd_of_not_made there mutation outcome made]
        exact ⟨_, thereChanged, fun _ => ⟨moves.2 made, updates⟩,
          fun isMade => absurd isMade made⟩

namespace Sample

def deployment : Deployment :=
  { empty with
    storages := [.ofLines .memory []]
    watchers := [.start true none]
    stations := [⟨Enforcer.Sample.enforcer (some (.start "guard")), some 0, some 0⟩] }

end Sample

theorem mutateBy_commits_or_leaves_sample :
    ∃ later, (Sample.deployment.mutateBy Enforcer.persist 0
        (.add "g" [.text "bob", .text "staff"])).2.stations[0]? = some later ∧
      later.enforcer.version = 1 ∧
      later.enforcer.mutationCount "add_policy" = some (.count 1) ∧
      (Sample.deployment.mutateBy Enforcer.persist 0
        (.add "g" [.text "bob", .text "staff"])).2.updates? 0 = some 1 := by
  obtain ⟨later, there, -, committed⟩ :=
    @mutateBy_commits_or_leaves Enforcer.persist Sample.deployment 0 _ rfl (by decide)
      (.add "g" [.text "bob", .text "staff"])
  obtain ⟨moved, told⟩ := committed (Answer.eq_ok_of_gives (by decide +kernel))
  exact ⟨later, there, moved.version, moved.counted, told 0⟩

end AccessControl.Deployment
