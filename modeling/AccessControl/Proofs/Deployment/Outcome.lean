import AccessControl.Proofs.Deployment.Isolation
import AccessControl.Proofs.Enforcer.Outcome

namespace AccessControl.Deployment

/-- Whatever change of the rows of whatever key is asked for, as long as a storage that is asked
to follow it does not fail: the answer tells what has become of the rows by the time that the
watcher is told of the change, and what they are after that if the watcher does not call back.
Only a removal of several rows is left out that are all there, but not all as often as they are
listed. -/
theorem mutateBy_tells
    (follow : Storage → Mutation Row → Except StorageFault Unit × Storage)
    {deployment : Deployment} {place : Nat} {station : Station}
    (there : deployment.stations[place]? = some station)
    (reachable : Enforcer.Reachable station.enforcer) {mutation : Mutation Fields}
    {change : Mutation Row}
    (read : mutation.read (station.enforcer.model.readRow mutation.key) = .ok change)
    (within : ¬ change.Overdraws (station.enforcer.rows change.key))
    (unhindered : station.enforcer.Unhindered follow
      (deployment.storageAt? station.storage?) change) :
    let answer := (deployment.mutateBy follow place mutation).1
    let after := (deployment.mutateBy follow place mutation).2
    (∃ settled enforcer, settled.stations[place]? = some { station with enforcer } ∧
      Enforcer.Told station.enforcer enforcer change answer ∧
      (answer = .ok true → after = settled.notify place) ∧
      (answer ≠ .ok true → after = settled)) ∧
    (deployment.calledBack? place ≠ some place →
      ∃ later, after.stations[place]? = some later ∧
        Enforcer.Told station.enforcer later.enforcer change answer) := by
  have told := Enforcer.told_mutateBy reachable read within unhindered
  rw [← mutateBy_fst there] at told
  refine ⟨?_, fun notCalledBack => ?_⟩
  · obtain ⟨settled, thereSettled, -, ofMade, ofNotMade⟩ :=
      mutateBy_settles there mutation follow
    exact ⟨settled, _, thereSettled, told, ofMade, ofNotMade⟩
  · obtain ⟨later, count, thereLater, left⟩ :=
      station_mutateBy follow there notCalledBack mutation
    refine ⟨later, thereLater, ?_⟩
    rw [left]
    exact told.record count

namespace Sample

def grouped : Enforcer :=
  Enforcer.Sample.staffed.after (.mutate none (.add "g" [.text "eve", .text "guest"]))

theorem reachable_grouped : Enforcer.Reachable grouped :=
  .after (.after (Enforcer.Sample.reachable_enforcer none) (.mutate none _) trivial)
    (.mutate none _) trivial

def regrouping : Deployment :=
  { deployment with stations := [⟨grouped, some 0, some 0⟩] }

theorem unhindered_grouped {change : Mutation Row} (forward : change.Forward) :
    grouped.Unhindered Enforcer.persist (some (.ofLines .memory [])) change := by
  intro storage attached _ _
  cases attached
  rw [Enforcer.persist_memory rfl forward]

end Sample

/-- Bob changes to the group of Eve, in his place; he cannot become Eve, who is there already. -/
theorem mutateBy_tells_grouped :
    (∃ later, (Sample.regrouping.mutateBy Enforcer.persist 0 (.update "g"
        [.text "bob", .text "staff"] [.text "bob", .text "guest"])).2.stations[0]? = some later ∧
      later.enforcer.rows "g" = [["bob", "guest"], ["eve", "guest"]]) ∧
    (Sample.regrouping.mutateBy Enforcer.persist 0 (.update "g"
      [.text "bob", .text "staff"] [.text "eve", .text "guest"])).1 ≠ .ok true := by
  have stored : Sample.grouped.rows "g" = [["bob", "staff"], ["eve", "guest"]] := by
    decide +kernel
  have unique : Sample.grouped.table.isUnique "g" = true := by decide +kernel
  constructor
  · obtain ⟨-, told⟩ := @mutateBy_tells Enforcer.persist Sample.regrouping 0 _ rfl
      Sample.reachable_grouped (.update "g" [.text "bob", .text "staff"]
        [.text "bob", .text "guest"]) (.update "g" ["bob", "staff"] ["bob", "guest"])
      (Answer.eq_ok_of_gives (by decide +kernel)) id (Sample.unhindered_grouped trivial)
    obtain ⟨later, there, told⟩ := told (by decide)
    refine ⟨later, there, ?_⟩
    have due : (Mutation.update "g" ["bob", "staff"] ["bob", "guest"]).Due
        (Sample.grouped.table.isUnique "g") (Sample.grouped.rows "g") := by
      rw [stored]
      exact ⟨by decide, .inr (.inr (by decide))⟩
    have made := told.made (told.made_iff.mpr due)
    rw [Mutation.key, stored] at made
    exact made
  · obtain ⟨⟨settled, enforcer, -, told, -⟩, -⟩ := @mutateBy_tells Enforcer.persist
      Sample.regrouping 0 _ rfl Sample.reachable_grouped (.update "g" [.text "bob", .text "staff"]
        [.text "eve", .text "guest"]) (.update "g" ["bob", "staff"] ["eve", "guest"])
      (Answer.eq_ok_of_gives (by decide +kernel)) id (Sample.unhindered_grouped trivial)
    intro made
    have due := told.made_iff.mp made
    rw [Mutation.key, stored, unique] at due
    exact absurd due.2 (by decide)

end AccessControl.Deployment
