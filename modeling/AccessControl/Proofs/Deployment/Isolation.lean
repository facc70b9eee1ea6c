import AccessControl.Proofs.Deployment.Commit
import AccessControl.Proofs.Enforcer.Isolation

namespace AccessControl.Deployment

section

variable {deployment : Deployment} {place : Nat} {station : Station}

theorem decide_fst (there : deployment.stations[place]? = some station)
    (context : EnforceContext) (values : List Value) (explain : Bool) :
    (deployment.decide place context values explain).1 =
      (station.enforcer.decide context values explain).1 := by
  simp only [decide, there]

theorem station_mutateBy (follow : Storage → Mutation Row → Except StorageFault Unit × Storage)
    (there : deployment.stations[place]? = some station)
    (notCalledBack : deployment.calledBack? place ≠ some place) (mutation : Mutation Fields) :
    ∃ later change,
      (deployment.mutateBy follow place mutation).2.stations[place]? = some later ∧
      later.enforcer = ((station.enforcer.mutateBy follow
        (deployment.storageAt? station.storage?) mutation).2.1).record change := by
  obtain ⟨settled, thereSettled, back, ofMade, ofNotMade⟩ :=
    mutateBy_settles there mutation follow
  by_cases made : (deployment.mutateBy follow place mutation).1 = .ok true
  · rw [ofMade made]
    rw [← back] at notCalledBack
    obtain ⟨⟨later, thereLater, same | failed⟩, -⟩ := notify_leaves thereSettled notCalledBack
    · exact ⟨later, id, thereLater, same.trans (Enforcer.record_id _).symm⟩
    · exact ⟨later, _, thereLater, failed⟩
  · rw [ofNotMade made]
    exact ⟨_, id, thereSettled, (Enforcer.record_id _).symm⟩

end

namespace Sample

/-- Teams are no groups that the matcher asks for. -/
def parted : Model :=
  { Enforcer.Sample.model with roles := [("g", .everywhere), ("g2", .everywhere)] }

theorem read_parted : parted.Read :=
  ⟨[(.text "r", .text "sub"), (.text "p", .text "sub, eft"), (.text "g", .text "_, _"),
    (.text "g2", .text "_, _"), (.text "e", .text (EffectRule.text .allowAndDeny)),
    (.text "m", .text "g(r.sub, p.sub)")],
    Answer.eq_ok_of_gives (by decide +kernel)⟩

theorem compile_parted : Enforcer.compileMatchers [] parted = .ok Enforcer.Sample.matchers :=
  Answer.eq_ok_of_gives (by decide +kernel)

def teamless : Enforcer :=
  let settings := (Enforcer.Sample.enforcer none).settings
  { Enforcer.Sample.enforcer none with
    model := parted
    table := Enforcer.newTable settings parted
    graphs := Enforcer.newGraphs settings [] parted }

theorem reachable_teamless : Enforcer.Reachable teamless := by
  refine @Enforcer.Reachable.built teamless.settings [] none parted _ read_parted ?_
  rw [Enforcer.build, compile_parted]
  rfl

def teams : Enforcer :=
  (teamless.after (.mutate none (.add "p" [.text "bob", .text "allow"]))).after
    (.decide .standard [.text "bob"] false)

theorem reachable_teams : Enforcer.Reachable teams := by
  unfold teams
  exact .after (.after reachable_teamless (.mutate none _) trivial) (.decide _ _ _) trivial

def parting : Deployment :=
  { deployment with stations := [⟨teams, some 0, some 0⟩] }

end Sample

namespace Sample

def reminded : Deployment :=
  { deployment with stations := [⟨Enforcer.Sample.remembering, some 0, some 0⟩] }

end Sample

end AccessControl.Deployment
