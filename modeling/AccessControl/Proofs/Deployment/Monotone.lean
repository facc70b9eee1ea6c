import AccessControl.Proofs.Deployment.Isolation
import AccessControl.Proofs.Enforcer.Monotone

namespace AccessControl.Deployment

open Enforcer

namespace Sample

def asking (subject : String) : List Value :=
  [.text subject, .text "desk"]

theorem defined_asking (subject : String) : Enforcer.AllDefined (asking subject) := by
  simp [asking, Enforcer.AllDefined, Value.isUndefined]

def reception : Deployment :=
  { deployment with
    stations := [⟨(Sample.manned "allow").after
      (.mutate none (.add "p" [.text "nobody", .text "allow"])), some 0, some 0⟩] }

end Sample

namespace Sample

def recalling : Deployment :=
  { empty with
    storages := [.ofLines .memory []]
    watchers := [.start false (some "main")]
    stations := [⟨Sample.manned "allow", some 0, some 0⟩]
    stationNames := [("main", 0)] }

end Sample

end AccessControl.Deployment
