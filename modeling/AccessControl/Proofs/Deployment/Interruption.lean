import AccessControl.Deployment.Session
import AccessControl.Proofs.Deployment.Stations

namespace AccessControl

theorem Deployment.isCurrent_read {deployment waiting : Deployment}
    {place storagePlace : Nat} {reading : Reading}
    (done : deployment.read place storagePlace = (.ok reading, waiting)) :
    waiting.isCurrent place reading = true := by
  unfold read at done
  split at done
  · next station storage there _ =>
      simp only at done
      split at done
      · cases done
        simp [isCurrent, there]
      · cases done
  · cases done

namespace Session

def interrupt (session : Session) (interlude : Deployment.Interlude) : Session :=
  { session with deployment := interlude session.deployment }

/-- Resumes a load until it ends. It is interrupted before it is resumed, as long as there
are interludes. -/
def finishLoad (number : Nat) (session : Session) :
    List Deployment.Interlude → Response × Session
  | [] => session.resumeLoad number
  | interlude :: later =>
      match (session.interrupt interlude).resumeLoad number with
      | (none, waiting) => finishLoad number waiting later
      | (some answer, ended) => (some answer, ended)

def loadThrough (session : Session) (place : Nat) (interludes : List Deployment.Interlude) :
    Response × Session :=
  match session.startLoad place with
  | (none, waiting) => waiting.finishLoad session.loadings.length interludes
  | (some answer, ended) => (some answer, ended)

section

variable {deployment waiting : Deployment} {loadings : List (Option Loading)} {number : Nat}
  {loading : Loading} (numbered : loadings[number]? = some (some loading))
include numbered

theorem resumeLoad_current
    (current : deployment.isCurrent loading.place loading.reading = true) :
    (Session.mk deployment loadings).resumeLoad number =
      (done (deployment.install loading.place loading.reading).1,
        ⟨(deployment.install loading.place loading.reading).2, loadings.set number none⟩) := by
  simp only [resumeLoad, numbered, Option.join_some, current, if_true]

theorem resumeLoad_failed {failure : Failure}
    (outdated : ¬ deployment.isCurrent loading.place loading.reading = true)
    (failed : deployment.read loading.place loading.storage = (.error failure, waiting)) :
    (Session.mk deployment loadings).resumeLoad number =
      (done (.error failure), ⟨waiting, loadings.set number none⟩) := by
  simp only [resumeLoad, numbered, Option.join_some, if_neg outdated, failed]

theorem resumeLoad_again {reading : Deployment.Reading}
    (outdated : ¬ deployment.isCurrent loading.place loading.reading = true)
    (again : deployment.read loading.place loading.storage = (.ok reading, waiting)) :
    (Session.mk deployment loadings).resumeLoad number =
      (none, ⟨waiting, loadings.set number (some { loading with reading })⟩) := by
  simp only [resumeLoad, numbered, Option.join_some, if_neg outdated, again]

end

theorem loadFrom_of_read_error {deployment waiting : Deployment} {place storagePlace : Nat}
    {failure : Failure} (interludes : List Deployment.Interlude)
    (failed : deployment.read place storagePlace = (.error failure, waiting)) :
    Deployment.loadFrom place storagePlace deployment interludes =
      (.error failure, waiting) := by
  cases interludes with
  | nil => simp only [Deployment.loadFrom, failed]
  | cons interlude later => simp only [Deployment.loadFrom, failed]

theorem finishLoad_eq {place storagePlace number : Nat} {deployment waiting : Deployment}
    {reading : Deployment.Reading} {loadings : List (Option Loading)}
    (started : deployment.read place storagePlace = (.ok reading, waiting))
    (numbered : loadings[number]? = some (some ⟨place, storagePlace, reading⟩))
    (interludes : List Deployment.Interlude) :
    finishLoad number ⟨waiting, loadings⟩ interludes =
      (done (Deployment.loadFrom place storagePlace deployment interludes).1,
        ⟨(Deployment.loadFrom place storagePlace deployment interludes).2,
          loadings.set number none⟩) := by
  induction interludes generalizing deployment waiting reading loadings with
  | nil =>
      simp only [finishLoad, Deployment.loadFrom, started]
      exact resumeLoad_current numbered (Deployment.isCurrent_read started)
  | cons interlude later ih =>
      simp only [finishLoad, Deployment.loadFrom, started, interrupt]
      by_cases current : (interlude waiting).isCurrent place reading = true
      · rw [resumeLoad_current numbered current, if_pos current]
        rfl
      · rw [if_neg current]
        cases read : (interlude waiting).read place storagePlace with
        | mk answer returned =>
            cases answer with
            | error failure =>
                rw [resumeLoad_failed numbered current read, loadFrom_of_read_error later read]
                rfl
            | ok newer =>
                rw [resumeLoad_again numbered current read]
                obtain ⟨inside, -⟩ := List.getElem?_eq_some_iff.mp numbered
                simp only
                rw [ih read (List.getElem?_set_self inside), List.set_set]

/-- A deferred load does what a load of a session does, if the same things happen
meanwhile. -/
theorem loadThrough_eq (session : Session) (place : Nat)
    (interludes : List Deployment.Interlude) :
    (session.loadThrough place interludes).1 =
      done (session.deployment.loadDeferred place interludes).1 ∧
    (session.loadThrough place interludes).2.deployment =
      (session.deployment.loadDeferred place interludes).2 := by
  unfold loadThrough startLoad Deployment.loadDeferred
  cases (session.deployment.stations[place]?).bind (·.storage?) with
  | none => exact ⟨rfl, rfl⟩
  | some storagePlace =>
      cases started : session.deployment.read place storagePlace with
      | mk answer waiting =>
          cases answer with
          | error failure =>
              simp only [started, loadFrom_of_read_error interludes started]
              exact ⟨rfl, rfl⟩
          | ok reading =>
              simp only [started]
              rw [finishLoad_eq started (by simp) interludes]
              exact ⟨rfl, rfl⟩

end Session

end AccessControl
