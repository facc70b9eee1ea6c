import AccessControl.Proofs.Deployment.Loading
import AccessControl.Proofs.Enforcer.Version

namespace AccessControl

/-! Loads that wait for their storage, while other things happen to the enforcer. A load
notes the version of the enforcer and reads the lines. It takes them if the version is still
the same later, and starts over otherwise. -/

namespace Interleaving

inductive Phase
  | begun
  | noted (version : Nat)
  | waiting (reading : Deployment.Reading)
  | ended (answer : Answer Unit)

/-- What can be seen of all that happens. Loads have numbers. -/
inductive Mark
  /-- something is committed, but not by one of the loads -/
  | committed
  | started (number : Nat)
  | noted (number : Nat)
  | read (number : Nat) (lines : Lines)
  | failed (number : Nat) (fault : StorageFault)
  | installed (number : Nat) (lines : Lines)
  | refused (number : Nat) (failure : Failure)
  | outdated (number : Nat)

namespace Mark

def number? : Mark → Option Nat
  | .committed => none
  | .started number | .noted number | .read number _ | .failed number _
  | .installed number _ | .refused number _ | .outdated number => some number

def commits : Mark → Bool
  | .committed | .installed .. => true
  | _ => false

def reads : Mark → Bool
  | .read .. | .failed .. => true
  | _ => false

def readsFor (number : Nat) (mark : Mark) : Bool :=
  mark.reads && mark.number? == some number

def commitsBeside (number : Nat) (mark : Mark) : Bool :=
  mark.commits && mark.number? != some number

def end? : Mark → Option (Nat × Answer Unit)
  | .failed number fault => some (number, .error (.storage fault))
  | .installed number _ => some (number, .ok ())
  | .refused number failure => some (number, .error failure)
  | _ => none

theorem number?_of_end? {mark : Mark} {number : Nat} {answer : Answer Unit}
    (ends : mark.end? = some (number, answer)) : mark.number? = some number := by
  cases mark <;> cases ends <;> rfl

end Mark

end Interleaving

/-- An enforcer, the loads by their numbers, and what was seen, the latest first. -/
structure Interleaving where
  enforcer : Enforcer
  loads : List Interleaving.Phase
  past : List Interleaving.Mark

namespace Interleaving

def start (enforcer : Enforcer) : Interleaving :=
  ⟨enforcer, [], []⟩

def advance (state : Interleaving) (number : Nat) (enforcer : Enforcer) (phase : Phase)
    (mark : Mark) : Interleaving :=
  ⟨enforcer, state.loads.set number phase, mark :: state.past⟩

/-- The storage is given as it is when it is read. -/
inductive Move
  | happen (event : Enforcer.Event)
  | start
  | note (number : Nat)
  | read (number : Nat) (storage : Storage)
  | settle (number : Nat)

def read (state : Interleaving) (number version : Nat) (storage : Storage) : Interleaving :=
  match storage.load.1 with
  | .ok lines =>
      state.advance number state.enforcer (.waiting ⟨version, storage.label, lines⟩)
        (.read number lines)
  | .error error =>
      let fault : StorageFault := ⟨storage.label, .failed error.message Hook.load.name⟩
      state.advance number (state.enforcer.record (·.recordError Category.adapter.code))
        (.ended (.error (.storage fault))) (.failed number fault)

def settle (state : Interleaving) (number : Nat) (reading : Deployment.Reading) :
    Interleaving :=
  if state.enforcer.version == reading.version then
    match state.enforcer.install reading.label reading.lines with
    | (.ok (), installed) =>
        state.advance number installed (.ended (.ok ())) (.installed number reading.lines)
    | (.error failure, left) =>
        state.advance number left (.ended (.error failure)) (.refused number failure)
  else state.advance number state.enforcer .begun (.outdated number)

/-- A move that a load cannot make has no effect. -/
def step (state : Interleaving) : Move → Interleaving
  | .happen event =>
      { state with
        enforcer := state.enforcer.after event
        past := if state.enforcer.commits event then .committed :: state.past
          else state.past }
  | .start =>
      { state with
        loads := state.loads ++ [.begun]
        past := .started state.loads.length :: state.past }
  | .note number =>
      match state.loads[number]? with
      | some .begun =>
          state.advance number state.enforcer (.noted state.enforcer.version) (.noted number)
      | _ => state
  | .read number storage =>
      match state.loads[number]? with
      | some (.noted version) => state.read number version storage
      | _ => state
  | .settle number =>
      match state.loads[number]? with
      | some (.waiting reading) => state.settle number reading
      | _ => state

def run (state : Interleaving) (moves : List Move) : Interleaving :=
  moves.foldl step state

/-- The lines were read after a version was noted, and nothing was committed since then. -/
def Fresh (number : Nat) (lines : Lines) (past : List Mark) : Prop :=
  ∃ seen before, past = seen ++ .noted number :: before ∧ .read number lines ∈ seen ∧
    ∀ mark ∈ seen, mark.commits = false

/-- Every load has read at most as often as others have committed since it started, up to
what it is behind and what it has in hand. -/
def Spent (number behind credit : Nat) (past : List Mark) : Prop :=
  ∀ seen before, past = seen ++ .started number :: before →
    seen.countP (Mark.readsFor number) + behind ≤
      seen.countP (Mark.commitsBeside number) + credit

structure Noted (number noted version : Nat) (past seen : List Mark) : Prop where
  split : ∃ before, past = seen ++ .noted number :: before
  counted : version = noted + seen.countP Mark.commits

/-- What is known of a load in a phase, at a version of the enforcer. -/
def Phase.Standing (number version : Nat) (past : List Mark) : Phase → Prop
  | .begun => Spent number 0 0 past
  | .noted old => (∃ seen, Noted number old version past seen) ∧
      Spent number (version - old) 0 past
  | .waiting reading => (∃ seen, Noted number reading.version version past seen ∧
        .read number reading.lines ∈ seen) ∧
      Spent number (version - reading.version) 1 past
  | .ended _ => Spent number 0 1 past

section

variable {number behind credit : Nat} {past : List Mark} {mark : Mark}

theorem Spent.weaken (spent : Spent number behind credit past) {less more : Nat}
    (enough : less + credit ≤ behind + more) : Spent number less more past := by
  intro seen before split
  have bound := spent seen before split
  omega

theorem Spent.beside (spent : Spent number behind credit past)
    (other : mark.number? ≠ some number) :
    Spent number (behind + mark.commits.toNat) credit (mark :: past) := by
  intro seen before split
  cases seen with
  | nil =>
      cases split
      exact absurd rfl other
  | cons first seen =>
      obtain ⟨rfl, rest⟩ := List.cons.inj split
      have bound := spent seen before rest
      have unread : mark.readsFor number = false := by simp [Mark.readsFor, other]
      have beside : mark.commitsBeside number = mark.commits := by
        simp [Mark.commitsBeside, other]
      rw [List.countP_cons, List.countP_cons, unread, beside]
      cases mark.commits with
      | false => exact bound
      | true =>
          simp only [Bool.toNat_true, Bool.false_eq_true, if_false, if_true]
          omega

theorem Spent.own (spent : Spent number behind credit past)
    (own : mark.number? = some number) (goesOn : mark ≠ .started number) :
    Spent number behind (credit + mark.reads.toNat) (mark :: past) := by
  intro seen before split
  cases seen with
  | nil => exact absurd (List.cons.inj split).1 goesOn
  | cons first seen =>
      obtain ⟨rfl, rest⟩ := List.cons.inj split
      have bound := spent seen before rest
      have read : mark.readsFor number = mark.reads := by simp [Mark.readsFor, own]
      have beside : mark.commitsBeside number = false := by simp [Mark.commitsBeside, own]
      rw [List.countP_cons, List.countP_cons, read, beside]
      cases mark.reads with
      | false => exact bound
      | true =>
          simp only [Bool.toNat_true, Bool.false_eq_true, if_false, if_true]
          omega

theorem Spent.quiet (spent : Spent number behind credit past)
    (own : mark.number? = some number) (goesOn : mark ≠ .started number)
    (unread : mark.reads = false) : Spent number behind credit (mark :: past) := by
  have kept := spent.own own goesOn
  rwa [unread] at kept

theorem Noted.cons {noted version : Nat} {seen : List Mark}
    (known : Noted number noted version past seen) (mark : Mark) :
    Noted number noted (version + mark.commits.toNat) (mark :: past) (mark :: seen) := by
  obtain ⟨⟨before, rfl⟩, counted⟩ := known
  refine ⟨⟨before, rfl⟩, ?_⟩
  rw [List.countP_cons, counted]
  cases mark.commits <;> rfl

theorem Noted.le {noted version : Nat} {seen : List Mark}
    (known : Noted number noted version past seen) : noted ≤ version := by
  have counted := known.counted
  omega

theorem Noted.fresh {version : Nat} {seen : List Mark} {lines : Lines}
    (known : Noted number version version past seen) (read : .read number lines ∈ seen) :
    Fresh number lines past := by
  obtain ⟨before, split⟩ := known.split
  have counted := known.counted
  have uncommitted : seen.countP Mark.commits = 0 := by omega
  refine ⟨seen, before, split, read, fun mark member => ?_⟩
  exact Bool.eq_false_iff.mpr (List.countP_eq_zero.mp uncommitted mark member)

/-- What others do keeps what is known of a load. -/
theorem Phase.Standing.beside {phase : Phase} {version : Nat}
    (standing : phase.Standing number version past) (other : mark.number? ≠ some number) :
    phase.Standing number (version + mark.commits.toNat) (mark :: past) := by
  cases phase with
  | begun => exact (Spent.beside standing other).weaken (by omega)
  | ended answer => exact (Spent.beside standing other).weaken (by omega)
  | noted old =>
      obtain ⟨⟨seen, known⟩, spent⟩ := standing
      have before := known.le
      exact ⟨⟨mark :: seen, known.cons mark⟩, (spent.beside other).weaken (by omega)⟩
  | waiting reading =>
      obtain ⟨⟨seen, known, read⟩, spent⟩ := standing
      have before := known.le
      exact ⟨⟨mark :: seen, known.cons mark, List.mem_cons_of_mem mark read⟩,
        (spent.beside other).weaken (by omega)⟩

/-- No load has ever read more than once more than others have committed. -/
theorem Phase.Standing.bound {phase : Phase} {version : Nat}
    (standing : phase.Standing number version past) : Spent number 0 1 past := by
  cases phase with
  | begun => exact Spent.weaken standing (by omega)
  | ended answer => exact standing
  | noted old => exact standing.2.weaken (by omega)
  | waiting reading => exact standing.2.weaken (by omega)

end

structure Told (state : Interleaving) : Prop where
  standing : ∀ number (phase : Phase), state.loads[number]? = some phase →
    phase.Standing number state.enforcer.version state.past
  numbered : ∀ number, .started number ∈ state.past → number < state.loads.length
  ended : ∀ mark ∈ state.past, ∀ number answer, mark.end? = some (number, answer) →
    state.loads[number]? = some (.ended answer)
  fresh : ∀ number lines earlier, (.installed number lines :: earlier) <:+ state.past →
    Fresh number lines earlier
  thrifty : ∀ number seen before, (seen ++ .started number :: before) <:+ state.past →
    seen.countP (Mark.readsFor number) ≤ seen.countP (Mark.commitsBeside number) + 1

theorem told_start (enforcer : Enforcer) : (start enforcer).Told where
  standing _ _ there := nomatch there
  numbered _ member := nomatch member
  ended _ member := nomatch member
  fresh _ _ _ suffix := nomatch List.suffix_nil.mp suffix
  thrifty _ seen _ suffix := by
    have empty := List.suffix_nil.mp suffix
    cases seen <;> cases empty

section

variable {state : Interleaving} (told : state.Told)
include told

theorem Told.cons {enforcer : Enforcer} {loads : List Phase} {mark : Mark}
    (standing : ∀ number (phase : Phase), loads[number]? = some phase →
      phase.Standing number enforcer.version (mark :: state.past))
    (numbered : ∀ number, .started number ∈ mark :: state.past → number < loads.length)
    (ended : ∀ other ∈ mark :: state.past, ∀ number answer,
      other.end? = some (number, answer) → loads[number]? = some (.ended answer))
    (fresh : ∀ number lines, mark = .installed number lines →
      Fresh number lines state.past) :
    Told ⟨enforcer, loads, mark :: state.past⟩ := by
  refine ⟨standing, numbered, ended, ?_, ?_⟩
  · intro number lines earlier suffix
    rcases List.suffix_cons_iff.mp suffix with now | old
    · obtain ⟨same, rfl⟩ := List.cons.inj now
      exact fresh number lines same.symm
    · exact told.fresh number lines earlier old
  · intro number seen before suffix
    rcases List.suffix_cons_iff.mp suffix with now | old
    · have member : .started number ∈ mark :: state.past := by simp [← now]
      have there := List.getElem?_eq_getElem (numbered number member)
      exact (standing number _ there).bound seen before now.symm
    · exact told.thrifty number seen before old

theorem Told.advance {number : Nat} {phase next : Phase} {enforcer : Enforcer} {mark : Mark}
    (there : state.loads[number]? = some phase) (goesOn : ∀ answer, phase ≠ .ended answer)
    (own : mark.number? = some number) (notStart : mark ≠ .started number)
    (version : enforcer.version = state.enforcer.version + mark.commits.toNat)
    (standing : next.Standing number enforcer.version (mark :: state.past))
    (ends : ∀ answer, mark.end? = some (number, answer) → next = .ended answer)
    (fresh : ∀ lines, mark = .installed number lines → Fresh number lines state.past) :
    (state.advance number enforcer next mark).Told := by
  have inside := (List.getElem?_eq_some_iff.mp there).1
  refine told.cons ?_ ?_ ?_ ?_
  · intro other phase found
    by_cases same : number = other
    · subst same
      rw [List.getElem?_set_self inside] at found
      cases found
      exact standing
    · rw [List.getElem?_set_ne same] at found
      rw [version]
      refine (told.standing other phase found).beside ?_
      rw [own]
      exact fun both => same (Option.some.inj both)
  · intro other member
    rw [List.length_set]
    rcases List.mem_cons.mp member with rfl | old
    · cases own
      exact absurd rfl notStart
    · exact told.numbered other old
  · intro old member other answer isEnd
    rcases List.mem_cons.mp member with rfl | old
    · have same := (Mark.number?_of_end? isEnd).symm.trans own
      cases same
      rw [List.getElem?_set_self inside, ends answer isEnd]
    -- A load that goes on has not ended before.
    · have gone := told.ended _ old other answer isEnd
      have different : number ≠ other := by
        rintro rfl
        exact goesOn answer (Option.some.inj (there.symm.trans gone))
      rw [List.getElem?_set_ne different]
      exact gone
  · rintro other lines rfl
    cases own
    exact fresh lines rfl

theorem Told.happen (event : Enforcer.Event) : (state.step (.happen event)).Told := by
  have version := state.enforcer.version_after event
  simp only [step]
  cases committed : state.enforcer.commits event with
  | false =>
      rw [committed] at version
      refine ⟨?_, told.numbered, told.ended, told.fresh, told.thrifty⟩
      intro number phase there
      rw [version]
      exact told.standing number phase there
  | true =>
      rw [committed] at version
      refine told.cons ?_ ?_ ?_ ?_
      · intro number phase there
        rw [version]
        exact @Phase.Standing.beside _ _ .committed _ _ (told.standing number phase there) nofun
      · intro number member
        rcases List.mem_cons.mp member with different | old
        · cases different
        · exact told.numbered number old
      · intro mark member number answer isEnd
        rcases List.mem_cons.mp member with rfl | old
        · cases isEnd
        · exact told.ended mark old number answer isEnd
      · nofun

theorem Told.start : (state.step .start).Told := by
  refine told.cons ?_ ?_ ?_ ?_
  · intro number phase found
    rcases Nat.lt_trichotomy number state.loads.length with old | rfl | beyond
    · rw [List.getElem?_append_left old] at found
      have other : (Mark.started state.loads.length).number? ≠ some number := by
        intro same
        exact Nat.lt_irrefl number (Option.some.inj same ▸ old)
      exact (told.standing number phase found).beside other
    · rw [List.getElem?_concat_length] at found
      cases found
      intro seen before split
      cases seen with
      | nil => exact Nat.le_refl 0
      -- The number is new.
      | cons first seen =>
          have member : .started state.loads.length ∈ state.past := by
            rw [(List.cons.inj split).2]
            simp
          exact absurd (told.numbered _ member) (Nat.lt_irrefl _)
    · have outside : (state.loads ++ [Phase.begun]).length ≤ number := by
        rw [List.length_append, List.length_singleton]
        exact beyond
      rw [List.getElem?_eq_none outside] at found
      cases found
  · intro number member
    rw [List.length_append, List.length_singleton]
    rcases List.mem_cons.mp member with same | old
    · cases same
      exact Nat.lt_succ_self _
    · exact Nat.lt_succ_of_lt (told.numbered number old)
  · intro mark member number answer isEnd
    rcases List.mem_cons.mp member with rfl | old
    · cases isEnd
    · have gone := told.ended mark old number answer isEnd
      rw [List.getElem?_append_left (List.getElem?_eq_some_iff.mp gone).1]
      exact gone
  · nofun

theorem Told.note (number : Nat) : (state.step (.note number)).Told := by
  simp only [step]
  split
  · next there =>
      have spent : Spent number 0 0 state.past := told.standing number _ there
      refine told.advance there nofun rfl nofun rfl ?_ nofun nofun
      refine ⟨⟨[], ⟨state.past, rfl⟩, rfl⟩, ?_⟩
      rw [Nat.sub_self]
      exact spent.quiet rfl nofun rfl
  · exact told

theorem Told.read (number : Nat) (storage : Storage) :
    (state.step (.read number storage)).Told := by
  simp only [step]
  split
  · next version there =>
      obtain ⟨⟨seen, known⟩, spent⟩ := told.standing number _ there
      unfold Interleaving.read
      split
      · next lines _ =>
          refine told.advance there nofun rfl nofun rfl ⟨⟨.read number lines :: seen,
            known.cons (.read number lines), List.mem_cons_self⟩, ?_⟩ nofun nofun
          exact spent.own rfl nofun
      · next error _ =>
          have ended : ∀ fault, Spent number 0 1 (.failed number fault :: state.past) :=
            fun fault => (@Spent.own _ _ _ _ (.failed number fault) spent rfl nofun).weaken
              (by simp [Mark.reads])
          refine told.advance there nofun rfl nofun rfl (ended _) ?_ nofun
          rintro answer ⟨⟩
          rfl
  · exact told

theorem Told.settle (number : Nat) : (state.step (.settle number)).Told := by
  simp only [step]
  split
  · next reading there =>
      obtain ⟨⟨seen, known, read⟩, spent⟩ := told.standing number _ there
      unfold Interleaving.settle
      split
      · next same =>
          have current := beq_iff_eq.mp same
          have version := state.enforcer.version_install reading.label reading.lines
          have ended : ∀ mark : Mark, mark.number? = some number → mark ≠ .started number →
              mark.reads = false → Spent number 0 1 (mark :: state.past) := by
            intro mark own notStart unread
            exact (spent.quiet own notStart unread).weaken (by omega)
          split
          · next installed done =>
              rw [done] at version
              refine told.advance there nofun rfl nofun version (ended _ rfl nofun rfl) ?_ ?_
              · rintro answer ⟨⟩
                rfl
              · rintro lines ⟨⟩
                rw [current] at known
                exact known.fresh read
          · next failure left failed =>
              rw [failed] at version
              refine told.advance there nofun rfl nofun version (ended _ rfl nofun rfl) ?_ nofun
              rintro answer ⟨⟩
              rfl
      · next different =>
          have outdated : state.enforcer.version ≠ reading.version := by simpa using different
          have before := known.le
          refine told.advance there nofun rfl nofun rfl ?_ nofun nofun
          exact (@Spent.quiet _ _ _ _ (.outdated number) spent rfl nofun rfl).weaken (by omega)
  · exact told

theorem Told.step (move : Move) : (state.step move).Told := by
  cases move with
  | happen event => exact told.happen event
  | start => exact told.start
  | note number => exact told.note number
  | read number storage => exact told.read number storage
  | settle number => exact told.settle number

theorem Told.run (moves : List Move) : (state.run moves).Told := by
  induction moves generalizing state with
  | nil => exact told
  | cons move moves ih => exact ih (told.step move)

end

/-- What loads that wait keep to, whatever happens meanwhile. -/
structure LosesNothing (state : Interleaving) : Prop where
  /-- lines that a load takes were read after the last commit -/
  fresh : ∀ number lines earlier, (.installed number lines :: earlier) <:+ state.past →
    Fresh number lines earlier
  /-- a load reads at most once more than others commit while it is under way -/
  thrifty : ∀ number seen before, (seen ++ .started number :: before) <:+ state.past →
    seen.countP (Mark.readsFor number) ≤ seen.countP (Mark.commitsBeside number) + 1
  /-- a load whose read has failed answers so, and never takes lines -/
  failed : ∀ number fault, .failed number fault ∈ state.past →
    state.loads[number]? = some (.ended (.error (.storage fault))) ∧
      ∀ lines, .installed number lines ∉ state.past
  /-- a read that fails leaves the enforcer as it is -/
  fails : ∀ number version storage error, state.loads[number]? = some (.noted version) →
    storage.load.1 = .error error →
      Enforcer.Intact state.enforcer (state.step (.read number storage)).enforcer ∧
        ∃ fault, (state.step (.read number storage)).past = .failed number fault :: state.past

theorem fails_of_error {state : Interleaving} {number version : Nat} {storage : Storage}
    {error : StorageError} (there : state.loads[number]? = some (.noted version))
    (failed : storage.load.1 = .error error) :
    Enforcer.Intact state.enforcer (state.step (.read number storage)).enforcer ∧
      ∃ fault, (state.step (.read number storage)).past =
        .failed number fault :: state.past := by
  simp only [step, there, read, failed]
  exact ⟨state.enforcer.intact_record _, _, rfl⟩

/-- However loads of an enforcer that wait for a storage interleave with each other and with
all else that can happen, none takes lines that were read before the last commit. -/
theorem loses_nothing (enforcer : Enforcer) (moves : List Move) :
    ((start enforcer).run moves).LosesNothing := by
  have told := (told_start enforcer).run moves
  refine ⟨told.fresh, told.thrifty, ?_, fun _ _ _ _ => fails_of_error⟩
  intro number fault member
  have ended := told.ended _ member number _ rfl
  refine ⟨ended, fun lines installed => ?_⟩
  cases ended.symm.trans (told.ended _ installed number _ rfl)

/-- A change that comes while the load waits makes it read again. -/
example :
    ((start (Enforcer.Sample.enforcer none)).run [.start, .note 0,
      .read 0 Enforcer.Sample.storage,
      .happen (.mutate none (.add "g" [.text "ann", .text "staff"])), .settle 0, .note 0,
      .read 0 Enforcer.Sample.storage, .settle 0]).past =
    [.installed 0 Enforcer.Sample.storage.lines, .read 0 Enforcer.Sample.storage.lines,
      .noted 0, .outdated 0, .committed, .read 0 Enforcer.Sample.storage.lines, .noted 0,
      .started 0] :=
  rfl

theorem run_attempt {state : Interleaving} {number : Nat}
    (begun : state.loads[number]? = some .begun) (storage : Storage) :
    state.run [.note number, .read number storage] =
      (state.advance number state.enforcer (.noted state.enforcer.version)
        (.noted number)).read number state.enforcer.version storage := by
  have inside := (List.getElem?_eq_some_iff.mp begun).1
  simp only [run, List.foldl_cons, List.foldl_nil, step, begun, advance,
    List.getElem?_set_self inside]

inductive Attempted : Answer Deployment.Reading → Phase → Prop
  | waits (reading : Deployment.Reading) : Attempted (.ok reading) (.waiting reading)
  | ended (failure : Failure) : Attempted (.error failure) (.ended (.error failure))

theorem read_deployment {deployment : Deployment} {place storagePlace number : Nat}
    {station : Station} {storage : Storage} {state : Interleaving}
    (there : deployment.stations[place]? = some station)
    (stored : deployment.storages[storagePlace]? = some storage)
    (same : state.enforcer = station.enforcer) (begun : state.loads[number]? = some .begun) :
    ∃ later phase, (deployment.read place storagePlace).2.stations[place]? = some later ∧
      later.enforcer = (state.run [.note number, .read number storage]).enforcer ∧
      (state.run [.note number, .read number storage]).loads[number]? = some phase ∧
      Attempted (deployment.read place storagePlace).1 phase := by
  have inside := (List.getElem?_eq_some_iff.mp begun).1
  have waiting : (deployment.setStorage (some storagePlace)
      (some { storage with loads := storage.loads + 1 })).stations[place]? = some station := by
    rwa [Deployment.stations_setStorage]
  rw [run_attempt begun storage, same]
  cases obstacle : storage.obstacle? .load with
  | none =>
      have loaded : storage.load.1 = .ok storage.lines := by simp [Storage.load, obstacle]
      rw [Deployment.read_of_able there stored obstacle]
      refine ⟨station, _, waiting, ?_, ?_, .waits _⟩
      · simp only [read, loaded, advance]
      · simp [read, loaded, advance, inside]
  | some error =>
      have failed : storage.load.1 = .error error := by simp [Storage.load, obstacle]
      rw [Deployment.read_of_obstacle there stored obstacle]
      refine ⟨_, _, Deployment.station_setEnforcer_self _ waiting _, ?_, ?_, .ended _⟩
      · simp only [read, failed, advance]
      · simp [read, failed, advance, inside]

theorem run_ended {state : Interleaving} {number : Nat} {answer : Answer Unit}
    (ended : state.loads[number]? = some (.ended answer)) (storage : Storage) :
    state.run [.note number, .read number storage] = state := by
  simp only [run, List.foldl_cons, List.foldl_nil, step, ended]

theorem settle_current {state : Interleaving} {number : Nat} {reading : Deployment.Reading}
    (current : (state.enforcer.version == reading.version) = true) :
    ∃ mark, state.settle number reading =
      state.advance number (state.enforcer.install reading.label reading.lines).2
        (.ended (state.enforcer.install reading.label reading.lines).1) mark := by
  rw [settle, if_pos current]
  cases state.enforcer.install reading.label reading.lines with
  | mk answer left =>
      cases answer with
      | ok done => exact ⟨_, rfl⟩
      | error failure => exact ⟨_, rfl⟩

/-- How a load of a session stands, and how its phase says so. -/
inductive Reflects (place storagePlace : Nat) : Session.Response → Option Loading → Phase → Prop
  | waits (reading : Deployment.Reading) :
      Reflects place storagePlace none (some ⟨place, storagePlace, reading⟩) (.waiting reading)
  | ended (answer : Answer Unit) :
      Reflects place storagePlace (Session.done answer) none (.ended answer)

section

variable {session : Session} {place storagePlace : Nat} {station : Station}
  {storage : Storage} {state : Interleaving}
  (there : session.deployment.stations[place]? = some station)
  (stored : session.deployment.storages[storagePlace]? = some storage)
  (same : state.enforcer = station.enforcer)
include there stored same

theorem startLoad_moves (attached : station.storage? = some storagePlace) :
    ∃ later phase,
      (session.startLoad place).2.deployment.stations[place]? = some later ∧
      later.enforcer = (state.run [.start, .note state.loads.length,
        .read state.loads.length storage]).enforcer ∧
      (state.run [.start, .note state.loads.length,
        .read state.loads.length storage]).loads[state.loads.length]? = some phase ∧
      Reflects place storagePlace (session.startLoad place).1
        ((session.startLoad place).2.loadings[session.loadings.length]?).join phase := by
  have begun : (state.step .start).loads[state.loads.length]? = some .begun :=
    List.getElem?_concat_length
  obtain ⟨later, phase, thereLater, left, found, attempted⟩ :=
    @read_deployment _ _ _ _ _ _ (state.step .start) there stored same begun
  cases read : session.deployment.read place storagePlace with
  | mk answer waiting =>
      rw [read] at thereLater attempted
      cases attempted with
      | waits reading =>
          rw [Session.startLoad_waits there attached read]
          refine ⟨later, _, thereLater, left, found, ?_⟩
          rw [List.getElem?_concat_length]
          exact .waits reading
      | ended failure =>
          rw [Session.startLoad_failed there attached read]
          refine ⟨later, _, thereLater, left, found, ?_⟩
          rw [List.getElem?_eq_none (Nat.le_refl _)]
          exact .ended (.error failure)

theorem resumeLoad_moves {numbered number : Nat} {reading : Deployment.Reading}
    (known : session.loadings[numbered]? = some (some ⟨place, storagePlace, reading⟩))
    (waiting : state.loads[number]? = some (.waiting reading)) :
    ∃ later phase,
      (session.resumeLoad numbered).2.deployment.stations[place]? = some later ∧
      later.enforcer = (state.run [.settle number, .note number,
        .read number storage]).enforcer ∧
      (state.run [.settle number, .note number,
        .read number storage]).loads[number]? = some phase ∧
      Reflects place storagePlace (session.resumeLoad numbered).1
        ((session.resumeLoad numbered).2.loadings[numbered]?).join phase := by
  have inside := (List.getElem?_eq_some_iff.mp waiting).1
  have knownInside := (List.getElem?_eq_some_iff.mp known).1
  have settled : state.step (.settle number) = state.settle number reading := by
    simp only [step, waiting]
  have version : session.deployment.isCurrent place reading =
      (state.enforcer.version == reading.version) := by
    rw [Deployment.isCurrent, there, Option.any_some, same]
  have split : state.run [.settle number, .note number, .read number storage] =
      (state.settle number reading).run [.note number, .read number storage] := by
    rw [← settled]
    rfl
  rw [split]
  cases current : session.deployment.isCurrent place reading with
  | true =>
      obtain ⟨mark, settles⟩ := @settle_current _ number _ (version.symm.trans current)
      have ended : (state.settle number reading).loads[number]? =
          some (.ended (state.enforcer.install reading.label reading.lines).1) := by
        rw [settles]
        exact List.getElem?_set_self inside
      have installed : session.deployment.install place reading =
          ((state.enforcer.install reading.label reading.lines).1,
            session.deployment.setEnforcer place
              (state.enforcer.install reading.label reading.lines).2) := by
        simp only [Deployment.install, there, same]
      rw [Session.resumeLoad_current known current, run_ended ended, installed]
      refine ⟨_, _, Deployment.station_setEnforcer_self _ there _, ?_, ended, ?_⟩
      · rw [settles, advance]
      · rw [List.getElem?_set_self knownInside]
        exact .ended _
  | false =>
      have different := version.symm.trans current
      have begins : state.settle number reading =
          state.advance number state.enforcer .begun (.outdated number) := by
        rw [settle, different]
        rfl
      have begun : (state.settle number reading).loads[number]? = some .begun := by
        rw [begins]
        exact List.getElem?_set_self inside
      have unmoved : (state.settle number reading).enforcer = station.enforcer := by
        rw [begins]
        exact same
      obtain ⟨later, phase, thereLater, left, found, attempted⟩ :=
        read_deployment there stored unmoved begun
      cases read : session.deployment.read place storagePlace with
      | mk answer waits =>
          rw [read] at thereLater attempted
          have outdated : ¬ session.deployment.isCurrent place reading = true := by
            rw [current]
            exact Bool.false_ne_true
          cases attempted with
          | waits newer =>
              rw [Session.resumeLoad_again known outdated read]
              refine ⟨later, _, thereLater, left, found, ?_⟩
              rw [List.getElem?_set_self knownInside]
              exact .waits newer
          | ended failure =>
              rw [Session.resumeLoad_failed known outdated read]
              refine ⟨later, _, thereLater, left, found, ?_⟩
              rw [List.getElem?_set_self knownInside]
              exact .ended (.error failure)

end

end Interleaving

end AccessControl
