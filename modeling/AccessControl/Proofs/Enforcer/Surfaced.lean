import AccessControl.Proofs.Enforcer.Faults
import AccessControl.Proofs.Enforcer.Loading
import AccessControl.Proofs.Enforcer.Readings
import AccessControl.Proofs.Model.Form

namespace AccessControl

/-! Faults of the storage that an enforcer surfaces, against those that it counts. A hook or a
load that fails is counted once. What is not counted is a fault that is found before the storage
is asked or after it has answered, and a failure to save. -/

instance Model.decidableFits (model : Model) (lines : Lines) :
    Decidable (model.Fits lines) :=
  decidable_of_iff (∀ line ∈ lines, (model.readRow line.key line.fields).isOk) <|
    forall₂_congr fun line _ => by
      cases model.readRow line.key line.fields <;> simp [Except.isOk, Except.toBool]

def Failure.isStorage : Failure → Bool
  | .fault (.storage _) => true
  | _ => false

namespace Answer

def isStorageFault {α : Type} : Answer α → Bool
  | .ok _ => false
  | .error failure => failure.isStorage

variable {α β : Type}

theorem isStorageFault_map (change : α → β) (answer : Answer α) :
    isStorageFault (answer.map change) = isStorageFault answer := by
  cases answer <;> rfl

theorem isStorageFault_mapError {ε : Type} {wrap : ε → Failure}
    (apart : ∀ fault, (wrap fault).isStorage = false) (result : Except ε α) :
    isStorageFault (result.mapError wrap) = false := by
  cases result with
  | ok value => rfl
  | error fault => exact apart fault

theorem isStorageFault_bind {answer : Answer α} {next : α → Answer β}
    (first : isStorageFault answer = false) (rest : ∀ value, isStorageFault (next value) = false) :
    isStorageFault (answer >>= next) = false := by
  cases answer with
  | ok value => exact rest value
  | error failure => exact first

theorem isStorageFault_mapM {step : α → Answer β}
    (apart : ∀ item, isStorageFault (step item) = false) (items : List α) :
    isStorageFault (items.mapM step) = false := by
  cases mapped : items.mapM step with
  | ok results => rfl
  | error failure =>
      obtain ⟨item, -, failed⟩ := mapM_eq_error mapped
      have plain := apart item
      rwa [failed] at plain

end Answer

namespace Enforcer

def read (enforcer : Enforcer) : Option Storage → Answer Unit × Enforcer
  | none => (.error (.storage ⟨missingDeferredLabel, .missing⟩), enforcer)
  | some storage =>
      match storage.load.1 with
      | .ok _ => (.ok (), enforcer)
      | .error error => enforcer.refused storage.label error.message Hook.load.name

/-- What an enforcer is asked for. A storage that takes part is given as it is at that time, and
follows a change in any way. A load from a storage that is waited for reads, again and again if
the enforcer changes meanwhile, and takes what it has read. A load that a watcher asks for comes
after the change that the watcher is told of. -/
inductive Act
  | decide (context : EnforceContext) (values : List Value) (explain : Bool)
  | answer (question : Question)
  | adjust (adjustment : Adjustment)
  | mutate (follow : Storage → Mutation Row → Except StorageFault Unit × Storage)
      (storage? : Option Storage) (mutation : Mutation Fields)
  | load (storage? : Option Storage)
  | read (storage? : Option Storage)
  | take (label : String) (lines : Lines)
  | save (storage? : Option Storage)
  | saveDeferred (storage? : Option Storage)
  | watcherFails

def act (enforcer : Enforcer) : Act → Answer Unit × Enforcer
  | .decide context values explain =>
      ((enforcer.decide context values explain).1.map fun _ => (),
        (enforcer.decide context values explain).2.1)
  | .answer question =>
      ((enforcer.answer question).1.map fun _ => (), (enforcer.answer question).2)
  | .adjust adjustment => enforcer.adjust adjustment
  | .mutate follow storage? mutation =>
      ((enforcer.mutateBy follow storage? mutation).1.map fun _ => (),
        (enforcer.mutateBy follow storage? mutation).2.1)
  | .load storage? => ((enforcer.load storage?).1, (enforcer.load storage?).2.1)
  | .read storage? => enforcer.read storage?
  | .take label lines => enforcer.install label lines
  | .save storage? => ((enforcer.save storage?).1, enforcer)
  | .saveDeferred storage? => ((enforcer.saveDeferred storage?).1, enforcer)
  | .watcherFails => (.ok (), enforcer.record (·.recordError "WATCHER_ERROR"))

def runActs (enforcer : Enforcer) (acts : List Act) : Enforcer :=
  acts.foldl (fun enforcer act => (enforcer.act act).2) enforcer

theorem runActs_append (enforcer : Enforcer) (earlier later : List Act) :
    enforcer.runActs (earlier ++ later) = (enforcer.runActs earlier).runActs later :=
  List.foldl_append

def tally (property : Enforcer → Act → Bool) (enforcer : Enforcer) : List Act → Nat
  | [] => 0
  | act :: acts => (property enforcer act).toNat + (enforcer.act act).2.tally property acts

/-- The act surfaces a fault of the storage. -/
def surfaces (enforcer : Enforcer) (act : Act) : Bool :=
  Answer.isStorageFault (enforcer.act act).1

/-- The act comes to one of the faults that are not counted: there is no storage, or none that
answers at once where one must; its lines do not fit the model; it does not save; or a function
that matches names fails like a storage when roles are asked for. -/
def misses (enforcer : Enforcer) : Act → Bool
  | .answer question => Answer.isStorageFault (enforcer.answer question).1
  | .load none | .read none | .save none | .saveDeferred none => true
  | .load (some storage) =>
      !storage.kind.immediate ||
        (storage.obstacle? .load).isNone && !Decidable.decide (enforcer.model.Fits storage.lines)
  | .take _ lines => !Decidable.decide (enforcer.model.Fits lines)
  | .save (some storage) => !storage.kind.immediate || (storage.obstacle? .save).isSome
  | .saveDeferred (some storage) => (storage.obstacle? .save).isSome
  | _ => false

def storageFaults (enforcer : Enforcer) : Option Amount :=
  enforcer.reading Metric.errors (some Category.adapter.code)

/-- How an act is accounted for: whether it surfaces a fault, and whether it misses to count. -/
inductive Accounts (before after : Option Amount) : Bool → Bool → Prop
  | silent (same : after = before) : Accounts before after false false
  | counted (more : after = before.map Amount.increment) : Accounts before after true false
  | missed (same : after = before) : Accounts before after true true

section

variable (enforcer : Enforcer)

theorem accounts_mutateBy (follow : Storage → Mutation Row → Except StorageFault Unit × Storage)
    (storage? : Option Storage) (mutation : Mutation Fields) :
    Accounts enforcer.storageFaults
      (enforcer.mutateBy follow storage? mutation).2.1.storageFaults
      (Answer.isStorageFault (enforcer.mutateBy follow storage? mutation).1) false := by
  have committed : ∀ change, (enforcer.commit change).storageFaults = enforcer.storageFaults :=
    fun change => enforcer.reading_commit (by decide) change
  unfold mutateBy
  cases enforcer.check mutation with
  | error fault => exact .silent rfl
  | ok change? =>
      cases change? with
      | none => exact .silent rfl
      | some change =>
          cases storage? with
          | none => exact .silent (committed change)
          | some storage =>
              by_cases asked : (enforcer.switches.autoSave && storage.kind.immediate) = true
              · simp only [if_pos asked]
                cases follow storage change with
                | mk followed later =>
                    cases followed with
                    | ok done => exact .silent (committed change)
                    | error fault => exact .counted (enforcer.reading_record_increment _ _)
              · simp only [if_neg asked]
                exact .silent (committed change)

theorem accounts_install (label : String) (lines : Lines) :
    Accounts enforcer.storageFaults (enforcer.install label lines).2.storageFaults
      (Answer.isStorageFault (enforcer.install label lines).1)
      (!Decidable.decide (enforcer.model.Fits lines)) := by
  have same : (enforcer.install label lines).2.storageFaults = enforcer.storageFaults :=
    enforcer.reading_install (by decide) (by decide) label lines
  by_cases fits : enforcer.model.Fits lines
  · obtain ⟨table, graphs, staged⟩ := enforcer.stage_of_fits fits
    have taken : (enforcer.install label lines).1 = .ok () := by
      simp only [install, staged]
    rw [taken, decide_eq_true fits]
    exact .silent same
  · cases staged : enforcer.stage enforcer.model lines with
    | ok exchanged =>
        exact absurd (fits_of_stageRows (@stage_eq_ok _ _ _ exchanged.1 _ staged).1) fits
    | error fault =>
        have refused : (enforcer.install label lines).1 =
            .error (.storage ⟨label, .unfit (.row fault)⟩) := by
          simp only [install, staged]
        rw [refused, decide_eq_false fits]
        exact .missed same

theorem accounts_refused (label reason operation : String) :
    Accounts enforcer.storageFaults (enforcer.refused label reason operation).2.storageFaults
      (Answer.isStorageFault (enforcer.refused label reason operation).1) false :=
  .counted (enforcer.reading_record_increment _ _)

theorem accounts_load (storage? : Option Storage) :
    Accounts enforcer.storageFaults (enforcer.load storage?).2.1.storageFaults
      (Answer.isStorageFault (enforcer.load storage?).1) (enforcer.misses (.load storage?)) := by
  cases storage? with
  | none => exact .missed rfl
  | some storage =>
      simp only [load, misses, Storage.load]
      cases storage.kind.immediate with
      | false => exact .missed rfl
      | true =>
          cases storage.obstacle? .load with
          | some error => exact enforcer.accounts_refused _ _ _
          | none => exact enforcer.accounts_install storage.label storage.lines

theorem accounts_read (storage? : Option Storage) :
    Accounts enforcer.storageFaults (enforcer.read storage?).2.storageFaults
      (Answer.isStorageFault (enforcer.read storage?).1) (enforcer.misses (.read storage?)) := by
  cases storage? with
  | none => exact .missed rfl
  | some storage =>
      simp only [read, misses]
      cases storage.load.1 with
      | error error => exact enforcer.accounts_refused _ _ _
      | ok lines => exact .silent rfl

theorem accounts_saveTo (storage : Storage) :
    Accounts enforcer.storageFaults enforcer.storageFaults
      (Answer.isStorageFault (enforcer.saveTo storage).1) (storage.obstacle? .save).isSome := by
  unfold saveTo Storage.save
  cases storage.obstacle? .save with
  | some error => exact .missed rfl
  | none =>
      cases storage.kind.immediate <;> exact .silent rfl

theorem evaluate_apart (selection : Selection) (values : List Value) (explain : Bool) :
    Answer.isStorageFault (enforcer.evaluate selection values explain).1 = false := by
  by_cases stumbles : enforcer.Stumbles selection values
  · rw [evaluate_of_stumbles stumbles]
    rfl
  · have evaluated : ∀ row ∈ enforcer.metRows selection values,
        Evaluated (selection.evaluation enforcer.function? values row) := fun row met =>
      Matcher.evaluated_of_not_stumbles fun onRow => stumbles ⟨row, met, onRow⟩
    obtain ⟨decision, made, -⟩ := evaluate_meaning evaluated explain
    rw [made]
    rfl

theorem decide_apart (context : EnforceContext) (values : List Value) (explain : Bool) :
    Answer.isStorageFault (enforcer.decide context values explain).1 = false := by
  rw [decide_fst]
  split
  · rfl
  · split
    · split
      · rw [evaluateCached_fst]
        split
        · rfl
        · exact enforcer.evaluate_apart _ values false
      · exact enforcer.evaluate_apart _ values explain
    · rfl

theorem compile_apart (text : String) (fields functions : Option (List String)) :
    Answer.isStorageFault (Matcher.compile text fields functions) = false := by
  unfold Matcher.compile
  refine Answer.isStorageFault_bind ?_ fun found => ?_
  · cases made : Matcher.read text with
    | ok found => rfl
    | error failure =>
        obtain ⟨cause, rfl⟩ := Model.read_error made
        rfl
  · simp only
    split
    · rfl
    · split <;> rfl

theorem compileMatchers_apart (functions : Entries String CustomFunction) (model : Model) :
    Answer.isStorageFault (compileMatchers functions model) = false := by
  refine Answer.isStorageFault_mapM (fun entry => ?_) _
  refine Answer.isStorageFault_bind ?_ fun fields => Answer.isStorageFault_bind ?_ fun _ => rfl
  · unfold Model.matcherFields
    split
    · exact Answer.isStorageFault_mapError (fun _ => rfl) _
    · rfl
  · exact compile_apart _ _ _

theorem tried_apart {result : Answer Enforcer} (apart : Answer.isStorageFault result = false) :
    Answer.isStorageFault (enforcer.tried result).1 = false := by
  cases result with
  | ok adjusted => rfl
  | error failure => exact apart

theorem adjust_apart (adjustment : Adjustment) :
    Answer.isStorageFault (enforcer.adjust adjustment).1 = false := by
  cases adjustment with
  | matchNames | matchDomains =>
      exact enforcer.tried_apart (Answer.isStorageFault_mapError (fun _ => rfl) _)
  | loadModel model =>
      refine enforcer.tried_apart ?_
      refine Answer.isStorageFault_bind (compileMatchers_apart _ _) fun matchers => ?_
      simp only
      split <;> rfl
  | _ => rfl

theorem accounts_act (act : Act) :
    Accounts enforcer.storageFaults (enforcer.act act).2.storageFaults (enforcer.surfaces act)
      (enforcer.misses act) := by
  cases act with
  | decide context values explain =>
      unfold surfaces
      simp only [Enforcer.act, Answer.isStorageFault_map, decide_apart]
      exact .silent (enforcer.reading_decide (by decide) context values explain)
  | answer question =>
      unfold surfaces
      simp only [Enforcer.act, Answer.isStorageFault_map, misses]
      cases Answer.isStorageFault (enforcer.answer question).1 with
      | false => exact .silent (enforcer.reading_answer question)
      | true => exact .missed (enforcer.reading_answer question)
  | adjust adjustment =>
      unfold surfaces
      simp only [Enforcer.act, adjust_apart]
      exact .silent (enforcer.reading_adjust adjustment)
  | mutate follow storage? mutation =>
      unfold surfaces
      simp only [Enforcer.act, Answer.isStorageFault_map]
      exact enforcer.accounts_mutateBy follow storage? mutation
  | load storage? => exact enforcer.accounts_load storage?
  | read storage? => exact enforcer.accounts_read storage?
  | take label lines => exact enforcer.accounts_install label lines
  | save storage? =>
      cases storage? with
      | none => exact .missed rfl
      | some storage =>
          unfold surfaces
          simp only [Enforcer.act, save, misses]
          cases storage.kind.immediate with
          | false => exact .missed rfl
          | true => exact enforcer.accounts_saveTo storage
  | saveDeferred storage? =>
      cases storage? with
      | none => exact .missed rfl
      | some storage => exact enforcer.accounts_saveTo storage
  | watcherFails =>
      exact .silent (enforcer.reading_record (Metrics.spares_increment (by decide)))

end

theorem tally_eq_zero_iff (property : Enforcer → Act → Bool) (enforcer : Enforcer)
    (acts : List Act) : enforcer.tally property acts = 0 ↔
      ∀ earlier act later, acts = earlier ++ act :: later →
        property (enforcer.runActs earlier) act = false := by
  induction acts generalizing enforcer with
  | nil => simp [tally]
  | cons first acts ih =>
      rw [tally, Nat.add_eq_zero_iff, ih, Bool.toNat_eq_zero]
      constructor
      · rintro ⟨now, rest⟩ earlier act later split
        cases earlier with
        | nil =>
            cases split
            exact now
        | cons other earlier =>
            cases split
            exact rest earlier act later rfl
      · intro never
        exact ⟨never [] first acts rfl, fun earlier act later split =>
          never (first :: earlier) act later (congrArg (first :: ·) split)⟩

/-- What a run adds to the count, with what it misses to count, is what it surfaces. -/
theorem storageFaults_runActs {enforcer : Enforcer} {before : Nat}
    (counted : enforcer.storageFaults = some (.count before)) (acts : List Act) :
    ∃ after, (enforcer.runActs acts).storageFaults = some (.count after) ∧
      after + enforcer.tally misses acts = before + enforcer.tally surfaces acts := by
  induction acts generalizing enforcer before with
  | nil => exact ⟨before, counted, rfl⟩
  | cons act acts ih =>
      have accounts := enforcer.accounts_act act
      rw [counted] at accounts
      rw [tally, tally]
      generalize enforcer.surfaces act = surfaced, enforcer.misses act = missed at accounts ⊢
      cases accounts with
      | silent same =>
          obtain ⟨after, read, sum⟩ := ih same
          exact ⟨after, read, by simpa using sum⟩
      | counted more =>
          obtain ⟨after, read, sum⟩ := ih more
          exact ⟨after, read, by simp; omega⟩
      | missed same =>
          obtain ⟨after, read, sum⟩ := ih same
          exact ⟨after, read, by simp; omega⟩

/-- Metrics that are new to an enforcer count the storage's faults that it surfaces, but for the
missed ones. So they count every one exactly if no act of the run misses one. -/
theorem counts_iff_misses_none {settings : Settings} {functions : Entries String CustomFunction}
    {metrics : Metrics} {model : Model} {start : Enforcer}
    (built : build settings functions (some metrics) model = .ok start)
    (unused : metrics.amount Metric.errors (some Category.adapter.code) = .count 0)
    (acts : List Act) :
    ∃ count,
      (start.runActs acts).reading Metric.errors (some Category.adapter.code) =
        some (.count count) ∧
      count + start.tally misses acts = start.tally surfaces acts ∧
      (count = start.tally surfaces acts ↔
        ∀ earlier act later, acts = earlier ++ act :: later →
          (start.runActs earlier).misses act = false) := by
  have atStart : start.storageFaults = some (.count 0) := by
    rw [storageFaults, reading, metrics?_build built, Option.map_some, unused]
  obtain ⟨count, read, sum⟩ := storageFaults_runActs atStart acts
  rw [Nat.zero_add] at sum
  refine ⟨count, read, sum, ?_⟩
  rw [← tally_eq_zero_iff, ← sum]
  exact Nat.left_eq_add

namespace Sample

def broken : Option Storage :=
  some (.ofLines (.failing "storage unavailable") [])

def storm : List Act :=
  [.load broken, .mutate persist broken (.add "p" [.text "staff", .text "allow"]),
    .mutate persist broken (.add "p" [.text "staff"]), .read broken]

end Sample

/-- All faults of the storage are counted as long as nothing is saved. -/
theorem counts_iff_misses_none_storm :
    (Sample.measured.runActs Sample.storm).reading Metric.errors
        (some Category.adapter.code) = some (.count 3) ∧
      ∃ count, (Sample.measured.runActs (Sample.storm ++ [.save Sample.broken])).reading
          Metric.errors (some Category.adapter.code) = some (.count count) ∧ count + 1 = 4 := by
  constructor
  · obtain ⟨count, read, -, all⟩ :=
      counts_iff_misses_none Sample.build_measured (by decide) Sample.storm
    rw [read, all.mpr]
    · decide +kernel
    · exact (tally_eq_zero_iff misses _ _).mp (by decide +kernel)
  · obtain ⟨count, read, sum, -⟩ := counts_iff_misses_none Sample.build_measured (by decide)
      (Sample.storm ++ [.save Sample.broken])
    have missed : Sample.measured.tally misses (Sample.storm ++ [.save Sample.broken]) = 1 := by
      decide +kernel
    have surfaced :
        Sample.measured.tally surfaces (Sample.storm ++ [.save Sample.broken]) = 4 := by
      decide +kernel
    rw [missed, surfaced] at sum
    exact ⟨count, read, sum⟩

/-- A save that fails is surfaced and not counted. -/
theorem not_counted_broken :
    build Sample.measured.settings [] (some (.start "enforcer")) Sample.model =
      .ok Sample.measured ∧
    (Sample.measured.act (.save Sample.broken)).1 =
      .error (.storage ⟨"FailingAdapter", .failed "storage unavailable" "save_policy"⟩) ∧
    Sample.measured.tally surfaces [.save Sample.broken] = 1 ∧
    (Sample.measured.runActs [.save Sample.broken]).reading Metric.errors
      (some Category.adapter.code) = some (.count 0) :=
  ⟨Sample.build_measured, rfl, by decide +kernel⟩

end Enforcer

end AccessControl
