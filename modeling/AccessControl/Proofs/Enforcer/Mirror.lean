import AccessControl.Proofs.Enforcer.Staging

namespace AccessControl

namespace Mutation

/-- All changes but removals of several rows at once. -/
def Plain : Mutation ρ → Prop
  | .removeAll .. => False
  | _ => True

theorem Plain.covered {ε ρ : Type} {f : ρ → Except ε Row} {mutation : Mutation ρ}
    {change : Mutation Row} (plain : mutation.Plain) (done : mutation.read f = .ok change)
    (rows : List Row) : change.Covered rows := by
  cases reads_of_read done with
  | removeAll => exact plain.elim
  | _ => trivial

end Mutation

def Model.Fits (model : Model) (lines : Lines) : Prop :=
  ∀ line ∈ lines, ∃ row, model.readRow line.key line.fields = .ok row

theorem Model.fits_of_holds {model : Model} {lines : Lines} {rows : String → List Row}
    (holds : ∀ key, lines.Holds key (rows key))
    (fit : ∀ key, ∀ row ∈ rows key, model.arity? key = some row.length) : model.Fits lines := by
  intro line inside
  have member := Lines.mem_under.mpr ⟨line, inside, rfl, rfl⟩
  rw [(holds line.key).under_eq] at member
  obtain ⟨row, stored, texts⟩ := List.mem_map.mp member
  exact ⟨row, readRow_eq_ok.mpr ⟨texts.symm, fit line.key row stored⟩⟩

namespace Enforcer

theorem forward_of_admits {table : PolicyTable} {change : Mutation Row}
    (admitted : admits table change = true) : change.Forward := by
  cases change with
  | removeFiltered key filter =>
      simp only [admits, Bool.not_eq_true', List.isEmpty_eq_false_iff] at admitted
      obtain ⟨row, member⟩ := List.exists_mem_of_ne_nil _ admitted
      have accepted := (List.mem_filter.mp member).2
      simp only [RowFilter.accepts, Bool.and_eq_true, decide_eq_true_eq] at accepted
      exact accepted.1.1
  | _ => trivial

/-- A change is made and followed by a storage in memory, or it leaves the enforcer and the
storage. -/
theorem mutate_memory {enforcer : Enforcer} {storage : Storage}
    (saves : enforcer.switches.autoSave = true) (memory : storage.kind = .memory)
    (mutation : Mutation Fields) :
    (∃ change, enforcer.check mutation = .ok (some change) ∧
      enforcer.mutate (some storage) mutation = (.ok true, enforcer.commit change,
        some { storage with lines := change.onLines storage.lines })) ∨
    ((enforcer.mutate (some storage) mutation).1 ≠ .ok true ∧
      (enforcer.mutate (some storage) mutation).2 = (enforcer, some storage)) := by
  unfold mutate mutateBy
  cases checked : enforcer.check mutation with
  | error fault => exact .inr ⟨by simp, rfl⟩
  | ok change? =>
      cases change? with
      | none => exact .inr ⟨by simp, rfl⟩
      | some change =>
          have asked : (enforcer.switches.autoSave && storage.kind.immediate) = true := by
            rw [saves, memory]
            rfl
          have followed := persist_memory memory (forward_of_admits (read_of_check checked).2)
          simp only [if_pos asked, followed]
          exact .inl ⟨change, rfl, rfl⟩

theorem load_storage (enforcer : Enforcer) (storage : Storage) :
    ∃ later, (enforcer.load (some storage)).2.2 = some later ∧ storage.SameLines later := by
  simp only [load]
  split
  · exact ⟨storage, rfl, rfl, rfl⟩
  · unfold Storage.load
    cases storage.obstacle? .load with
    | none => exact ⟨_, rfl, rfl, rfl⟩
    | some error => exact ⟨_, rfl, rfl, rfl⟩

theorem load_memory (enforcer : Enforcer) {storage : Storage}
    (memory : storage.kind = .memory) :
    enforcer.load (some storage) =
      ((enforcer.install storage.label storage.lines).1,
        (enforcer.install storage.label storage.lines).2,
        some { storage with loads := storage.loads + 1 }) := by
  cases storage
  cases memory
  rfl

theorem stage_of_stageRows {enforcer : Enforcer} {model : Model} {lines : Lines}
    {table : PolicyTable}
    (staged : stageRows model (newTable enforcer.settings model) lines = .ok table) :
    ∃ graphs, enforcer.stage model lines = .ok (table, graphs) :=
  ⟨_, Answer.bind_eq_ok.mpr ⟨table, staged, rfl⟩⟩

/-- The lines of each key of the model are the rows of the key, and there are no other
lines. -/
structure Mirrors (enforcer : Enforcer) (lines : Lines) : Prop where
  held : ∀ key ∈ enforcer.model.rowKeys,
    lines.under key = Lines.fieldsOf (enforcer.table.rows key)
  known : ∀ line ∈ lines, line.key ∈ enforcer.model.rowKeys

theorem mirrors_iff {enforcer : Enforcer} (fitting : enforcer.Fitting) {lines : Lines} :
    enforcer.Mirrors lines ↔ ∀ key, lines.Holds key (enforcer.table.rows key) := by
  constructor
  · intro mirrors key
    apply Lines.holds_of_under_eq
    by_cases isKey : key ∈ enforcer.model.rowKeys
    · exact mirrors.held key isKey
    · rw [fitting.rows_eq_nil isKey]
      refine List.eq_nil_iff_forall_not_mem.mpr fun fields member => isKey ?_
      obtain ⟨line, inside, rfl, -⟩ := Lines.mem_under.mp member
      exact mirrors.known line inside
  · intro holds
    refine ⟨fun key _ => (holds key).under_eq, fun line inside => ?_⟩
    have member := Lines.mem_under.mpr ⟨line, inside, rfl, rfl⟩
    rw [(holds line.key).under_eq] at member
    obtain ⟨row, stored, -⟩ := List.mem_map.mp member
    exact fitting.mem_rowKeys stored

theorem under_linesUnder {table : PolicyTable} {keys : List String} (distinct : keys.Nodup)
    {key : String} (member : key ∈ keys) :
    (linesUnder table keys).under key = Lines.fieldsOf (table.rows key) := by
  have split : ∀ first rest, linesUnder table (first :: rest) =
      (table.rows first).map (fun row => (⟨first, row.map .text⟩ : Line)) ++
        linesUnder table rest := fun _ _ => List.flatMap_cons ..
  have own : ∀ first, Lines.under
      ((table.rows first).map fun row => (⟨first, row.map .text⟩ : Line)) key =
        if first = key then Lines.fieldsOf (table.rows first) else [] := by
    intro first
    rw [Lines.under, List.filter_map, List.map_map]
    split
    · next same => simp [Function.comp_def, same, Lines.fieldsOf]
    · next different => simp [Function.comp_def, different]
  have absent : ∀ others, key ∉ others → (linesUnder table others).under key = [] := by
    intro others absent
    induction others with
    | nil => rfl
    | cons first rest ih =>
        rw [List.mem_cons, not_or] at absent
        rw [split, Lines.under_append, own, if_neg (Ne.symm absent.1), ih absent.2]
        rfl
  induction keys with
  | nil => cases member
  | cons first rest ih =>
      obtain ⟨apart, distinct⟩ := List.nodup_cons.mp distinct
      rw [split, Lines.under_append, own]
      rcases List.mem_cons.mp member with rfl | later
      · rw [if_pos rfl, absent rest apart, List.append_nil]
      · have different : first ≠ key := fun same => apart (same.symm ▸ later)
        rw [if_neg different, List.nil_append]
        exact ih distinct later

theorem mirrors_lines {enforcer : Enforcer} (defined : enforcer.model.Defined) :
    enforcer.Mirrors enforcer.lines := by
  refine ⟨fun key member => under_linesUnder defined.nodup_rowKeys member, ?_⟩
  intro line inside
  obtain ⟨key, member, listed⟩ := List.mem_flatMap.mp inside
  obtain ⟨row, -, rfl⟩ := List.mem_map.mp listed
  exact member

theorem save_memory (enforcer : Enforcer) {storage : Storage}
    (memory : storage.kind = .memory) :
    enforcer.save (some storage) =
      (.ok (), some { storage with lines := enforcer.lines }) := by
  simp [Enforcer.save, saveTo, Storage.save, Storage.obstacle?, memory,
    StorageKind.obstacle?, StorageKind.immediate]

theorem Reachable.load_mirrors {enforcer : Enforcer} (reachable : Reachable enforcer)
    {storage : Storage} (memory : storage.kind = .memory)
    (mirrors : enforcer.Mirrors storage.lines) :
    ∃ table graphs, enforcer.stage enforcer.model storage.lines = .ok (table, graphs) ∧
      (∀ key, table.rows key = enforcer.table.rows key) ∧
      enforcer.load (some storage) =
        (.ok (), (enforcer.exchange table graphs).record (recordLoad table),
          some { storage with loads := storage.loads + 1 }) := by
  have holds := (mirrors_iff reachable.fitting).mp mirrors
  obtain ⟨table, taken⟩ :=
    @exists_stageRows _ (newTable enforcer.settings enforcer.model) _
      (Model.fits_of_holds holds reachable.fitting)
  have rows : ∀ key, table.rows key = enforcer.table.rows key := fun key =>
    rows_stageRows_new taken (holds key) fun unique => reachable.nodup_rows unique key
  obtain ⟨graphs, staged⟩ := stage_of_stageRows taken
  refine ⟨table, graphs, staged, rows, ?_⟩
  rw [load_memory enforcer memory, install, staged]

/-- What is kept while a storage in memory is attached to an enforcer that saves every
change to it. -/
structure Mirrored (enforcer : Enforcer) (storage : Storage) : Prop where
  reachable : Reachable enforcer
  defined : enforcer.model.Defined
  saves : enforcer.switches.autoSave = true
  memory : storage.kind = .memory
  mirrors : enforcer.Mirrors storage.lines

namespace Mirrored

variable {enforcer : Enforcer} {storage : Storage} (mirrored : enforcer.Mirrored storage)
include mirrored

theorem of_sameLines {other : Storage} (same : storage.SameLines other) :
    enforcer.Mirrored other :=
  ⟨mirrored.reachable, mirrored.defined, mirrored.saves, same.kind.trans mirrored.memory,
    same.lines ▸ mirrored.mirrors⟩

theorem holds (key : String) : storage.lines.Holds key (enforcer.table.rows key) :=
  (mirrors_iff mirrored.reachable.fitting).mp mirrored.mirrors key

theorem of_rows {later : Enforcer} (reachable : Reachable later)
    (model : later.model = enforcer.model) (switches : later.switches = enforcer.switches)
    (rows : ∀ key, later.table.rows key = enforcer.table.rows key) :
    later.Mirrored storage := by
  refine ⟨reachable, ?_, ?_, mirrored.memory, (mirrors_iff reachable.fitting).mpr ?_⟩
  · rw [model]
    exact mirrored.defined
  · rw [switches]
    exact mirrored.saves
  · intro key
    rw [rows]
    exact mirrored.holds key

theorem after_decide (context : EnforceContext) (values : List Value) (explain : Bool) :
    (enforcer.decide context values explain).2.1.Mirrored storage := by
  have reachable := mirrored.reachable.after (.decide context values explain) trivial
  change Reachable (enforcer.decide context values explain).2.1 at reachable
  obtain ⟨cache, metrics?, left⟩ := enforcer.decide_snd context values explain
  rw [left] at reachable ⊢
  exact mirrored.of_rows reachable rfl rfl fun _ => rfl

theorem after_answer (question : Question) :
    (enforcer.answer question).2.Mirrored storage := by
  have reachable := mirrored.reachable.after (.answer question) trivial
  change Reachable (enforcer.answer question).2 at reachable
  rcases enforcer.answer_snd question with same | ⟨_, _, _, _, table, looked, left⟩
  · rw [same]
    exact mirrored
  · rw [left] at reachable ⊢
    exact mirrored.of_rows reachable rfl rfl (PolicyTable.same_withField looked).2

theorem after_fail (code : String) :
    (enforcer.record (·.recordError code)).Mirrored storage :=
  mirrored.of_rows (mirrored.reachable.after (.fail code) trivial) rfl rfl fun _ => rfl

theorem mutate {mutation : Mutation Fields} (plain : mutation.Plain) :
    ∃ later, (enforcer.mutate (some storage) mutation).2.2 = some later ∧
      (enforcer.mutate (some storage) mutation).2.1.Mirrored later := by
  have reachable := mirrored.reachable.after (.mutate (some storage) mutation) trivial
  change Reachable (enforcer.mutate (some storage) mutation).2.1 at reachable
  rcases mutate_memory mirrored.saves mirrored.memory mutation with
    ⟨change, checked, made⟩ | ⟨-, left⟩
  · rw [made] at reachable ⊢
    obtain ⟨read, admitted⟩ := read_of_check checked
    refine ⟨_, rfl, reachable, ?_, ?_, mirrored.memory, ?_⟩
    · rw [commit_eq]
      exact mirrored.defined
    · rw [commit_eq]
      exact mirrored.saves
    · rw [mirrors_iff reachable.fitting]
      intro key
      rw [table_commit]
      by_cases here : key = change.key
      · subst here
        rw [rows_changeTable mirrored.reachable.sound.table admitted (plain.covered read _)]
        exact Mutation.holds_onLines (forward_of_admits admitted) (mirrored.holds change.key)
      · rw [(sameElsewhere_changeTable enforcer.table change).rows here]
        apply Lines.holds_of_under_eq
        rw [Mutation.under_onLines_of_ne here]
        exact (mirrored.holds key).under_eq
  · rw [left]
    exact ⟨storage, rfl, mirrored⟩

theorem save : ∃ later, enforcer.save (some storage) = (.ok (), some later) ∧
    enforcer.Mirrored later :=
  ⟨_, enforcer.save_memory mirrored.memory, mirrored.reachable, mirrored.defined,
    mirrored.saves, mirrored.memory, mirrors_lines mirrored.defined⟩

theorem load : ∃ reloaded later, enforcer.load (some storage) = (.ok (), reloaded, some later) ∧
    (∀ key, reloaded.table.rows key = enforcer.table.rows key) ∧
    reloaded.Mirrored later := by
  obtain ⟨table, graphs, -, rows, loaded⟩ :=
    mirrored.reachable.load_mirrors mirrored.memory mirrored.mirrors
  have reachable := mirrored.reachable.after (.load (some storage)) trivial
  change Reachable (enforcer.load (some storage)).2.1 at reachable
  rw [loaded] at reachable ⊢
  refine ⟨_, _, rfl, rows, ?_⟩
  exact (mirrored.of_rows reachable rfl rfl rows).of_sameLines ⟨rfl, rfl⟩

end Mirrored

theorem mirrored_staffed : Sample.staffed.Mirrored Sample.storage where
  reachable := .after (Sample.reachable_enforcer none) (.mutate none _) trivial
  defined :=
    ⟨[(.text "r", .text "sub"), (.text "p", .text "sub, eft"), (.text "g", .text "_, _"),
      (.text "e", .text (EffectRule.text .allowAndDeny)),
      (.text "m", .text "g(r.sub, p.sub)")], Answer.eq_ok_of_gives (by decide +kernel)⟩
  saves := rfl
  memory := rfl
  mirrors := by
    have held : Sample.staffed.table.rows "g" = [["bob", "staff"]] ∧
        Sample.staffed.table.rows "p" = [] := by decide +kernel
    constructor
    · intro key isKey
      have either : key = "p" ∨ key = "g" := by
        change key ∈ ["p", "g"] at isKey
        simpa using isKey
      rcases either with rfl | rfl
      · rw [held.2]
        rfl
      · rw [held.1]
        rfl
    · intro line inside
      cases List.mem_singleton.mp inside
      exact List.mem_cons_of_mem _ List.mem_cons_self

end Enforcer

end AccessControl
