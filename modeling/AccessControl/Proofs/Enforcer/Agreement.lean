import AccessControl.Proofs.Enforcer.Loading
import AccessControl.Proofs.Enforcer.Rebuilt

namespace AccessControl

theorem Lines.nodup_under {lines : Lines} (distinct : lines.Nodup) (key : String) :
    (lines.under key).Nodup := by
  refine List.Nodup.map_on ?_ (distinct.filter _)
  intro line member other memberOther same
  have here := eq_of_beq (List.mem_filter.mp member).2
  have there := eq_of_beq (List.mem_filter.mp memberOther).2
  obtain ⟨place, fields⟩ := line
  obtain ⟨otherPlace, otherFields⟩ := other
  cases here
  cases (there : otherPlace = place)
  cases (same : fields = otherFields)
  rfl

namespace Enforcer

/-- The enforcers have the same set-up, and differ in their rows at most, and in what they
make of them. -/
structure SameKind (first second : Enforcer) : Prop where
  settings : second.settings = first.settings
  switches : second.switches = first.switches
  functions : second.functions = first.functions
  matchings : second.matchings = first.matchings
  model : second.model = first.model
  matchers : second.matchers = first.matchers

theorem SameKind.symm {first second : Enforcer} (same : SameKind first second) :
    SameKind second first :=
  ⟨same.settings.symm, same.switches.symm, same.functions.symm, same.matchings.symm,
    same.model.symm, same.matchers.symm⟩

theorem SameKind.trans {first second third : Enforcer} (before : SameKind first second)
    (after : SameKind second third) : SameKind first third :=
  ⟨after.settings.trans before.settings, after.switches.trans before.switches,
    after.functions.trans before.functions, after.matchings.trans before.matchings,
    after.model.trans before.model, after.matchers.trans before.matchers⟩

theorem sameKind_commit (enforcer : Enforcer) (change : Mutation Row) :
    SameKind enforcer (enforcer.commit change) := by
  rw [commit_eq]
  exact ⟨rfl, rfl, rfl, rfl, rfl, rfl⟩

theorem sameKind_install (enforcer : Enforcer) (label : String) (lines : Lines) :
    SameKind enforcer (enforcer.install label lines).2 := by
  rcases enforcer.install_snd label lines with same | ⟨table, graphs, -, installed⟩
  · rw [same]
    exact ⟨rfl, rfl, rfl, rfl, rfl, rfl⟩
  · rw [installed]
    exact ⟨rfl, rfl, rfl, rfl, rfl, rfl⟩

theorem sameKind_load (enforcer : Enforcer) (storage? : Option Storage) :
    SameKind enforcer (enforcer.load storage?).2.1 := by
  rcases enforcer.load_snd storage? with same | failed | ⟨label, lines, left⟩
  · rw [same]
    exact ⟨rfl, rfl, rfl, rfl, rfl, rfl⟩
  · rw [failed]
    exact ⟨rfl, rfl, rfl, rfl, rfl, rfl⟩
  · rw [left]
    exact enforcer.sameKind_install label lines

/-- What is kept at an enforcer that shares a storage in memory with others: the storage
holds its rows, its links are those of its rows, and it remembers no decision. -/
structure InTune (storage : Storage) (enforcer : Enforcer) : Prop where
  mirrored : enforcer.Mirrored storage
  linked : enforcer.Linked
  exact : enforcer.matchings = []
  forgotten : enforcer.cache.entries = []

section

variable {enforcer : Enforcer} {storage : Storage}

theorem readable_memory (memory : storage.kind = .memory) : Readable (some storage) := by
  refine ⟨storage, rfl, ?_, ?_⟩
  · rw [memory]
    rfl
  · rw [Storage.obstacle?, memory]
    rfl

theorem forgotten_install {label : String} {lines : Lines}
    (done : (enforcer.install label lines).1 = .ok ()) :
    (enforcer.install label lines).2.cache.entries = [] := by
  obtain ⟨table, graphs, -, left⟩ := enforcer.install_eq_ok done
  rw [left]
  rfl

theorem forgotten_load (memory : storage.kind = .memory)
    (loaded : (enforcer.load (some storage)).1 = .ok ()) :
    (enforcer.load (some storage)).2.1.cache.entries = [] := by
  rw [load_memory enforcer memory] at loaded ⊢
  exact forgotten_install loaded

theorem decide_of_forgotten (forgotten : enforcer.cache.entries = [])
    (context : EnforceContext) (values : List Value) (explain : Bool) :
    (enforcer.decide context values explain).1 =
      enforcer.decideAnew context values explain := by
  rw [decide_fst]
  unfold decideAnew
  cases enforcer.select context values with
  | error fault => rfl
  | ok selection =>
      simp only
      cases spelled : enforcer.cacheKey? context values explain with
      | none => rfl
      | some key =>
          simp only [cacheKey?, Option.ite_none_right_eq_some, Bool.and_eq_true,
            Bool.not_eq_true'] at spelled
          simp only [spelled.1.2, evaluateCached_fst, forgotten, List.lookup_nil]

theorem total_of_exact (exact : enforcer.matchings = []) : enforcer.TotalMatchings := by
  intro role scope _
  unfold newGraph
  rw [exact]
  exact ⟨nofun, nofun⟩

end

section

variable {enforcer : Enforcer} {storage : Storage} (tuned : enforcer.InTune storage)
include tuned

theorem InTune.of_sameLines {other : Storage} (same : storage.SameLines other) :
    enforcer.InTune other :=
  ⟨tuned.mirrored.of_sameLines same, tuned.linked, tuned.exact, tuned.forgotten⟩

theorem InTune.mutate {mutation : Mutation Fields} (plain : mutation.Plain) :
    (∃ changed later, enforcer.mutate (some storage) mutation = (.ok true, changed, some later) ∧
      changed.InTune later ∧ SameKind enforcer changed) ∨
    ((enforcer.mutate (some storage) mutation).1 ≠ .ok true ∧
      (enforcer.mutate (some storage) mutation).2 = (enforcer, some storage)) := by
  obtain ⟨later, followed, mirrored⟩ := tuned.mirrored.mutate plain
  have linked := stable_linked.mutate tuned.linked (some storage) mutation
  rcases mutate_memory tuned.mirrored.saves tuned.mirrored.memory mutation with
    ⟨change, -, made⟩ | unchanged
  · left
    rw [made] at followed mirrored linked
    cases followed
    have same := enforcer.sameKind_commit change
    exact ⟨_, _, made, ⟨mirrored, linked, same.matchings.trans tuned.exact,
      (enforcer.committed_commit change).cache⟩, same⟩
  · exact .inr unchanged

theorem InTune.load {first : Enforcer} {later : Storage} (ahead : first.InTune later)
    (same : SameKind first enforcer) :
    ∃ reloaded last, enforcer.load (some later) = (.ok (), reloaded, some last) ∧
      later.SameLines last ∧ reloaded.InTune last ∧ SameKind enforcer reloaded := by
  have memory := ahead.mirrored.memory
  obtain ⟨loaded, rows⟩ := @load_of_holds enforcer later first.table.rows
    (readable_memory memory) ahead.mirrored.holds
    (by rw [same.model]; exact ahead.mirrored.reachable.fitting)
    (by rw [same.settings]; exact ahead.mirrored.reachable.nodup_rows)
  have kind := enforcer.sameKind_load (some later)
  have reachable := tuned.mirrored.reachable.after (.load (some later)) trivial
  have linked := stable_linked.load tuned.linked (some later)
  have forgotten := forgotten_load memory loaded
  obtain ⟨last, left, lines⟩ := enforcer.load_storage later
  refine ⟨_, last, Prod.ext loaded (Prod.ext rfl left), lines, ?_, kind⟩
  refine ⟨⟨reachable, ?_, ?_, lines.kind.trans memory, ?_⟩, linked,
    kind.matchings.trans tuned.exact, forgotten⟩
  · exact kind.model ▸ tuned.mirrored.defined
  · exact kind.switches ▸ tuned.mirrored.saves
  · refine (mirrors_iff reachable.fitting).mpr fun key => ?_
    have held := ahead.mirrored.holds key
    rw [← rows key, ← lines.lines] at held
    exact held

end

/-- The enforcers store the same rows in the same order, their role graphs hold the same
links, and they decide every request identically. -/
structure Agree (first second : Enforcer) : Prop where
  rows : ∀ key, second.table.rows key = first.table.rows key
  links : ∀ ⦃role scope⦄, first.model.roles.lookup role = some scope →
    ∃ graph other, first.graphs.lookup role = some graph ∧
      second.graphs.lookup role = some other ∧
      ∀ subject target domain, other.links.Has subject target domain ↔
        graph.links.Has subject target domain
  decisions : ∀ context values explain,
    (second.decide context values explain).1 = (first.decide context values explain).1

theorem InTune.agree {storage : Storage} {first second : Enforcer}
    (tuned : first.InTune storage) (tunedSecond : second.InTune storage)
    (same : SameKind first second) : Agree first second := by
  have rows : ∀ key, second.table.rows key = first.table.rows key := fun key =>
    Lines.fieldsOf_inj
      ((tunedSecond.mirrored.holds key).under_eq.symm.trans (tuned.mirrored.holds key).under_eq)
  have akin : Akin first second :=
    ⟨same.settings, congrArg Switches.enabled same.switches, same.functions, same.matchings,
      same.model, same.matchers, fun key _ => rows key, fun key row => by rw [rows key]⟩
  have undisturbed : ∀ {enforcer : Enforcer}, enforcer.InTune storage →
      enforcer.Undisturbed := by
    intro enforcer own
    refine undisturbed_of_exact own.linked fun role => ?_
    rw [own.exact]
    rfl
  have answers := akin.answersAlike tuned.linked tunedSecond.linked (total_of_exact tuned.exact)
    (undisturbed tuned) (undisturbed tunedSecond)
  refine ⟨rows, ?_, ?_⟩
  · intro role scope declared
    obtain ⟨graph, there, isGraph⟩ := tuned.linked.graph declared
    obtain ⟨other, thereOther, isOther⟩ := tunedSecond.linked.graph (same.model ▸ declared)
    refine ⟨graph, other, there, thereOther, fun subject target domain => ?_⟩
    rw [isOther.links.has_iff, isGraph.links.has_iff, rows role]
  · intro context values explain
    rw [decide_of_forgotten tuned.forgotten, decide_of_forgotten tunedSecond.forgotten]
    exact akin.decideAnew_eq answers context values explain

theorem sameKind_of_built {settings : Settings} {functions : Entries String CustomFunction}
    {metrics? otherMetrics? : Option Metrics} {model : Model} {first second : Enforcer}
    (isFirst : build settings functions metrics? model = .ok first)
    (isSecond : build settings functions otherMetrics? model = .ok second) :
    SameKind first second := by
  obtain ⟨matchers, compiled, whole⟩ := Answer.bind_eq_ok.mp isFirst
  obtain ⟨others, compiledAgain, wholeAgain⟩ := Answer.bind_eq_ok.mp isSecond
  cases compiled.symm.trans compiledAgain
  cases whole
  cases wholeAgain
  exact ⟨rfl, rfl, rfl, rfl, rfl, rfl⟩

section

variable {settings : Settings} {functions : Entries String CustomFunction}
  {metrics? : Option Metrics} {model : Model} {built loaded : Enforcer} {storage last : Storage}

theorem switches_of_built
    (isBuilt : build settings functions metrics? model = .ok built) :
    built.switches = settings.switches ∧ built.matchings = [] ∧ built.model = model := by
  obtain ⟨matchers, -, whole⟩ := Answer.bind_eq_ok.mp isBuilt
  cases whole
  exact ⟨rfl, rfl, rfl⟩

theorem inTune_of_built (defined : model.Defined) (saves : settings.autoSave = true)
    (links : settings.buildRoleLinks = true)
    (isBuilt : build settings functions metrics? model = .ok built)
    (memory : storage.kind = .memory) (distinct : storage.lines.Nodup)
    (done : built.load (some storage) = (.ok (), loaded, some last)) :
    storage.SameLines last ∧ loaded.InTune last ∧ SameKind built loaded := by
  have takes := built.loads_load (some storage)
  have kind := built.sameKind_load (some storage)
  obtain ⟨later, left, same⟩ := built.load_storage storage
  have forgotten := forgotten_load memory (congrArg Prod.fst done)
  obtain ⟨switches, exact, isModel⟩ := switches_of_built isBuilt
  have linking : Linking built := .built defined.read isBuilt (switches ▸ links)
  have reachable := linking.reachable.after (.load (some storage)) trivial
  have linked := stable_linked.load linking.linked (some storage)
  change Reachable (built.load (some storage)).2.1 at reachable
  rw [done] at takes kind left forgotten reachable linked
  cases left
  have mirrored : loaded.Mirrored storage := by
    refine ⟨reachable, ?_, ?_, memory, (mirrors_iff reachable.fitting).mpr fun key => ?_⟩
    · rw [kind.model, isModel]
      exact defined
    · rw [kind.switches, switches]
      exact saves
    · cases takes with
      | taken able takes =>
          obtain ⟨rows, held, -⟩ := takes key
          have listed : (Lines.fieldsOf rows).Nodup := held ▸ Lines.nodup_under distinct key
          have taken := takes.rows_eq held fun _ => listed.of_map
          exact Lines.holds_of_under_eq (taken ▸ held)
  exact ⟨same, ⟨mirrored.of_sameLines same, linked, kind.matchings.trans exact, forgotten⟩, kind⟩

end

end Enforcer

end AccessControl
