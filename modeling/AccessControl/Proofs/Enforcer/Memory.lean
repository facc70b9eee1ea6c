import AccessControl.Proofs.DecisionCache
import AccessControl.Proofs.Enforcer.Decision
import AccessControl.Proofs.Enforcer.Sound
import AccessControl.Proofs.RequestKey

namespace AccessControl.Enforcer

/-- The decision on a request when none is remembered. -/
def fresh (enforcer : Enforcer) (context : EnforceContext) (values : List Value) :
    Answer Bool :=
  match enforcer.select context values with
  | .error fault => .error (.enforce fault)
  | .ok selection => (enforcer.evaluate selection values false).1.map (·.allowed)

structure SameBasis (before after : Enforcer) : Prop where
  model : after.model = before.model
  matchers : after.matchers = before.matchers
  functions : after.functions = before.functions
  graphs : after.graphs = before.graphs
  rows : ∀ key, after.table.rows key = before.table.rows key

theorem SameBasis.refl (enforcer : Enforcer) : SameBasis enforcer enforcer :=
  ⟨rfl, rfl, rfl, rfl, fun _ => rfl⟩

theorem SameBasis.trans {first second third : Enforcer} (before : SameBasis first second)
    (after : SameBasis second third) : SameBasis first third :=
  ⟨after.model.trans before.model, after.matchers.trans before.matchers,
    after.functions.trans before.functions, after.graphs.trans before.graphs,
    fun key => (after.rows key).trans (before.rows key)⟩

theorem select_congr {before after : Enforcer} (model : after.model = before.model)
    (matchers : after.matchers = before.matchers) (context : EnforceContext)
    (values : List Value) : after.select context values = before.select context values := by
  unfold select select?
  rw [model, matchers]

section

variable {before after : Enforcer} (same : SameBasis before after)
include same

theorem SameBasis.select_eq (context : EnforceContext) (values : List Value) :
    after.select context values = before.select context values :=
  select_congr same.model same.matchers context values

theorem SameBasis.function?_eq : after.function? = before.function? := by
  funext name
  unfold function?
  rw [same.model, same.graphs, same.functions]

theorem SameBasis.evaluate_eq (selection : Selection) (values : List Value)
    (explain : Bool) :
    (after.evaluate selection values explain).1 =
      (before.evaluate selection values explain).1 := by
  rw [evaluate_fst, evaluate_fst, same.function?_eq, same.rows]

theorem SameBasis.fresh_eq (context : EnforceContext) (values : List Value) :
    after.fresh context values = before.fresh context values := by
  unfold fresh
  rw [same.select_eq]
  cases before.select context values with
  | error fault => rfl
  | ok selection => simp only [same.evaluate_eq]

end

theorem sameBasis_record (enforcer : Enforcer) (change : Metrics → Metrics) :
    SameBasis enforcer (enforcer.record change) :=
  ⟨rfl, rfl, rfl, rfl, fun _ => rfl⟩

/-- Whether an entry is the decision that is made now on a request with its key. -/
def Holds (enforcer : Enforcer) (entry : String × Bool) : Prop :=
  ∃ context values, requestKey? context.key values = some entry.1 ∧
    enforcer.fresh context values = .ok entry.2

def Truthful (enforcer : Enforcer) : Prop :=
  ∀ entry ∈ enforcer.cache.entries, enforcer.Holds entry

/-- Nothing that decisions depend on has changed, and every new entry of the cache
holds. -/
structure Kept (before after : Enforcer) : Prop where
  basis : SameBasis before after
  entries : ∀ entry ∈ after.cache.entries,
    entry ∈ before.cache.entries ∨ before.Holds entry

theorem Kept.refl (enforcer : Enforcer) : Kept enforcer enforcer :=
  ⟨.refl enforcer, fun _ old => .inl old⟩

theorem Kept.record {before after : Enforcer} (kept : Kept before after)
    (change : Metrics → Metrics) : Kept before (after.record change) :=
  ⟨kept.basis.trans (sameBasis_record after change), kept.entries⟩

theorem Truthful.of_kept {before after : Enforcer} (truthful : before.Truthful)
    (kept : Kept before after) : after.Truthful := by
  intro entry member
  have holds : before.Holds entry := by
    rcases kept.entries entry member with old | new
    · exact truthful entry old
    · exact new
  obtain ⟨context, values, spelled, decided⟩ := holds
  exact ⟨context, values, spelled, (kept.basis.fresh_eq context values).trans decided⟩

theorem truthful_of_empty {enforcer : Enforcer} (empty : enforcer.cache.entries = []) :
    enforcer.Truthful := by
  intro entry member
  rw [empty] at member
  cases member

theorem kept_evaluateCached {enforcer : Enforcer} {context : EnforceContext}
    {selection : Selection} {values : List Value} {key : String}
    (selected : enforcer.select context values = .ok selection)
    (spelled : requestKey? context.key values = some key) :
    Kept enforcer (enforcer.evaluateCached selection values key).2.1 := by
  let asked := { enforcer with cache := (enforcer.cache.get key).2 }.record fun metrics =>
    metrics.recordCacheLookup (enforcer.cache.get key).1.isSome
  have keptAsked : Kept enforcer asked :=
    ⟨⟨rfl, rfl, rfl, rfl, fun _ => rfl⟩, fun entry member =>
      .inl (DecisionCache.mem_get member)⟩
  obtain ⟨change, left⟩ := evaluate_snd asked selection values false
  have evaluated := keptAsked.basis.evaluate_eq selection values false
  unfold evaluateCached
  simp only
  split
  · exact keptAsked
  · split
    · next decision after invocations made =>
        change asked.evaluate selection values false = _ at made
        rw [made] at left evaluated
        simp only at left evaluated
        subst left
        refine ⟨⟨rfl, rfl, rfl, rfl, fun _ => rfl⟩, fun entry member => ?_⟩
        rcases DecisionCache.mem_put member with rfl | old
        · refine .inr ⟨context, values, spelled, ?_⟩
          unfold fresh
          rw [selected]
          simp only
          rw [← evaluated]
          rfl
        · exact keptAsked.entries entry old
    · next failed made =>
        change Kept enforcer (asked.evaluate selection values false).2.1
        rw [left]
        exact keptAsked.record change

theorem kept_decide (enforcer : Enforcer) (context : EnforceContext)
    (values : List Value) (explain : Bool) :
    Kept enforcer (enforcer.decide context values explain).2.1 := by
  rcases enforcer.decide_cases context values explain with
    ⟨change, left⟩ | ⟨selection, key, change, selected, spelled, left⟩
  · rw [left]
    exact (Kept.refl enforcer).record change
  · rw [left]
    simp only [cacheKey?, Option.ite_none_right_eq_some] at spelled
    exact (kept_evaluateCached selected spelled.2).record change

/-- Either nothing that matters has changed, or all decisions are forgotten. -/
def KeptOrForgotten (before after : Enforcer) : Prop :=
  Kept before after ∨ after.cache.entries = []

theorem keptOrForgotten_mutate (enforcer : Enforcer) (storage? : Option Storage)
    (mutation : Mutation Fields) :
    KeptOrForgotten enforcer (enforcer.mutate storage? mutation).2.1 := by
  unfold mutate
  rcases enforcer.mutateBy_cases persist storage? mutation with
    ⟨change, -, -, left⟩ | ⟨-, same | failed⟩
  · rw [left]
    exact .inr rfl
  · rw [same]
    exact .inl (.refl enforcer)
  · rw [failed]
    exact .inl ((Kept.refl enforcer).record _)

theorem kept_answer (enforcer : Enforcer) (question : Question) :
    Kept enforcer (enforcer.answer question).2 := by
  rcases enforcer.answer_snd question with same | ⟨_, _, _, _, table, looked, left⟩
  · rw [same]
    exact .refl enforcer
  · rw [left]
    exact ⟨⟨rfl, rfl, rfl, rfl, (PolicyTable.same_withField looked).2⟩, fun _ old => .inl old⟩

theorem keptOrForgotten_adjust (enforcer : Enforcer) (adjustment : Adjustment) :
    KeptOrForgotten enforcer (enforcer.adjust adjustment).2 := by
  have kept : KeptOrForgotten enforcer enforcer := .inl (.refl enforcer)
  cases adjustment with
  | enableCache | clear | rebuildLinks => exact .inr rfl
  | matchNames | matchDomains =>
      refine of_tried kept fun changed done => ?_
      obtain ⟨_, _, -, rfl⟩ := withMatching_eq_ok (Answer.mapError_eq_ok.mp done)
      exact .inr rfl
  | loadModel model =>
      refine of_tried kept fun changed done => ?_
      obtain ⟨matchers, table, graphs, -, -, rfl⟩ := loadModel_eq_ok done
      exact .inr rfl
  | _ => exact .inl ⟨⟨rfl, rfl, rfl, rfl, fun _ => rfl⟩, fun _ old => .inl old⟩

theorem keptOrForgotten_install (enforcer : Enforcer) (label : String)
    (lines : Lines) : KeptOrForgotten enforcer (enforcer.install label lines).2 := by
  rcases enforcer.install_snd label lines with same | ⟨table, graphs, -, left⟩
  · rw [same]
    exact .inl (.refl enforcer)
  · rw [left]
    exact .inr rfl

theorem keptOrForgotten_load (enforcer : Enforcer) (storage? : Option Storage) :
    KeptOrForgotten enforcer (enforcer.load storage?).2.1 := by
  rcases enforcer.load_snd storage? with same | failed | ⟨label, lines, left⟩
  · rw [same]
    exact .inl (.refl enforcer)
  · rw [failed]
    exact .inl ((Kept.refl enforcer).record _)
  · rw [left]
    exact keptOrForgotten_install enforcer label lines

theorem keptOrForgotten_after (enforcer : Enforcer) (event : Event) :
    KeptOrForgotten enforcer (enforcer.after event) := by
  cases event with
  | decide context values explain =>
      exact .inl (kept_decide enforcer context values explain)
  | mutate storage? mutation =>
      exact keptOrForgotten_mutate enforcer storage? mutation
  | answer question => exact .inl (kept_answer enforcer question)
  | adjust adjustment => exact keptOrForgotten_adjust enforcer adjustment
  | load storage? => exact keptOrForgotten_load enforcer storage?
  | install label lines => exact keptOrForgotten_install enforcer label lines
  | fail code => exact .inl ((Kept.refl enforcer).record _)

theorem Reachable.truthful {enforcer : Enforcer} (reachable : Reachable enforcer) :
    enforcer.Truthful := by
  induction reachable with
  | built _ done =>
      obtain ⟨matchers, -, whole⟩ := Answer.bind_eq_ok.mp done
      cases whole
      exact truthful_of_empty rfl
  | @after enforcer _ event _ ih =>
      rcases keptOrForgotten_after enforcer event with kept | forgotten
      · exact ih.of_kept kept
      · exact truthful_of_empty forgotten

/-- Whether no value is an undefined number. -/
def AllDefined (values : List Value) : Prop :=
  ∀ value ∈ values, value.isUndefined = false

theorem Sound.keyed_of_select {enforcer : Enforcer} (sound : enforcer.Sound)
    {context : EnforceContext} {values : List Value} {selection : Selection}
    (selected : enforcer.select context values = .ok selection) : context.Keyed := by
  have keyed := sound.read.keyed
  have selects := selects_of_select selected
  obtain ⟨effect, effects, -⟩ := selects.effect
  have member : context.matcher ∈ Entries.keys enforcer.model.matchers := by
    rw [← sound.matchers]
    exact Entries.mem_keys_of_lookup selects.matcher
  obtain ⟨entry, inside, same⟩ := List.mem_map.mp member
  exact ⟨(keyed.requests _ (Entries.mem_of_lookup selects.request)).isKey,
    (keyed.policies _ (Entries.mem_of_lookup selects.policy)).isKey,
    (keyed.effects _ (Entries.mem_of_lookup effects)).isKey,
    same ▸ (keyed.matchers entry inside).isKey⟩

theorem select_of_fresh {enforcer : Enforcer} {context : EnforceContext}
    {values : List Value} {allowed : Bool}
    (decided : enforcer.fresh context values = .ok allowed) :
    ∃ selection, enforcer.select context values = .ok selection := by
  unfold fresh at decided
  split at decided
  · cases decided
  · next selection selected => exact ⟨selection, selected⟩

/-- An entry is the decision on every request with its key, if the request has no
undefined numbers. -/
theorem Reachable.fresh_of_entry {enforcer : Enforcer} (reachable : Reachable enforcer)
    {context : EnforceContext} {values : List Value} {selection : Selection}
    (selected : enforcer.select context values = .ok selection)
    (defined : AllDefined values) {key : String} {allowed : Bool}
    (spelled : requestKey? context.key values = some key)
    (member : (key, allowed) ∈ enforcer.cache.entries) :
    enforcer.fresh context values = .ok allowed := by
  -- The entry was made for some request; the key says that it was this one.
  obtain ⟨other, others, spelledOther, decided⟩ :=
    reachable.truthful (key, allowed) member
  obtain ⟨selectionOther, selectedOther⟩ := select_of_fresh decided
  obtain ⟨keys, alike⟩ := RequestKey.of_requestKey?_eq spelled spelledOther
  have contexts := EnforceContext.key_inj (reachable.sound.keyed_of_select selected)
    (reachable.sound.keyed_of_select selectedOther) keys
  rw [contexts, RequestKey.eq_of_alike alike defined]
  exact decided

end AccessControl.Enforcer
