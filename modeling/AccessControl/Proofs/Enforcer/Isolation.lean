import AccessControl.Proofs.Enforcer.Agreement
import AccessControl.Proofs.Enforcer.Bindings

namespace AccessControl.Enforcer

structure Walk.Same (walk other : Walk) : Prop where
  stream : other.stream = walk.stream
  ruleErrors : other.ruleErrors = walk.ruleErrors

section

variable {selection : Selection} {before after : String → Option Matcher.Function}
  (agree : ∀ name ∈ selection.matcher.root.functionNames, after name = before name)

include agree

theorem evaluation_agree (values : List Value) (row : Row) :
    selection.evaluation after values row = selection.evaluation before values row := by
  have agrees : (selection.environment after values row).Agrees
      (selection.environment before values row) selection.matcher.root.fieldNames
      selection.matcher.root.functionNames :=
    ⟨fun _ _ => rfl, agree⟩
  unfold Selection.evaluation Matcher.evaluate
  rw [Matcher.Node.evaluate_congr _ agrees]

theorem step_same {walk other : Walk} (same : Walk.Same walk other) (values : List Value)
    (row : Row) (effect : Outcome) :
    (other.step selection.matcher (selection.environment after values row) effect).1 =
        (walk.step selection.matcher (selection.environment before values row) effect).1 ∧
      Walk.Same
        (walk.step selection.matcher (selection.environment before values row) effect).2
        (other.step selection.matcher (selection.environment after values row) effect).2 := by
  have evaluated := evaluation_agree agree values row
  unfold Selection.evaluation at evaluated
  unfold Walk.step
  rw [evaluated]
  obtain ⟨stream, ruleErrors⟩ := same
  cases outcome? (selection.matcher.evaluate
      (selection.environment before values row)) effect with
  | error failure => exact ⟨rfl, stream, ruleErrors⟩
  | ok outcome? =>
      cases outcome? with
      | none => exact ⟨rfl, congrArg (·.push .indeterminate) stream, congrArg (· + 1) ruleErrors⟩
      | some outcome => exact ⟨rfl, congrArg (·.push outcome) stream, ruleErrors⟩

theorem through_same (values : List Value) (rows : List Row) {walk other : Walk}
    (same : Walk.Same walk other) :
    (other.through selection after values rows).1 =
        (walk.through selection before values rows).1 ∧
      Walk.Same (walk.through selection before values rows).2
        (other.through selection after values rows).2 := by
  induction rows generalizing walk other with
  | nil => exact ⟨rfl, same⟩
  | cons row rows ih =>
      obtain ⟨ended, met⟩ := step_same agree same values row (effectOf selection.policy row)
      rw [Walk.through, Walk.through]
      generalize other.step selection.matcher _ _ = second at ended met ⊢
      generalize walk.step selection.matcher _ _ = first at ended met ⊢
      obtain ⟨result, later⟩ := second
      obtain ⟨resultToo, laterToo⟩ := first
      cases ended
      cases result with
      | error failure => exact ⟨rfl, met⟩
      | ok done =>
          have stream : later.stream = laterToo.stream := met.stream
          simp only [stream]
          by_cases finished : laterToo.stream.done = true
          · rw [if_pos finished, if_pos finished]
            exact ⟨rfl, met⟩
          · rw [if_neg finished, if_neg finished]
            exact ih met

theorem walkRows_same (values : List Value) (rows : List Row) :
    (walkRows selection after values rows).1 = (walkRows selection before values rows).1 ∧
      Walk.Same (walkRows selection before values rows).2
        (walkRows selection after values rows).2 := by
  unfold walkRows
  split
  · exact step_same agree ⟨rfl, rfl⟩ values selection.emptyRow .allow
  · exact through_same agree values rows ⟨rfl, rfl⟩

end

/-- Nothing has changed that decisions with a selection depend on. -/
structure SameFor (selection : Selection) (before after : Enforcer) : Prop where
  enabled : after.switches.enabled = before.switches.enabled
  model : after.model = before.model
  matchers : after.matchers = before.matchers
  rows : after.table.rows selection.policyKey = before.table.rows selection.policyKey
  functions : ∀ name ∈ selection.matcher.root.functionNames,
    after.function? name = before.function? name

section

variable {selection : Selection} {before after : Enforcer}

theorem SameFor.evaluate_eq (same : SameFor selection before after) (values : List Value)
    (explain : Bool) :
    (after.evaluate selection values explain).1 =
      (before.evaluate selection values explain).1 := by
  obtain ⟨ended, walked⟩ :=
    walkRows_same same.functions values (before.table.rows selection.policyKey)
  rw [evaluate_fst, evaluate_fst, same.rows, ended, walked.stream, walked.ruleErrors]

theorem SameFor.decideAnew_eq (same : SameFor selection before after)
    {context : EnforceContext} (accepted : before.select? context = some selection)
    (values : List Value) (explain : Bool) :
    after.decideAnew context values explain = before.decideAnew context values explain := by
  refine decideAnew_congr id same.model same.matchers same.enabled fun found selected => ?_
  have whole := (select_eq_ok.mp selected).1
  rw [accepted] at whole
  cases whole
  exact same.evaluate_eq values explain

end

theorem decide_record (enforcer : Enforcer) (change : Metrics → Metrics)
    (context : EnforceContext) (values : List Value) (explain : Bool) :
    ((enforcer.record change).decide context values explain).1 =
      (enforcer.decide context values explain).1 := by
  have same := sameBasis_record enforcer change
  rw [decide_fst, decide_fst, same.select_eq]
  cases enforcer.select context values with
  | error fault => rfl
  | ok selection =>
      simp only [evaluateCached_fst, same.evaluate_eq]
      rfl

theorem decide_explained (enforcer : Enforcer) (context : EnforceContext)
    (values : List Value) :
    (enforcer.decide context values true).1 = enforcer.decideAnew context values true := by
  rw [decide_fst]
  unfold decideAnew
  cases enforcer.select context values with
  | error fault => rfl
  | ok selection => simp [cacheKey?]

theorem decide_of_no_hit {enforcer : Enforcer} {context : EnforceContext}
    {values : List Value} (noHit : ∀ decision,
      (enforcer.decide context values false).1 = .ok decision → decision.cacheHit = false) :
    (enforcer.decide context values false).1 = enforcer.decideAnew context values false := by
  rw [decide_fst] at noHit ⊢
  unfold decideAnew
  cases selected : enforcer.select context values with
  | error fault => rfl
  | ok selection =>
      rw [selected] at noHit
      simp only at noHit ⊢
      split
      · next enabled =>
          rw [if_pos enabled] at noHit
          cases spelled : enforcer.cacheKey? context values false with
          | none => rfl
          | some key =>
              rw [spelled] at noHit
              simp only [evaluateCached_fst] at noHit ⊢
              cases found : enforcer.cache.entries.lookup key with
              | none => rfl
              | some allowed =>
                  rw [found] at noHit
                  cases noHit _ rfl
      · rfl

theorem Reachable.decide_alike {enforcer : Enforcer} (reachable : Reachable enforcer)
    (context : EnforceContext) (values : List Value) :
    ∃ others, List.Forall₂ RequestKey.Alike values others ∧
      (enforcer.decide context values false).1.map (·.allowed) =
        (enforcer.decide context others true).1.map (·.allowed) := by
  have itself : List.Forall₂ RequestKey.Alike values values :=
    List.forall₂_same.mpr fun value _ => .same value
  by_cases noHit : ∀ decision, (enforcer.decide context values false).1 = .ok decision →
      decision.cacheHit = false
  · refine ⟨values, itself, ?_⟩
    rw [decide_of_no_hit noHit, decide_explained, decideAnew_map_allowed enforcer _ _ true]
  · cases selected : enforcer.select context values with
    | error fault =>
        refine absurd (fun decision made => ?_) noHit
        rw [decide_fst, selected] at made
        cases made
    | ok selection =>
        cases enabled : enforcer.switches.enabled with
        | false =>
            refine absurd (fun decision made => ?_) noHit
            rw [decide_fst, selected] at made
            simp only [enabled, Bool.false_eq_true, if_false] at made
            cases made
            rfl
        | true =>
            rcases evaluates_or_recalls enabled selected false with
              same | ⟨-, key, allowed, spelled, old, hit⟩
            · refine ⟨values, itself, ?_⟩
              rw [same, decide_explained, decideAnew, selected, enabled]
              exact (evaluate_map_allowed enforcer selection values true).symm
            · obtain ⟨other, others, spelledOther, decided⟩ :=
                reachable.truthful (key, allowed) old
              obtain ⟨selectionOther, selectedOther⟩ := select_of_fresh decided
              obtain ⟨keys, alike⟩ := RequestKey.of_requestKey?_eq spelled spelledOther
              obtain rfl := EnforceContext.key_inj (reachable.sound.keyed_of_select selected)
                (reachable.sound.keyed_of_select selectedOther) keys
              refine ⟨others, alike, ?_⟩
              unfold fresh at decided
              rw [selectedOther] at decided
              rw [hit, decide_explained, decideAnew, selectedOther, enabled]
              exact (decided.symm.trans
                (evaluate_map_allowed enforcer selectionOther others true).symm)

section

variable {enforcer : Enforcer} {context : EnforceContext} {selection : Selection}

theorem sameFor_commit (wired : enforcer.Wired)
    (accepted : enforcer.select? context = some selection) {change : Mutation Row}
    (otherPolicy : change.key ≠ context.policy)
    (notCalled : change.key ∉ selection.matcher.functions) :
    SameFor selection enforcer (enforcer.commit change) := by
  have selects := selects_of_select? accepted
  have vetted := wired.vetted selects.matcher
  rw [commit_eq]
  refine ⟨rfl, rfl, rfl, ?_, fun name called => ?_⟩
  · rw [selects.policyKey]
    exact (sameElsewhere_changeTable enforcer.table change).rows otherPolicy.symm
  · have different : name ≠ change.key := by
      rintro rfl
      exact notCalled (vetted.rootFunctions called)
    unfold function?
    rw [lookup_changeRows_of_ne different]

/-- Decisions in a context are the same as before, and the failures too. The explained ones
are the same in all that they say, and the plain ones in what they allow. A decision that
was remembered for a request with an undefined number may be that on another one. -/
structure DecidesAlike (context : EnforceContext) (before after : Enforcer) : Prop where
  explained : ∀ values,
    (after.decide context values true).1 = (before.decide context values true).1
  recalled : ∀ values, ∃ others, List.Forall₂ RequestKey.Alike values others ∧
    (before.decide context values false).1.map (·.allowed) =
      (after.decide context others true).1.map (·.allowed)
  plain : ∀ values, AllDefined values ∨
      (∀ decision, (before.decide context values false).1 = .ok decision →
        decision.cacheHit = false) →
    (after.decide context values false).1.map (·.allowed) =
      (before.decide context values false).1.map (·.allowed)

theorem Reachable.decidesAlike (reachable : Reachable enforcer) (context : EnforceContext) :
    DecidesAlike context enforcer enforcer :=
  ⟨fun _ => rfl, reachable.decide_alike context, fun _ _ => rfl⟩

theorem DecidesAlike.record {before after : Enforcer} (alike : DecidesAlike context before after)
    (change : Metrics → Metrics) : DecidesAlike context before (after.record change) := by
  have same := fun values explain => decide_record after change context values explain
  refine ⟨fun values => ?_, fun values => ?_, fun values certain => ?_⟩
  · rw [same, alike.explained]
  · obtain ⟨others, near, decided⟩ := alike.recalled values
    exact ⟨others, near, by rw [same, decided]⟩
  · rw [same, alike.plain values certain]

theorem decidesAlike_commit (reachable : Reachable enforcer)
    (accepted : enforcer.select? context = some selection) {change : Mutation Row}
    (otherPolicy : change.key ≠ context.policy)
    (notCalled : change.key ∉ selection.matcher.functions) :
    DecidesAlike context enforcer (enforcer.commit change) := by
  have same := sameFor_commit reachable.wired accepted otherPolicy notCalled
  have forgotten : (enforcer.commit change).cache.entries = [] := rfl
  have explained : ∀ values, ((enforcer.commit change).decide context values true).1 =
      (enforcer.decide context values true).1 := by
    intro values
    rw [decide_of_forgotten forgotten, decide_explained]
    exact same.decideAnew_eq accepted values true
  refine ⟨explained, fun values => ?_, fun values certain => ?_⟩
  · obtain ⟨others, alike, decided⟩ := reachable.decide_alike context values
    exact ⟨others, alike, by rw [explained, decided]⟩
  · rw [decide_of_forgotten forgotten, same.decideAnew_eq accepted]
    rcases certain with defined | noHit
    · exact (map_allowed_of_verdict (reachable.decide_verdict context defined false)).symm
    · rw [decide_of_no_hit noHit]

/-- Whatever change of the rows is asked for under a key that is neither that of the policy
nor called by the matcher, and whatever comes of it. -/
theorem decidesAlike_mutateBy (reachable : Reachable enforcer)
    (accepted : enforcer.select? context = some selection)
    (follow : Storage → Mutation Row → Except StorageFault Unit × Storage)
    (storage? : Option Storage) {mutation : Mutation Fields}
    (otherPolicy : mutation.key ≠ context.policy)
    (notCalled : mutation.key ∉ selection.matcher.functions) :
    DecidesAlike context enforcer (enforcer.mutateBy follow storage? mutation).2.1 := by
  rcases enforcer.mutateBy_cases follow storage? mutation with
    ⟨change, checked, -, left⟩ | ⟨-, same | failed⟩
  · rw [left]
    rw [← (Mutation.same_of_read (read_of_check checked).1).2] at otherPolicy notCalled
    exact decidesAlike_commit reachable accepted otherPolicy notCalled
  · rw [same]
    exact reachable.decidesAlike context
  · rw [failed]
    exact (reachable.decidesAlike context).record _

end

end AccessControl.Enforcer
