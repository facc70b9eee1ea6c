import AccessControl.Proofs.Enforcer.Faults
import AccessControl.Proofs.Enforcer.Isolation

namespace AccessControl

/-! Where one row is enough to allow a request, further rows withdraw no permission, and
fewer rows give none. This does not hold between a policy without rows and one with rows,
since the matcher decides on empty fields where there are no rows. -/

namespace Mutation

variable {ρ : Type}

def Adds : Mutation ρ → Prop
  | .add .. | .addAll .. => True
  | _ => False

def Removes : Mutation ρ → Prop
  | .remove .. | .removeAll .. | .removeFiltered .. => True
  | _ => False

variable {ε σ : Type} {f : ρ → Except ε σ} {mutation : Mutation ρ} {change : Mutation σ}

theorem adds_of_read (done : mutation.read f = .ok change) (adds : mutation.Adds) :
    change.Adds := by
  cases reads_of_read done <;> exact adds

theorem removes_of_read (done : mutation.read f = .ok change) (removes : mutation.Removes) :
    change.Removes := by
  cases reads_of_read done <;> exact removes

end Mutation

namespace Enforcer

section

variable {enforcer : Enforcer} {change : Mutation Row} (sound : enforcer.Sound)
  (admitted : admits enforcer.table change = true)
include sound admitted

theorem rows_commit_of_adds (adds : change.Adds) (key : String) :
    ∃ added, (enforcer.commit change).rows key = enforcer.rows key ++ added := by
  by_cases same : key = change.key
  · subst same
    have covered : change.Covered (enforcer.table.rows change.key) := by
      cases change <;> first | exact trivial | exact adds.elim
    rw [rows, table_commit, rows_changeTable sound.table admitted covered]
    cases change with
    | add key row => exact ⟨[row], rfl⟩
    | addAll key rows => exact ⟨rows, rfl⟩
    | remove | removeAll | removeFiltered | update => exact adds.elim
  · exact ⟨[], by rw [rows_commit_of_ne same, List.append_nil]⟩

theorem rows_commit_of_removes (removes : change.Removes) (key : String) :
    (enforcer.commit change).rows key ⊆ enforcer.rows key := by
  by_cases same : key = change.key
  · subst same
    have exchanges := exchanges_changeTable sound.table admitted
    rw [rows, table_commit]
    intro row left
    refine (exchanges.old row left).resolve_right fun brought => ?_
    cases change with
    | remove | removeAll | removeFiltered => cases brought
    | add | addAll | update => exact removes.elim
  · rw [rows_commit_of_ne same]
    exact List.Subset.refl _

end

theorem function?_commit {enforcer : Enforcer} {change : Mutation Row}
    (policy : enforcer.model.roles.lookup change.key = none) :
    (enforcer.commit change).function? = enforcer.function? := by
  funext name
  rw [commit_eq]
  unfold function?
  by_cases same : name = change.key
  · subst same
    simp only [policy]
    cases (enforcer.changeRows change).graphs.lookup change.key <;>
      cases enforcer.graphs.lookup change.key <;> rfl
  · rw [lookup_changeRows_of_ne same]

section

variable {before after : Enforcer} {selection : Selection} {values : List Value}
  (same : after.function? = before.function?)
include same

theorem stumbles_congr
    (rows : after.table.rows selection.policyKey = before.table.rows selection.policyKey) :
    after.Stumbles selection values ↔ before.Stumbles selection values := by
  unfold Stumbles metRows
  rw [same, rows]

theorem outcomes_congr
    (rows : after.table.rows selection.policyKey = before.table.rows selection.policyKey) :
    after.outcomes selection values = before.outcomes selection values := by
  unfold outcomes
  rw [same, rows]

variable (overrides : selection.rule = .allowOverride)
  (steady : ¬ before.Stumbles selection values)
include overrides steady

/-- The row that allows is met before any that are added, so these are not looked at. -/
theorem grants_of_more_rows
    (grants : selection.rule.Grants (before.outcomes selection values)) {added : List Row}
    (longer : after.table.rows selection.policyKey =
      before.table.rows selection.policyKey ++ added)
    (filled : before.table.rows selection.policyKey = [] →
      after.table.rows selection.policyKey = []) :
    ¬ after.Stumbles selection values ∧
      selection.rule.Grants (after.outcomes selection values) := by
  by_cases empty : before.table.rows selection.policyKey = []
  · have rows := (filled empty).trans empty.symm
    rw [stumbles_congr same rows, outcomes_congr same rows]
    exact ⟨steady, grants⟩
  · have stillFilled : after.table.rows selection.policyKey ≠ [] := by
      rw [longer]
      exact List.append_ne_nil_of_left_ne_nil empty added
    rw [overrides, EffectRule.Grants, outcomes, if_neg empty] at grants
    obtain ⟨row, stored, allows⟩ := List.mem_map.mp grants
    have settled : ∃ row ∈ before.table.rows selection.policyKey, selection.rule.settles
        (selection.outcome before.function? values row) = true := by
      refine ⟨row, stored, ?_⟩
      rw [overrides, allows]
      rfl
    have met : after.metRows selection values = before.metRows selection values := by
      rw [metRows, metRows, if_neg empty, if_neg stillFilled, same, longer,
        EffectRule.upTo_append_of_settles settled]
    constructor
    · rintro ⟨row, member, stumbles⟩
      rw [met] at member
      rw [same] at stumbles
      exact steady ⟨row, member, stumbles⟩
    · rw [overrides, EffectRule.Grants, outcomes, if_neg stillFilled, same, longer]
      rw [← allows]
      exact List.mem_map_of_mem (List.mem_append_left added stored)

/-- Where no row allows, all rows are met, so fewer of them bring nothing new. -/
theorem not_grants_of_fewer_rows
    (refuses : ¬ selection.rule.Grants (before.outcomes selection values))
    (fewer : after.table.rows selection.policyKey ⊆ before.table.rows selection.policyKey)
    (filled : after.table.rows selection.policyKey = [] →
      before.table.rows selection.policyKey = []) :
    ¬ after.Stumbles selection values ∧
      ¬ selection.rule.Grants (after.outcomes selection values) := by
  by_cases empty : after.table.rows selection.policyKey = []
  · have rows := empty.trans (filled empty).symm
    rw [stumbles_congr same rows, outcomes_congr same rows]
    exact ⟨steady, refuses⟩
  · have wasFilled : before.table.rows selection.policyKey ≠ [] := by
      intro noRows
      rw [noRows] at fewer
      exact empty (List.subset_nil.mp fewer)
    rw [overrides, EffectRule.Grants, outcomes, if_neg wasFilled, List.mem_map] at refuses
    have met : before.metRows selection values =
        before.table.rows selection.policyKey := by
      rw [metRows, if_neg wasFilled]
      refine EffectRule.upTo_of_unsettled fun row stored settles => refuses ⟨row, stored, ?_⟩
      rw [overrides] at settles
      exact beq_iff_eq.mp settles
    constructor
    · rintro ⟨row, member, stumbles⟩
      rw [metRows, if_neg empty] at member
      rw [same] at stumbles
      refine steady ⟨row, ?_, stumbles⟩
      rw [met]
      exact fewer (EffectRule.upTo_subset _ _ _ member)
    · rw [overrides, EffectRule.Grants, outcomes, if_neg empty, same, List.mem_map]
      rintro ⟨row, stored, allows⟩
      exact refuses ⟨row, fewer stored, allows⟩

end

section

variable {enforcer : Enforcer} {context : EnforceContext} {values : List Value}
  {selection : Selection} (enabled : enforcer.switches.enabled = true)
  (accepted : enforcer.select context values = .ok selection)
include enabled accepted

theorem meaning_of_decided (reachable : Reachable enforcer) {explain : Bool}
    {decision : Decision} (decided : (enforcer.decide context values explain).1 = .ok decision)
    (certain : AllDefined values ∨ decision.cacheHit = false) :
    ¬ enforcer.Stumbles selection values ∧
      (decision.allowed = true ↔
        selection.rule.Grants (enforcer.outcomes selection values)) := by
  have steady : ¬ enforcer.Stumbles selection values := by
    intro stumbles
    rcases certain with defined | noHit
    · rw [decide_of_stumbles reachable enabled accepted stumbles (.inr defined)] at decided
      cases decided
    · rcases evaluates_or_recalls enabled accepted explain with
        same | ⟨-, key, allowed, -, -, hit⟩
      · rw [same, evaluate_of_stumbles stumbles] at decided
        cases decided
      · rw [hit] at decided
        cases decided
        cases noHit
  obtain ⟨again, made, grants, -⟩ := decide_meaning reachable enabled accepted
    (fun row met => Matcher.evaluated_of_not_stumbles fun stumbles =>
      steady ⟨row, met, stumbles⟩) explain
  rw [decided] at made
  cases made
  exact ⟨steady, grants certain⟩

variable (forgotten : enforcer.cache.entries = [])
include forgotten

theorem decide_of_steady (steady : ¬ enforcer.Stumbles selection values) (explain : Bool) :
    ∃ decision, (enforcer.decide context values explain).1 = .ok decision ∧
      (decision.allowed = true ↔
        selection.rule.Grants (enforcer.outcomes selection values)) := by
  obtain ⟨decision, made, grants, -⟩ := @evaluate_meaning enforcer selection values
    (fun row met => Matcher.evaluated_of_not_stumbles fun stumbles =>
      steady ⟨row, met, stumbles⟩) explain
  refine ⟨decision, ?_, grants⟩
  rw [decide_of_forgotten forgotten, decideAnew, accepted]
  exact (if_pos enabled).trans made

theorem meaning_of_forgotten {explain : Bool} {decision : Decision}
    (decided : (enforcer.decide context values explain).1 = .ok decision) :
    decision.allowed = true ↔ selection.rule.Grants (enforcer.outcomes selection values) := by
  have steady : ¬ enforcer.Stumbles selection values := by
    intro stumbles
    rw [decide_of_forgotten forgotten, decideAnew, accepted] at decided
    simp only [enabled, if_true, evaluate_of_stumbles stumbles] at decided
    cases decided
  obtain ⟨again, made, grants⟩ := decide_of_steady enabled accepted forgotten steady explain
  rw [decided] at made
  cases made
  exact grants

end

theorem select_commit (enforcer : Enforcer) (change : Mutation Row) (context : EnforceContext)
    (values : List Value) :
    (enforcer.commit change).select context values = enforcer.select context values := by
  refine select_congr ?_ ?_ context values <;> rw [commit_eq]

theorem enabled_commit (enforcer : Enforcer) (change : Mutation Row) :
    (enforcer.commit change).switches.enabled = enforcer.switches.enabled := by
  rw [commit_eq]

/-- How the decisions on a request go on after a change of the rows. -/
structure Continues (context : EnforceContext) (values : List Value) (selection : Selection)
    (mutation : Mutation Fields) (allowed : Bool) (before after : Enforcer) : Prop where
  stillAllowed : mutation.Adds → allowed = true →
    (before.rows context.policy = [] → after.rows context.policy = []) →
      ∀ explain, ∃ decision, (after.decide context values explain).1 = .ok decision ∧
        decision.allowed = true
  stillRefused : mutation.Removes → allowed = false →
    (after.rows context.policy = [] → before.rows context.policy = []) →
      ∀ explain, ∃ decision, (after.decide context values explain).1 = .ok decision ∧
        decision.allowed = false
  /-- with rows or without, the request is allowed by an outcome that allows -/
  allowed_iff : before.switches.enabled = true → ∀ explain decision,
    (after.decide context values explain).1 = .ok decision →
      (decision.allowed = true ↔ .allow ∈ after.outcomes selection values)

section

variable {enforcer : Enforcer} {context : EnforceContext} {values : List Value}
  {selection : Selection} {mutation : Mutation Fields} {change : Mutation Row}
  {decision : Decision}

theorem Continues.record {after : Enforcer} {allowed : Bool}
    (continues : Continues context values selection mutation allowed enforcer after)
    (metrics : Metrics → Metrics) :
    Continues context values selection mutation allowed enforcer (after.record metrics) := by
  have same := fun explain => decide_record after metrics context values explain
  refine ⟨fun adds was rows explain => ?_, fun removes was rows explain => ?_,
    fun enabled explain decision => ?_⟩
  · rw [same]
    exact continues.stillAllowed adds was rows explain
  · rw [same]
    exact continues.stillRefused removes was rows explain
  · rw [same]
    exact continues.allowed_iff enabled explain decision

variable (accepted : enforcer.select context values = .ok selection)
include accepted

theorem continues_of_disabled (disabled : enforcer.switches.enabled = false) {explain : Bool}
    (decided : (enforcer.decide context values explain).1 = .ok decision) :
    Continues context values selection mutation decision.allowed enforcer
      (enforcer.commit change) := by
  rw [decide_disabled disabled accepted explain] at decided
  cases decided
  constructor
  · intro _ _ _ explain
    refine ⟨_, decide_disabled ?_ ((select_commit _ _ _ _).trans accepted) explain, rfl⟩
    rw [enabled_commit, disabled]
  · intro _ refused
    cases refused
  · intro enabled
    rw [disabled] at enabled
    cases enabled

theorem continues_of_enabled (enabled : enforcer.switches.enabled = true)
    (sound : enforcer.Sound) (overrides : selection.rule = .allowOverride)
    (read : mutation.read (enforcer.model.readRow mutation.key) = .ok change)
    (admitted : admits enforcer.table change = true)
    (noRole : enforcer.model.roles.lookup change.key = none)
    (steady : ¬ enforcer.Stumbles selection values)
    (meaning : decision.allowed = true ↔
      selection.rule.Grants (enforcer.outcomes selection values)) :
    Continues context values selection mutation decision.allowed enforcer
      (enforcer.commit change) := by
  have same := function?_commit noRole
  have key : selection.policyKey = context.policy := (selects_of_select accepted).policyKey
  rw [← select_commit enforcer change] at accepted
  rw [← enabled_commit enforcer change] at enabled
  constructor
  · intro adds was filled explain
    obtain ⟨added, longer⟩ := rows_commit_of_adds sound admitted
      (Mutation.adds_of_read read adds) context.policy
    rw [← key] at longer filled
    obtain ⟨still, grants⟩ :=
      grants_of_more_rows same overrides steady (meaning.mp was) longer filled
    obtain ⟨later, made, meant⟩ := decide_of_steady enabled accepted rfl still explain
    exact ⟨later, made, meant.mpr grants⟩
  · intro removes was filled explain
    have fewer := rows_commit_of_removes sound admitted
      (Mutation.removes_of_read read removes) context.policy
    rw [← key] at fewer filled
    rw [← Bool.not_eq_true, meaning] at was
    obtain ⟨still, refuses⟩ := not_grants_of_fewer_rows same overrides steady was fewer filled
    obtain ⟨later, made, meant⟩ := decide_of_steady enabled accepted rfl still explain
    refine ⟨later, made, ?_⟩
    rwa [← Bool.not_eq_true, meant]
  · intro _ explain later decided
    rw [meaning_of_forgotten enabled accepted rfl decided, overrides]
    rfl

theorem continues_mutateBy (reachable : Reachable enforcer)
    (overrides : selection.rule = .allowOverride)
    (policy : mutation.key ∈ Entries.keys enforcer.model.policies)
    {follow : Storage → Mutation Row → Except StorageFault Unit × Storage}
    {storage? : Option Storage}
    (made : (enforcer.mutateBy follow storage? mutation).1 = .ok true) {explain : Bool}
    (decided : (enforcer.decide context values explain).1 = .ok decision)
    (certain : AllDefined values ∨ decision.cacheHit = false) :
    Continues context values selection mutation decision.allowed enforcer
      (enforcer.mutateBy follow storage? mutation).2.1 := by
  rcases enforcer.mutateBy_cases follow storage? mutation with
    ⟨change, checked, -, left⟩ | ⟨notMade, -⟩
  · rw [left]
    cases enabled : enforcer.switches.enabled with
    | false => exact continues_of_disabled accepted enabled decided
    | true =>
        obtain ⟨read, admitted⟩ := read_of_check checked
        obtain ⟨steady, meaning⟩ := meaning_of_decided enabled accepted reachable decided certain
        refine continues_of_enabled accepted enabled reachable.sound overrides read admitted
          (Entries.lookup_eq_none fun role => ?_) steady meaning
        rw [(Mutation.same_of_read read).2] at role
        exact reachable.sound.read.policies_ne_roles policy role rfl
  · exact absurd made notMade

end

end Enforcer

end AccessControl
