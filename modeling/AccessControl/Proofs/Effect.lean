import AccessControl.Effect

namespace AccessControl

/-! What a rule means on a complete list of outcomes, and that a stream, which
stops early, decides by that meaning. -/

namespace EffectRule

def Grants : EffectRule → List Outcome → Prop
  | .allowOverride, outcomes => .allow ∈ outcomes
  | .denyOverride, outcomes => .deny ∉ outcomes
  | .allowAndDeny, outcomes => .allow ∈ outcomes ∧ .deny ∉ outcomes
  | .priority, outcomes => outcomes.find? (· != .indeterminate) = some .allow

instance : (rule : EffectRule) → (outcomes : List Outcome) →
    Decidable (rule.Grants outcomes)
  | .allowOverride, outcomes => inferInstanceAs (Decidable (Outcome.allow ∈ outcomes))
  | .denyOverride, outcomes => inferInstanceAs (Decidable (Outcome.deny ∉ outcomes))
  | .allowAndDeny, outcomes =>
      inferInstanceAs (Decidable (Outcome.allow ∈ outcomes ∧ Outcome.deny ∉ outcomes))
  | .priority, outcomes =>
      inferInstanceAs (Decidable (outcomes.find? (· != .indeterminate) = some .allow))

def deciding? : EffectRule → List Outcome → Option Nat
  | .allowOverride, outcomes => outcomes.findIdx? (· == .allow)
  | .denyOverride, outcomes => outcomes.findIdx? (· == .deny)
  | .allowAndDeny, outcomes =>
      (outcomes.findIdx? (· == .deny)).or (outcomes.findIdx? (· == .allow))
  | .priority, outcomes => outcomes.findIdx? (· != .indeterminate)

theorem lt_of_deciding? {rule : EffectRule} {outcomes : List Outcome} {index : Nat}
    (decides : rule.deciding? outcomes = some index) : index < outcomes.length := by
  have inside : ∀ {test : Outcome → Bool}, outcomes.findIdx? test = some index →
      index < outcomes.length := by
    intro test found
    exact (List.findIdx?_eq_some_iff_getElem.mp found).1
  cases rule with
  | allowOverride | denyOverride | priority => exact inside decides
  | allowAndDeny =>
      rcases Option.or_eq_some_iff.mp decides with denied | ⟨-, allowed⟩
      · exact inside denied
      · exact inside allowed

section

variable {rule : EffectRule} {outcomes others : List Outcome}
  (same : ∀ outcome, outcome ∈ others ↔ outcome ∈ outcomes)
include same

theorem grants_congr (notPriority : rule ≠ .priority) :
    rule.Grants others ↔ rule.Grants outcomes := by
  cases rule with
  | allowOverride => exact same .allow
  | denyOverride => exact not_congr (same .deny)
  | allowAndDeny => exact and_congr (same .allow) (not_congr (same .deny))
  | priority => exact absurd rfl notPriority

theorem deciding?_isSome_congr :
    (rule.deciding? others).isSome = (rule.deciding? outcomes).isSome := by
  have any : ∀ test : Outcome → Bool, others.any test = outcomes.any test := by
    intro test
    rw [Bool.eq_iff_iff, List.any_eq_true, List.any_eq_true]
    simp only [same]
  cases rule <;> simp only [deciding?, Option.isSome_or, List.findIdx?_isSome, any]

end

example : EffectRule.priority.Grants [.allow, .deny] ∧ ¬ EffectRule.priority.Grants
    [.deny, .allow] := by
  decide

/-- Whether the outcomes decide whatever comes after them. -/
def Settled : EffectRule → List Outcome → Prop
  | .allowOverride, outcomes => .allow ∈ outcomes
  | .denyOverride, outcomes => .deny ∈ outcomes
  | .allowAndDeny, outcomes => .deny ∈ outcomes
  | .priority, outcomes => ∃ outcome ∈ outcomes, outcome ≠ .indeterminate

/-- Whether an outcome alone decides whatever comes after it. -/
def settles : EffectRule → Outcome → Bool
  | .allowOverride, outcome => outcome == .allow
  | .denyOverride, outcome => outcome == .deny
  | .allowAndDeny, outcome => outcome == .deny
  | .priority, outcome => outcome != .indeterminate

theorem settled_iff {rule : EffectRule} {outcomes : List Outcome} :
    rule.Settled outcomes ↔ ∃ outcome ∈ outcomes, rule.settles outcome = true := by
  cases rule <;> simp [Settled, settles]

theorem settled_append_singleton {rule : EffectRule} {outcomes : List Outcome}
    (unsettled : ¬ rule.Settled outcomes) {outcome : Outcome} :
    rule.Settled (outcomes ++ [outcome]) ↔ rule.settles outcome = true := by
  rw [settled_iff] at unsettled ⊢
  constructor
  · rintro ⟨other, member, settles⟩
    rcases List.mem_append.mp member with early | last
    · exact absurd ⟨other, early, settles⟩ unsettled
    · rwa [List.mem_singleton.mp last] at settles
  · intro settles
    exact ⟨outcome, by simp, settles⟩

/-- The items up to the first one whose outcome decides. -/
def upTo {α : Type} (rule : EffectRule) (outcome : α → Outcome) : List α → List α
  | [] => []
  | item :: items =>
      if rule.settles (outcome item) then [item] else item :: rule.upTo outcome items

theorem upTo_subset {α : Type} (rule : EffectRule) (outcome : α → Outcome)
    (items : List α) : rule.upTo outcome items ⊆ items := by
  induction items with
  | nil => exact List.Subset.refl _
  | cons item items ih =>
      rw [upTo]
      split
      · exact List.cons_subset_cons item (List.nil_subset _)
      · exact List.cons_subset_cons item ih

theorem mem_upTo_cons {α : Type} (rule : EffectRule) (outcome : α → Outcome) (item : α)
    (items : List α) : item ∈ rule.upTo outcome (item :: items) := by
  rw [upTo]
  split <;> exact List.mem_cons_self

/-- What comes behind an item that decides is not looked at. -/
theorem upTo_append_of_settles {α : Type} {rule : EffectRule} {outcome : α → Outcome}
    {items : List α} (settled : ∃ item ∈ items, rule.settles (outcome item) = true)
    (more : List α) : rule.upTo outcome (items ++ more) = rule.upTo outcome items := by
  induction items with
  | nil =>
      obtain ⟨item, member, -⟩ := settled
      cases member
  | cons item items ih =>
      rw [List.cons_append, upTo, upTo]
      split
      · rfl
      · next continues =>
          obtain ⟨decider, member, settles⟩ := settled
          rcases List.mem_cons.mp member with rfl | later
          · exact absurd settles continues
          · rw [ih ⟨decider, later, settles⟩]

theorem upTo_of_unsettled {α : Type} {rule : EffectRule} {outcome : α → Outcome}
    {items : List α} (unsettled : ∀ item ∈ items, ¬ rule.settles (outcome item) = true) :
    rule.upTo outcome items = items := by
  induction items with
  | nil => rfl
  | cons item items ih =>
      rw [List.forall_mem_cons] at unsettled
      rw [upTo, if_neg unsettled.1, ih unsettled.2]

theorem findIdx?_append_of_mem {test : Outcome → Bool} {outcomes : List Outcome}
    {outcome : Outcome} (member : outcome ∈ outcomes) (holds : test outcome = true)
    (further : List Outcome) :
    (outcomes ++ further).findIdx? test = outcomes.findIdx? test := by
  rw [List.findIdx?_append]
  cases found : outcomes.findIdx? test with
  | some place => rfl
  | none =>
      have fails := List.findIdx?_eq_none_iff.mp found outcome member
      rw [holds] at fails
      cases fails

theorem find?_append_of_mem {test : Outcome → Bool} {outcomes : List Outcome}
    {outcome : Outcome} (member : outcome ∈ outcomes) (holds : test outcome = true)
    (further : List Outcome) :
    (outcomes ++ further).find? test = outcomes.find? test := by
  rw [List.find?_append]
  cases found : outcomes.find? test with
  | some first => rfl
  | none =>
      have fails := List.find?_eq_none.mp found outcome member
      exact absurd holds fails

theorem Settled.grants_iff {rule : EffectRule} {outcomes : List Outcome}
    (settled : rule.Settled outcomes) (further : List Outcome) :
    rule.Grants (outcomes ++ further) ↔ rule.Grants outcomes := by
  cases rule with
  | allowOverride => simp_all [Settled, Grants]
  | denyOverride => simp_all [Settled, Grants]
  | allowAndDeny => simp_all [Settled, Grants]
  | priority =>
      obtain ⟨outcome, member, decides⟩ := settled
      rw [Grants, Grants, find?_append_of_mem member (by simpa using decides)]

theorem Settled.deciding?_eq {rule : EffectRule} {outcomes : List Outcome}
    (settled : rule.Settled outcomes) (further : List Outcome) :
    rule.deciding? (outcomes ++ further) = rule.deciding? outcomes := by
  cases rule with
  | allowOverride => exact findIdx?_append_of_mem settled rfl further
  | denyOverride => exact findIdx?_append_of_mem settled rfl further
  | allowAndDeny =>
      rw [deciding?, deciding?, findIdx?_append_of_mem settled rfl]
      cases found : outcomes.findIdx? (· == .deny) with
      | some place => rfl
      | none =>
          have fails := List.findIdx?_eq_none_iff.mp found _ settled
          cases fails
  | priority =>
      obtain ⟨outcome, member, decides⟩ := settled
      exact findIdx?_append_of_mem member (by simpa using decides) further

end EffectRule

namespace EffectStream

open EffectRule

/-- A stream that has taken outcomes shows what they mean. It takes no more when
they decide or when there is no room left. -/
structure Shows (stream : EffectStream) (rule : EffectRule) (capacity : Nat)
    (seen : List Outcome) : Prop where
  rule_eq : stream.rule = rule
  capacity_eq : stream.capacity = capacity
  index_eq : stream.index = seen.length
  result_iff : stream.result = true ↔ rule.Grants seen
  explain_eq : stream.explain = (rule.deciding? seen).toList
  done_iff : stream.done = true ↔ rule.Settled seen ∨ capacity ≤ seen.length

theorem shows_start (rule : EffectRule) (capacity : Nat) :
    (start rule capacity).Shows rule capacity [] := by
  refine ⟨rfl, rfl, rfl, ?_, ?_, ?_⟩
  · cases rule <;> simp [start, Grants]
  · cases rule <;> simp [start, deciding?]
  · cases rule <;> simp [start, Settled]

theorem findIdx?_append_singleton {test : Outcome → Bool} {seen : List Outcome}
    (fails : ∀ outcome ∈ seen, test outcome = false) (outcome : Outcome) :
    (seen ++ [outcome]).findIdx? test =
      if test outcome then some seen.length else none := by
  rw [List.findIdx?_append, List.findIdx?_eq_none_iff.mpr fails]
  cases held : test outcome <;> simp [held]

structure Weighed (stream : EffectStream) (rule : EffectRule) (seen : List Outcome) :
    Prop where
  result_iff : stream.result = true ↔ rule.Grants seen
  explain_eq : stream.explain = (rule.deciding? seen).toList
  done_iff : stream.done = true ↔ rule.Settled seen

theorem weigh_rule (stream : EffectStream) (outcome : Outcome) :
    (stream.weigh outcome).rule = stream.rule := by
  obtain ⟨rule, capacity, done, result, index, explain⟩ := stream
  cases outcome <;> cases rule <;> cases result <;> rfl

theorem weigh_capacity (stream : EffectStream) (outcome : Outcome) :
    (stream.weigh outcome).capacity = stream.capacity := by
  obtain ⟨rule, capacity, done, result, index, explain⟩ := stream
  cases outcome <;> cases rule <;> cases result <;> rfl

theorem beq_eq_false_of_not_mem {mark : Outcome} {seen : List Outcome}
    (absent : mark ∉ seen) : ∀ outcome ∈ seen, (outcome == mark) = false := by
  intro outcome member
  rw [beq_eq_false_iff_ne]
  rintro rfl
  exact absent member

theorem Shows.weigh {stream : EffectStream} {rule : EffectRule} {capacity : Nat}
    {seen : List Outcome} (shows : stream.Shows rule capacity seen)
    (unfinished : stream.done = false) (outcome : Outcome) :
    (stream.weigh outcome).Weighed rule (seen ++ [outcome]) := by
  obtain ⟨ruleEq, -, indexEq, resultIff, explainEq, doneIff⟩ := shows
  have unsettled : ¬ rule.Settled seen := by
    intro settled
    rw [doneIff.mpr (.inl settled)] at unfinished
    cases unfinished
  cases rule with
  | allowOverride | denyOverride =>
      have absent := beq_eq_false_of_not_mem unsettled
      have before := List.findIdx?_eq_none_iff.mpr absent
      have after := findIdx?_append_singleton absent outcome
      rw [Settled] at unsettled
      rw [Grants] at resultIff
      rw [deciding?, before] at explainEq
      cases outcome <;> constructor <;>
        simp [EffectStream.weigh, EffectStream.decide, Grants, Settled, deciding?,
          ruleEq, indexEq, resultIff, explainEq, unfinished, unsettled, after]
  | allowAndDeny =>
      have absent := beq_eq_false_of_not_mem unsettled
      have before := List.findIdx?_eq_none_iff.mpr absent
      have after := findIdx?_append_singleton absent outcome
      rw [Settled] at unsettled
      rw [Grants] at resultIff
      rw [deciding?, before, Option.none_or] at explainEq
      -- a stream that allows already does not look at a further permission
      by_cases granted : .allow ∈ seen
      · have allowed : stream.result = true := resultIff.mpr ⟨granted, unsettled⟩
        obtain ⟨place, found⟩ : ∃ place, seen.findIdx? (· == .allow) = some place := by
          rw [← Option.isSome_iff_exists, List.findIdx?_isSome, List.any_eq_true]
          exact ⟨.allow, granted, rfl⟩
        rw [found] at explainEq
        cases outcome <;> constructor <;>
          simp [EffectStream.weigh, EffectStream.decide, Grants, Settled, deciding?,
            ruleEq, indexEq, explainEq, unfinished, unsettled, granted, allowed, after,
            found]
      · have refused : stream.result = false := by
          rw [Bool.eq_false_iff, ne_eq, resultIff]
          exact fun grants => granted grants.1
        have absentAllow := beq_eq_false_of_not_mem granted
        have beforeAllow := List.findIdx?_eq_none_iff.mpr absentAllow
        have afterAllow := findIdx?_append_singleton absentAllow outcome
        rw [beforeAllow] at explainEq
        cases outcome <;> constructor <;>
          simp [EffectStream.weigh, EffectStream.decide, Grants, Settled, deciding?,
            ruleEq, indexEq, explainEq, unfinished, unsettled, granted, refused, after,
            afterAllow]
  | priority =>
      have absent : ∀ outcome ∈ seen, (outcome != .indeterminate) = false := by
        intro outcome member
        rw [bne_eq_false_iff_eq]
        exact Decidable.byContradiction fun decides =>
          unsettled ⟨outcome, member, decides⟩
      have before := List.findIdx?_eq_none_iff.mpr absent
      have after := findIdx?_append_singleton absent outcome
      have unfound : seen.find? (· != .indeterminate) = none := by
        rw [List.find?_eq_none]
        intro outcome member
        simp [absent outcome member]
      have undecided : ∀ outcome ∈ seen, outcome = .indeterminate := by
        intro outcome member
        simpa using absent outcome member
      rw [Grants, unfound] at resultIff
      rw [deciding?, before] at explainEq
      cases outcome <;> constructor <;>
        simp [EffectStream.weigh, EffectStream.decide, Grants, Settled, deciding?,
          ruleEq, indexEq, resultIff, explainEq, unfinished, unfound, after]
      exact undecided

theorem Shows.push {stream : EffectStream} {rule : EffectRule} {capacity : Nat}
    {seen : List Outcome} (shows : stream.Shows rule capacity seen)
    (unfinished : stream.done = false) (outcome : Outcome) :
    (stream.push outcome).Shows rule capacity (seen ++ [outcome]) := by
  have weighed := shows.weigh unfinished outcome
  have bound : stream.capacity ≤ (stream.index + 1 : Nat) ↔
      capacity ≤ (seen ++ [outcome]).length := by
    rw [shows.capacity_eq, shows.index_eq, List.length_append, List.length_singleton,
      Int.ofNat_le]
  unfold EffectStream.push
  rw [if_neg (by simp [unfinished])]
  refine ⟨?_, ?_, ?_, weighed.result_iff, weighed.explain_eq, ?_⟩
  · exact (weigh_rule stream outcome).trans shows.rule_eq
  · exact (weigh_capacity stream outcome).trans shows.capacity_eq
  · simp [shows.index_eq]
  · simp only [Bool.or_eq_true, weighed.done_iff, decide_eq_true_eq, bound]

theorem Shows.done_push_iff {stream : EffectStream} {rule : EffectRule} {rest : Nat}
    {seen : List Outcome} (shows : stream.Shows rule (seen.length + (rest + 1)) seen)
    (unfinished : stream.done = false) (outcome : Outcome) :
    (stream.push outcome).done = true ↔ rule.settles outcome = true ∨ rest = 0 := by
  have unsettled : ¬ rule.Settled seen := by
    intro settled
    rw [shows.done_iff.mpr (.inl settled)] at unfinished
    cases unfinished
  rw [(shows.push unfinished outcome).done_iff, settled_append_singleton unsettled,
    List.length_append, List.length_singleton]
  have room : seen.length + (rest + 1) ≤ seen.length + 1 ↔ rest = 0 := by omega
  rw [room]

theorem Shows.of_done {stream : EffectStream} {rule : EffectRule} {capacity : Nat}
    {seen : List Outcome} (shows : stream.Shows rule capacity seen)
    (finished : stream.done = true) {further : List Outcome}
    (room : (seen ++ further).length ≤ capacity) :
    (stream.result = true ↔ rule.Grants (seen ++ further)) ∧
      stream.explain = (rule.deciding? (seen ++ further)).toList := by
  rcases shows.done_iff.mp finished with settled | full
  · rw [settled.grants_iff further, settled.deciding?_eq further]
    exact ⟨shows.result_iff, shows.explain_eq⟩
  · have empty : further = [] := by
      rw [List.length_append] at room
      exact List.length_eq_zero_iff.mp (by omega)
    rw [empty, List.append_nil]
    exact ⟨shows.result_iff, shows.explain_eq⟩

end EffectStream

end AccessControl
