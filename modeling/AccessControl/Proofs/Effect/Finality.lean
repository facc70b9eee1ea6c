import AccessControl.Proofs.Effect
import Mathlib.Data.List.Induction

namespace AccessControl

namespace EffectRule

/-- While nothing is settled, one more outcome can turn the result. -/
theorem exists_turning {rule : EffectRule} {outcomes : List Outcome}
    (unsettled : ¬ rule.Settled outcomes) :
    ∃ outcome, ¬ (rule.Grants (outcomes ++ [outcome]) ↔ rule.Grants outcomes) := by
  cases rule with
  | allowOverride =>
      refine ⟨.allow, fun same => unsettled (same.mp ?_)⟩
      simp [Grants]
  | denyOverride =>
      refine ⟨.deny, fun same => same.mpr unsettled ?_⟩
      simp
  | allowAndDeny =>
      by_cases allowed : .allow ∈ outcomes
      · refine ⟨.deny, fun same => (same.mpr ⟨allowed, unsettled⟩).2 ?_⟩
        simp
      · refine ⟨.allow, fun same => allowed (same.mp ⟨?_, ?_⟩).1⟩
        · simp
        · simpa [Settled] using unsettled
  | priority =>
      have blank : outcomes.find? (· != .indeterminate) = none := by
        rw [List.find?_eq_none]
        intro outcome member decides
        exact unsettled ⟨outcome, member, by simpa using decides⟩
      refine ⟨.allow, fun same => ?_⟩
      have granted : outcomes.find? (· != .indeterminate) = some .allow :=
        same.mp (by simp [Grants, List.find?_append, blank])
      rw [blank] at granted
      cases granted

end EffectRule

namespace EffectStream

open EffectRule

/-- Outcomes are pushed one after the other, whether the stream still takes them or not. -/
def pushAll (stream : EffectStream) (outcomes : List Outcome) : EffectStream :=
  outcomes.foldl push stream

theorem pushAll_append (stream : EffectStream) (first second : List Outcome) :
    stream.pushAll (first ++ second) = (stream.pushAll first).pushAll second :=
  List.foldl_append

theorem pushAll_of_done {stream : EffectStream} (finished : stream.done = true)
    (outcomes : List Outcome) : stream.pushAll outcomes = stream := by
  induction outcomes with
  | nil => rfl
  | cons outcome outcomes ih =>
      rw [pushAll, List.foldl_cons, push, if_pos finished]
      exact ih

/-- What there is room for. A stream of negative capacity notices that it is full when it
has taken an outcome. -/
def room (capacity : Int) : Nat :=
  if capacity < 0 then 1 else capacity.toNat

@[simp] theorem room_natCast (capacity : Nat) : room capacity = capacity := by
  rw [room, if_neg (by omega), Int.toNat_natCast]

theorem capacity_le_iff (capacity : Int) (index : Nat) :
    capacity ≤ (index + 1 : Nat) ↔ (room capacity : Int) ≤ (index + 1 : Nat) := by
  unfold room
  split <;> omega

theorem weigh_withCapacity (stream : EffectStream) (capacity : Int) (outcome : Outcome) :
    ({ stream with capacity }.weigh outcome) = { stream.weigh outcome with capacity } := by
  obtain ⟨rule, _, done, result, index, explain⟩ := stream
  cases outcome <;> cases rule <;> cases result <;> rfl

theorem push_withRoom (stream : EffectStream) (outcome : Outcome) :
    { stream with capacity := room stream.capacity }.push outcome =
      { stream.push outcome with capacity := room stream.capacity } := by
  unfold push
  split
  · rfl
  · simp only [weigh_withCapacity, capacity_le_iff stream.capacity]

theorem push_capacity (stream : EffectStream) (outcome : Outcome) :
    (stream.push outcome).capacity = stream.capacity := by
  unfold push
  split
  · rfl
  · exact weigh_capacity stream outcome

theorem pushAll_withRoom (stream : EffectStream) (outcomes : List Outcome) :
    { stream with capacity := room stream.capacity }.pushAll outcomes =
      { stream.pushAll outcomes with capacity := room stream.capacity } := by
  induction outcomes generalizing stream with
  | nil => rfl
  | cons outcome outcomes ih =>
      have next := ih (stream.push outcome)
      rw [push_capacity] at next
      rw [pushAll, List.foldl_cons, push_withRoom]
      exact next

theorem start_withRoom (rule : EffectRule) (capacity : Int) :
    start rule (room capacity) = { start rule capacity with capacity := room capacity } := by
  have empty : ((room capacity : Int) == 0) = (capacity == 0) := by
    rw [Bool.eq_iff_iff, beq_iff_eq, beq_iff_eq]
    unfold room
    split <;> omega
  rw [start, empty]
  rfl

theorem pushAll_start_withRoom (rule : EffectRule) (capacity : Int)
    (pushed : List Outcome) :
    (start rule (room capacity)).pushAll pushed =
      { (start rule capacity).pushAll pushed with capacity := room capacity } := by
  rw [start_withRoom]
  exact pushAll_withRoom (start rule capacity) pushed

theorem exists_seen (rule : EffectRule) (capacity : Nat) (pushed : List Outcome) :
    ∃ seen rest, pushed = seen ++ rest ∧ seen.length ≤ capacity ∧
      ((start rule capacity).pushAll pushed).Shows rule capacity seen ∧
      (((start rule capacity).pushAll pushed).done = true ∨ rest = []) := by
  induction pushed using List.reverseRecOn with
  | nil => exact ⟨[], [], rfl, Nat.zero_le _, shows_start rule capacity, .inr rfl⟩
  | append_singleton pushed outcome ih =>
      obtain ⟨seen, rest, split, inside, shows, ended⟩ := ih
      rw [pushAll_append]
      cases finished : ((start rule capacity).pushAll pushed).done with
      | true =>
          rw [pushAll_of_done finished]
          refine ⟨seen, rest ++ [outcome], ?_, inside, shows, .inl finished⟩
          rw [split, List.append_assoc]
      | false =>
          rw [finished] at ended
          cases ended.resolve_left Bool.false_ne_true
          rw [List.append_nil] at split
          subst split
          refine ⟨pushed ++ [outcome], [], by simp, ?_, shows.push finished outcome, .inr rfl⟩
          have unfilled : ¬ capacity ≤ pushed.length := by
            intro full
            rw [shows.done_iff.mpr (.inr full)] at finished
            cases finished
          simp only [List.length_append, List.length_singleton]
          omega

section

variable {rule : EffectRule} {capacity : Nat} {pushed : List Outcome}

theorem shows_of_open (unfinished : ((start rule capacity).pushAll pushed).done = false) :
    ((start rule capacity).pushAll pushed).Shows rule capacity pushed ∧
      pushed.length < capacity := by
  obtain ⟨seen, rest, split, -, shows, ended⟩ := exists_seen rule capacity pushed
  rw [unfinished] at ended
  cases ended.resolve_left Bool.false_ne_true
  rw [List.append_nil] at split
  subst split
  refine ⟨shows, Nat.lt_of_not_le fun full => ?_⟩
  rw [shows.done_iff.mpr (.inr full)] at unfinished
  cases unfinished

/-- A stream means what the outcomes mean that it has room for, and once it is done it means
that with any further ones. -/
theorem pushAll_means (further : List Outcome)
    (final : further = [] ∨ ((start rule capacity).pushAll pushed).done = true) :
    (((start rule capacity).pushAll pushed).result = true ↔
        rule.Grants ((pushed ++ further).take capacity)) ∧
      ((start rule capacity).pushAll pushed).explain =
        (rule.deciding? ((pushed ++ further).take capacity)).toList := by
  cases finished : ((start rule capacity).pushAll pushed).done with
  | false =>
      rw [finished] at final
      cases final.resolve_right Bool.false_ne_true
      obtain ⟨shows, short⟩ := shows_of_open finished
      rw [List.append_nil, List.take_of_length_le (Nat.le_of_lt short)]
      exact ⟨shows.result_iff, shows.explain_eq⟩
  | true =>
      obtain ⟨seen, rest, split, inside, shows, -⟩ := exists_seen rule capacity pushed
      have taken : (pushed ++ further).take capacity =
          seen ++ (rest ++ further).take (capacity - seen.length) := by
        rw [split, List.append_assoc, List.take_append, List.take_of_length_le inside]
      rw [taken]
      refine shows.of_done finished ?_
      rw [List.length_append, List.length_take]
      omega

theorem done_iff_unturnable :
    ((start rule capacity).pushAll pushed).done = true ↔
      ∀ further, rule.Grants ((pushed ++ further).take capacity) ↔
        rule.Grants (pushed.take capacity) := by
  constructor
  · intro finished further
    have same := (@pushAll_means rule capacity pushed [] (.inl rfl)).1
    rw [List.append_nil] at same
    rw [← same]
    exact (pushAll_means further (.inr finished)).1.symm
  · intro final
    by_contra unfinished
    obtain ⟨shows, short⟩ := shows_of_open (Bool.eq_false_iff.mpr unfinished)
    have unsettled : ¬ rule.Settled pushed := fun settled =>
      unfinished (shows.done_iff.mpr (.inl settled))
    obtain ⟨outcome, turns⟩ := exists_turning unsettled
    apply turns
    have same := final [outcome]
    rwa [List.take_of_length_le (Nat.le_of_lt short),
      List.take_of_length_le (by simpa using Nat.succ_le_of_lt short)] at same

end

theorem pushUntilDone_means {rule : EffectRule} {capacity : Nat} {seen rest : List Outcome}
    {stream : EffectStream} (shows : stream.Shows rule capacity seen)
    (unfinished : rest = [] ∨ stream.done = false)
    (whole : (seen ++ rest).length = capacity) :
    (stream.pushUntilDone rest).result = true ↔ rule.Grants (seen ++ rest) := by
  induction rest generalizing stream seen with
  | nil =>
      rw [List.append_nil]
      exact shows.result_iff
  | cons outcome rest ih =>
      have next := shows.push (unfinished.resolve_left (List.cons_ne_nil _ _)) outcome
      rw [List.append_cons] at whole ⊢
      rw [pushUntilDone]
      cases finished : (stream.push outcome).done with
      | true => exact (next.of_done finished (Nat.le_of_eq whole)).1
      | false => exact ih next (.inr finished) whole

theorem combine_iff (rule : EffectRule) (outcomes : List Outcome) :
    rule.combine outcomes = true ↔ rule.Grants outcomes := by
  refine pushUntilDone_means (shows_start rule outcomes.length) ?_ rfl
  cases outcomes with
  | nil => exact .inl rfl
  | cons outcome outcomes =>
      right
      rw [start, beq_eq_false_iff_ne, List.length_cons]
      omega

/-- Whatever outcomes a stream is given, it shows what the first of them mean, as many as it
has room for, with the place of the one that decides. It is done if and only if no further
outcomes could change this, and then it stays as it is. So a complete list of outcomes is
combined to what it means. -/
theorem done_iff_final (rule : EffectRule) (capacity : Int) (pushed : List Outcome) :
    (((start rule capacity).pushAll pushed).result = true ↔
      rule.Grants (pushed.take (room capacity))) ∧
    (((start rule capacity).pushAll pushed).done = true ↔
      ∀ further, rule.Grants ((pushed ++ further).take (room capacity)) ↔
        rule.Grants (pushed.take (room capacity))) ∧
    (((start rule capacity).pushAll pushed).done = true → ∀ further,
      (start rule capacity).pushAll (pushed ++ further) =
        (start rule capacity).pushAll pushed) ∧
    ((start rule capacity).pushAll pushed).explain =
      (rule.deciding? (pushed.take (room capacity))).toList ∧
    ∀ outcomes, rule.combine outcomes = true ↔ rule.Grants outcomes := by
  have means := @pushAll_means rule (room capacity) pushed [] (.inl rfl)
  have final := @done_iff_unturnable rule (room capacity) pushed
  rw [pushAll_start_withRoom] at means final
  rw [List.append_nil] at means
  refine ⟨means.1, final, fun finished further => ?_, means.2, combine_iff rule⟩
  rw [pushAll_append, pushAll_of_done finished]

/-- A permission is overturned by the prohibition behind it, and nothing overturns that. -/
example : ((start .allowAndDeny 4).pushAll [.indeterminate, .allow, .deny]).explain = [2] ∧
    ((start .allowAndDeny 4).pushAll [.indeterminate, .allow]).done = false ∧
    ((start .allowAndDeny 4).pushAll [.indeterminate, .allow, .deny]).done = true := by
  decide

end EffectStream

end AccessControl
