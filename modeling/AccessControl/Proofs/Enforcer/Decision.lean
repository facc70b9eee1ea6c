import AccessControl.Enforcer.Decision
import AccessControl.Proofs.Effect

namespace AccessControl

/-- The outcome of a row of a shape, by what the evaluation of the matcher for the
row gave. A row of a shape without an effect field allows. -/
def rowOutcome (shape : Shape) (row : Row) : Answer Bool → Outcome
  | .ok true =>
      if "eft" ∈ shape then
        match (shape.zip row).lookup "eft" with
        | some "allow" => .allow
        | some "deny" => .deny
        | _ => .indeterminate
      else .allow
  | _ => .indeterminate

/-- An evaluation that ends in a truth value or in an evaluation fault. -/
def Evaluated (answer : Answer Bool) : Prop :=
  (∃ holds, answer = .ok holds) ∨ ∃ fault, answer = .error (.eval fault)

instance (answer : Answer Bool) : Decidable (Evaluated answer) :=
  match answer with
  | .ok holds => .isTrue (.inl ⟨holds, rfl⟩)
  | .error (.fault (.eval fault)) => .isTrue (.inr ⟨fault, rfl⟩)
  | .error (.fault (.model _)) => .isFalse (by simp [Evaluated, Failure.eval])
  | .error (.fault (.compile _)) => .isFalse (by simp [Evaluated, Failure.eval])
  | .error (.fault (.enforce _)) => .isFalse (by simp [Evaluated, Failure.eval])
  | .error (.fault (.storage _)) => .isFalse (by simp [Evaluated, Failure.eval])
  | .error (.trap _) => .isFalse (by simp [Evaluated, Failure.eval])

theorem Evaluated.ne_trap {answer : Answer Bool} (evaluated : Evaluated answer) {trap : Trap} :
    answer ≠ .error (.trap trap) := by
  rintro rfl
  rcases evaluated with ⟨_, made⟩ | ⟨_, failed⟩
  · cases made
  · cases failed

namespace Enforcer

theorem lookup_zip (names fields : List String) (name : String) :
    (names.zip fields).lookup name =
      (names.idxOf? name).bind fun index => fields[index]? := by
  induction names generalizing fields with
  | nil => rfl
  | cons first names ih =>
      cases fields with
      | nil => cases (first :: names).idxOf? name <;> rfl
      | cons field fields =>
          rw [List.zip_cons_cons, List.lookup_cons, List.idxOf?_cons]
          by_cases same : first = name
          · simp [same]
          · have differs : (name == first) = false := by
              rw [beq_eq_false_iff_ne]
              exact Ne.symm same
            rw [differs, if_neg (by simpa using same), ih]
            cases names.idxOf? name <;> simp

theorem effectOf_eq (shape : Shape) (row : Row) :
    effectOf shape row = rowOutcome shape row (.ok true) := by
  simp only [effectOf, rowOutcome, lookup_zip]
  by_cases present : "eft" ∈ shape
  · rw [if_pos present]
    cases place : shape.idxOf? "eft" with
    | none => exact absurd present (List.idxOf?_eq_none_iff.mp place)
    | some index => rfl
  · rw [if_neg present, List.idxOf?_eq_none_iff.mpr present]

structure Selects (enforcer : Enforcer) (context : EnforceContext) (selection : Selection) :
    Prop where
  requestKey : selection.requestKey = context.request
  request : enforcer.model.requests.lookup context.request = some selection.request
  policyKey : selection.policyKey = context.policy
  policy : enforcer.model.policies.lookup context.policy = some selection.policy
  effect : ∃ effect, enforcer.model.effects.lookup context.effect = some effect ∧
    selection.rule = effect.rule
  matcher : enforcer.matchers.lookup context.matcher = some selection.matcher

theorem Selects.lookup_policyKey {enforcer : Enforcer} {context : EnforceContext}
    {selection : Selection} (selects : enforcer.Selects context selection) :
    enforcer.model.policies.lookup selection.policyKey = some selection.policy := by
  rw [selects.policyKey]
  exact selects.policy

theorem selects_of_select? {enforcer : Enforcer} {context : EnforceContext}
    {selection : Selection} (selected : enforcer.select? context = some selection) :
    enforcer.Selects context selection := by
  simp only [select?, Option.bind_eq_bind, Option.bind_eq_some_iff, Option.pure_def,
    Option.some.injEq] at selected
  obtain ⟨request, requests, policy, policies, effect, effects, matcher, matchers, rfl⟩ :=
    selected
  exact ⟨rfl, requests, rfl, policies, ⟨effect, effects, rfl⟩, matchers⟩

theorem select_eq_ok {enforcer : Enforcer} {context : EnforceContext} {values : List Value}
    {selection : Selection} :
    enforcer.select context values = .ok selection ↔
      enforcer.select? context = some selection ∧
        values.length = selection.request.length := by
  unfold select
  cases enforcer.select? context with
  | none => simp
  | some found =>
      simp only [Option.some.injEq]
      split
      · next different =>
          simp only [reduceCtorEq, false_iff, not_and]
          rintro rfl same
          exact different same
      · next same =>
          rw [Decidable.not_not] at same
          rw [Except.ok.injEq]
          constructor
          · rintro rfl
            exact ⟨rfl, same⟩
          · exact And.left

theorem selects_of_select {enforcer : Enforcer} {context : EnforceContext}
    {values : List Value} {selection : Selection}
    (selected : enforcer.select context values = .ok selection) :
    enforcer.Selects context selection :=
  selects_of_select? (select_eq_ok.mp selected).1

namespace Selection

variable (selection : Selection) (function? : String → Option Matcher.Function)
  (values : List Value)

def evaluation (row : Row) : Answer Bool :=
  selection.matcher.evaluate (selection.environment function? values row)

def outcome (row : Row) : Outcome :=
  rowOutcome selection.policy row (selection.evaluation function? values row)

def faults (rows : List Row) : Nat :=
  rows.countP fun row => !(selection.evaluation function? values row).isOk

theorem faults_cons (row : Row) (rows : List Row) :
    selection.faults function? values (row :: rows) =
      (if (selection.evaluation function? values row).isOk then 0 else 1) +
        selection.faults function? values rows := by
  rw [faults, List.countP_cons, ← faults, Nat.add_comm]
  cases (selection.evaluation function? values row).isOk <;> rfl

end Selection

theorem step_of_evaluated (walk : Walk) {matcher : Matcher}
    {environment : Matcher.Environment} (shape : Shape) (row : Row)
    (evaluated : Evaluated (matcher.evaluate environment)) :
    ∃ next : Walk,
      walk.step matcher environment (rowOutcome shape row (.ok true)) = (.ok (), next) ∧
      next.stream =
        walk.stream.push (rowOutcome shape row (matcher.evaluate environment)) ∧
      next.ruleErrors =
        walk.ruleErrors + if (matcher.evaluate environment).isOk then 0 else 1 := by
  unfold Walk.step
  obtain ⟨holds, made⟩ | ⟨fault, failed⟩ := evaluated
  · rw [made]
    cases holds <;> exact ⟨_, rfl, rfl, rfl⟩
  · rw [failed]
    exact ⟨_, rfl, rfl, rfl⟩

theorem through_cons {walk next : Walk} {selection : Selection}
    {function? : String → Option Matcher.Function} {values : List Value} {row : Row}
    (stepped : walk.step selection.matcher (selection.environment function? values row)
      (rowOutcome selection.policy row (.ok true)) = (.ok (), next)) (rows : List Row) :
    walk.through selection function? values (row :: rows) =
      if next.stream.done then (.ok (), next)
      else next.through selection function? values rows := by
  rw [Walk.through, effectOf_eq, stepped]

/-- A walk has ended with what all outcomes mean. -/
structure Walk.Means (walked : Except Failure Unit × Walk) (rule : EffectRule)
    (outcomes : List Outcome) (ruleErrors : Nat) : Prop where
  ended : walked.1 = .ok ()
  result_iff : walked.2.stream.result = true ↔ rule.Grants outcomes
  explain_eq : walked.2.stream.explain = (rule.deciding? outcomes).toList
  ruleErrors_eq : walked.2.ruleErrors = ruleErrors

section

variable {selection : Selection} {function? : String → Option Matcher.Function}
  {values : List Value} {rows : List Row} {walk : Walk} {rule : EffectRule}
  {seen : List Outcome}

/-- A walk that begins with an unfinished stream ends with what all outcomes mean, if the
evaluations are reported of the rows that it meets. -/
theorem through_means (shows : walk.stream.Shows rule (seen.length + rows.length) seen)
    (unfinished : walk.stream.done = false)
    (evaluated : ∀ row ∈ rule.upTo (selection.outcome function? values) rows,
      Evaluated (selection.evaluation function? values row)) :
    Walk.Means (walk.through selection function? values rows) rule
      (seen ++ rows.map (selection.outcome function? values))
      (walk.ruleErrors + selection.faults function? values
        (rule.upTo (selection.outcome function? values) rows)) := by
  induction rows generalizing walk seen with
  | nil =>
      have finished := shows.done_iff.mpr (.inr (by simp))
      rw [unfinished] at finished
      cases finished
  | cons row rows ih =>
      obtain ⟨next, stepped, pushed, counted⟩ :=
        step_of_evaluated walk selection.policy row
          (evaluated row (EffectRule.mem_upTo_cons rule _ row rows))
      have done := shows.done_push_iff unfinished (selection.outcome function? values row)
      have after := shows.push unfinished (selection.outcome function? values row)
      rw [Selection.outcome, Selection.evaluation, ← pushed] at done after
      rw [through_cons stepped, List.map_cons, List.append_cons]
      split
      · next finished =>
          obtain ⟨result, explain⟩ := @EffectStream.Shows.of_done _ _ _ _ after finished
            (rows.map (selection.outcome function? values)) (by simp)
          refine ⟨rfl, result, explain, ?_⟩
          have met : rule.upTo (selection.outcome function? values) (row :: rows) = [row] := by
            rw [EffectRule.upTo]
            rcases done.mp finished with settles | last
            · exact if_pos settles
            · rw [List.length_eq_zero_iff.mp last, EffectRule.upTo, ite_self]
          rw [met, Selection.faults_cons, counted]
          rfl
      · next undecided =>
          have continues : ¬ rule.settles (selection.outcome function? values row) = true :=
            fun settles => undecided (done.mpr (.inl settles))
          rw [EffectRule.upTo, if_neg continues] at evaluated ⊢
          rw [List.length_cons, Nat.add_comm rows.length, ← Nat.add_assoc,
            ← List.length_singleton, ← List.length_append] at after
          have rest := ih after (by simpa using undecided)
            fun row member => evaluated row (List.mem_cons_of_mem _ member)
          refine ⟨rest.ended, rest.result_iff, rest.explain_eq, ?_⟩
          rw [rest.ruleErrors_eq, counted, Selection.faults_cons, Nat.add_assoc]
          rfl

/-- A walk that comes to a row whose evaluation is trapped ends with the trap. -/
theorem through_of_trap {trap : Trap}
    (shows : walk.stream.Shows rule (seen.length + rows.length) seen)
    (unfinished : walk.stream.done = false)
    (known : ∀ row ∈ rule.upTo (selection.outcome function? values) rows,
      Evaluated (selection.evaluation function? values row) ∨
        selection.evaluation function? values row = .error (.trap trap))
    (trapped : ∃ row ∈ rule.upTo (selection.outcome function? values) rows,
      selection.evaluation function? values row = .error (.trap trap)) :
    (walk.through selection function? values rows).1 = .error (.trap trap) := by
  induction rows generalizing walk seen with
  | nil =>
      obtain ⟨row, member, -⟩ := trapped
      cases member
  | cons row rows ih =>
      rcases known row (EffectRule.mem_upTo_cons rule _ row rows) with evaluated | fails
      · obtain ⟨next, stepped, pushed, -⟩ :=
          step_of_evaluated walk selection.policy row evaluated
        have done := shows.done_push_iff unfinished (selection.outcome function? values row)
        have after := shows.push unfinished (selection.outcome function? values row)
        rw [Selection.outcome, Selection.evaluation, ← pushed] at done after
        obtain ⟨other, member, fails⟩ := trapped
        have different : other ≠ row := by
          rintro rfl
          exact evaluated.ne_trap fails
        rw [EffectRule.upTo] at known member
        split at member
        · exact absurd (List.mem_singleton.mp member) different
        · next continues =>
            rw [if_neg continues] at known
            have later := (List.mem_cons.mp member).resolve_left different
            have undecided : next.stream.done = false := by
              rw [Bool.eq_false_iff, ne_eq, done, not_or]
              refine ⟨continues, fun empty => ?_⟩
              rw [List.length_eq_zero_iff.mp empty] at later
              cases later
            rw [through_cons stepped, if_neg (Bool.eq_false_iff.mp undecided)]
            rw [List.length_cons, Nat.add_comm rows.length, ← Nat.add_assoc,
              ← List.length_singleton, ← List.length_append] at after
            exact ih after undecided (fun row member => known row (List.mem_cons_of_mem _ member))
              ⟨other, later, fails⟩
      · rw [Walk.through, Walk.step]
        rw [Selection.evaluation] at fails
        rw [fails]
        rfl

end

/-- The outcomes of the rows, in their order; without rows, the outcome for empty
fields, which has no effect field. -/
def outcomes (enforcer : Enforcer) (selection : Selection) (values : List Value) :
    List Outcome :=
  if enforcer.table.rows selection.policyKey = [] then
    [rowOutcome [] []
      (selection.evaluation enforcer.function? values selection.emptyRow)]
  else
    (enforcer.table.rows selection.policyKey).map
      (selection.outcome enforcer.function? values)

def Evaluable (enforcer : Enforcer) (selection : Selection) (values : List Value) :
    Prop :=
  if enforcer.table.rows selection.policyKey = [] then
    Evaluated (selection.evaluation enforcer.function? values selection.emptyRow)
  else
    ∀ row ∈ enforcer.table.rows selection.policyKey,
      Evaluated (selection.evaluation enforcer.function? values row)

instance (enforcer : Enforcer) (selection : Selection) (values : List Value) :
    Decidable (enforcer.Evaluable selection values) :=
  inferInstanceAs (Decidable (if enforcer.table.rows selection.policyKey = [] then
      Evaluated (selection.evaluation enforcer.function? values selection.emptyRow)
    else
      ∀ row ∈ enforcer.table.rows selection.policyKey,
        Evaluated (selection.evaluation enforcer.function? values row)))

def decidingRow? (enforcer : Enforcer) (selection : Selection) (values : List Value) :
    Option Row :=
  (selection.rule.deciding? (enforcer.outcomes selection values)).bind fun index =>
    (enforcer.table.rows selection.policyKey)[index]?

/-- The rows that are met: those up to the first one that decides, and the empty one where
there are no rows. -/
def metRows (enforcer : Enforcer) (selection : Selection) (values : List Value) :
    List Row :=
  if enforcer.table.rows selection.policyKey = [] then [selection.emptyRow]
  else selection.rule.upTo (selection.outcome enforcer.function? values)
    (enforcer.table.rows selection.policyKey)

def faults (enforcer : Enforcer) (selection : Selection) (values : List Value) : Nat :=
  selection.faults enforcer.function? values (enforcer.metRows selection values)

theorem Evaluable.met {enforcer : Enforcer} {selection : Selection} {values : List Value}
    (evaluable : enforcer.Evaluable selection values) :
    ∀ row ∈ enforcer.metRows selection values,
      Evaluated (selection.evaluation enforcer.function? values row) := by
  unfold Evaluable at evaluable
  unfold metRows
  intro row member
  split at evaluable
  · next empty =>
      rw [if_pos empty] at member
      rwa [List.mem_singleton.mp member]
  · next filled =>
      rw [if_neg filled] at member
      exact evaluable row (EffectRule.upTo_subset _ _ _ member)

theorem start_unfinished (rule : EffectRule) {rows : List Row} (nonempty : rows ≠ []) :
    (EffectStream.start rule rows.length).done = false := by
  simp only [EffectStream.start, beq_eq_false_iff_ne, ne_eq]
  have length : rows.length ≠ 0 := mt List.length_eq_zero_iff.mp nonempty
  omega

section

variable {enforcer : Enforcer} {selection : Selection} {values : List Value}

theorem walkRows_means (evaluated : ∀ row ∈ enforcer.metRows selection values,
      Evaluated (selection.evaluation enforcer.function? values row)) :
    Walk.Means (walkRows selection enforcer.function? values
        (enforcer.table.rows selection.policyKey)) selection.rule
      (enforcer.outcomes selection values) (enforcer.faults selection values) := by
  unfold metRows at evaluated
  unfold walkRows outcomes faults metRows
  by_cases empty : enforcer.table.rows selection.policyKey = []
  · rw [if_pos empty] at evaluated ⊢
    rw [if_pos empty, empty, List.isEmpty_nil, if_pos rfl]
    have begun : (EffectStream.start selection.rule 1).Shows selection.rule 1 [] :=
      EffectStream.shows_start selection.rule 1
    obtain ⟨next, stepped, pushed, counted⟩ :=
      step_of_evaluated ⟨.start selection.rule 1, 0, []⟩ [] []
        (evaluated _ (List.mem_singleton_self _))
    have after := begun.push rfl (rowOutcome [] []
      (selection.evaluation enforcer.function? values selection.emptyRow))
    rw [Selection.evaluation, ← pushed] at after
    change Walk.Means (Walk.step _ _ _ (rowOutcome [] [] (.ok true))) _ _ _
    rw [stepped]
    refine ⟨rfl, after.result_iff, after.explain_eq, ?_⟩
    rw [counted, Selection.faults_cons, Nat.zero_add]
    rfl
  · rw [if_neg empty] at evaluated ⊢
    rw [if_neg empty, if_neg (by simpa using empty)]
    have means := @through_means _ _ _ _ ⟨.start selection.rule _, 0, []⟩ _ []
      (by simpa using EffectStream.shows_start selection.rule _)
      (start_unfinished selection.rule empty) evaluated
    rwa [Nat.zero_add] at means

theorem walkRows_of_trap {trap : Trap}
    (known : ∀ row ∈ enforcer.metRows selection values,
      Evaluated (selection.evaluation enforcer.function? values row) ∨
        selection.evaluation enforcer.function? values row = .error (.trap trap))
    (trapped : ∃ row ∈ enforcer.metRows selection values,
      selection.evaluation enforcer.function? values row = .error (.trap trap)) :
    (walkRows selection enforcer.function? values
      (enforcer.table.rows selection.policyKey)).1 = .error (.trap trap) := by
  unfold metRows at known trapped
  unfold walkRows
  by_cases empty : enforcer.table.rows selection.policyKey = []
  · rw [if_pos empty] at trapped
    rw [empty, List.isEmpty_nil, if_pos rfl]
    obtain ⟨row, member, fails⟩ := trapped
    rw [List.mem_singleton.mp member, Selection.evaluation] at fails
    rw [Walk.step, fails]
    rfl
  · rw [if_neg empty] at known trapped
    rw [if_neg (by simpa using empty)]
    exact @through_of_trap _ _ _ _ ⟨.start selection.rule _, 0, []⟩ _ [] _
      (by simpa using EffectStream.shows_start selection.rule _)
      (start_unfinished selection.rule empty) known trapped

end

theorem evaluate_fst {enforcer : Enforcer} {selection : Selection}
    {values : List Value} {explain : Bool} :
    (enforcer.evaluate selection values explain).1 =
      (walkRows selection enforcer.function? values
        (enforcer.table.rows selection.policyKey)).1.map fun _ =>
          { allowed := (walkRows selection enforcer.function? values
              (enforcer.table.rows selection.policyKey)).2.stream.result
            explain := if explain then explained
                (enforcer.table.rows selection.policyKey)
                (walkRows selection enforcer.function? values
                  (enforcer.table.rows selection.policyKey)).2.stream
              else []
            cacheHit := false
            ruleErrors := (walkRows selection enforcer.function? values
              (enforcer.table.rows selection.policyKey)).2.ruleErrors } := by
  unfold evaluate
  simp only
  split
  · next failure failed =>
      rw [failed]
      rfl
  · next done =>
      rw [done]
      rfl

/-- An evaluation decides by the meaning of the rule, and explains the decision by
the row that decides. -/
theorem evaluate_meaning {enforcer : Enforcer} {selection : Selection}
    {values : List Value} (evaluated : ∀ row ∈ enforcer.metRows selection values,
      Evaluated (selection.evaluation enforcer.function? values row)) (explain : Bool) :
    ∃ decision, (enforcer.evaluate selection values explain).1 = .ok decision ∧
      (decision.allowed = true ↔
        selection.rule.Grants (enforcer.outcomes selection values)) ∧
      decision.explain =
        (if explain then (enforcer.decidingRow? selection values).toList else []) ∧
      decision.cacheHit = false ∧
      decision.ruleErrors = enforcer.faults selection values := by
  obtain ⟨ended, result, place, counted⟩ := walkRows_means evaluated
  rw [evaluate_fst, ended]
  refine ⟨_, rfl, result, ?_, rfl, counted⟩
  simp only [explained, place, decidingRow?]
  congr 1
  cases selection.rule.deciding? (enforcer.outcomes selection values) with
  | none => rfl
  | some index =>
      cases found : (enforcer.table.rows selection.policyKey)[index]? <;> simp [found]

end Enforcer

end AccessControl
