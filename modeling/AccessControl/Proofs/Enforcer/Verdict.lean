import AccessControl.Proofs.Enforcer.Memory

namespace AccessControl

/-- What a decision says, without how it was come by. -/
def Decision.verdict (decision : Decision) : Bool × List Row :=
  (decision.allowed, decision.explain)

namespace Enforcer

def decideAnew (enforcer : Enforcer) (context : EnforceContext) (values : List Value)
    (explain : Bool) : Answer Decision :=
  match enforcer.select context values with
  | .error fault => .error (.enforce fault)
  | .ok selection =>
      if enforcer.switches.enabled then (enforcer.evaluate selection values explain).1
      else .ok { allowed := true, explain := [], cacheHit := false, ruleErrors := 0 }

theorem decide_fst (enforcer : Enforcer) (context : EnforceContext)
    (values : List Value) (explain : Bool) :
    (enforcer.decide context values explain).1 =
      match enforcer.select context values with
      | .error fault => .error (.enforce fault)
      | .ok selection =>
          if enforcer.switches.enabled then
            match enforcer.cacheKey? context values explain with
            | some key => (enforcer.evaluateCached selection values key).1
            | none => (enforcer.evaluate selection values explain).1
          else .ok { allowed := true, explain := [], cacheHit := false, ruleErrors := 0 } := by
  unfold decide
  cases selected : enforcer.select context values with
  | error fault => rfl
  | ok selection =>
      cases enabled : enforcer.switches.enabled with
      | false => simp
      | true =>
          simp only [Bool.not_true, Bool.false_eq_true, if_false, if_true]
          cases enforcer.cacheKey? context values explain with
          | some key =>
              simp only
              split <;> simp_all
          | none =>
              simp only
              split <;> simp_all

theorem evaluate_map_verdict (enforcer : Enforcer) (selection : Selection)
    (values : List Value) :
    (enforcer.evaluate selection values false).1.map Decision.verdict =
      ((enforcer.evaluate selection values false).1.map (·.allowed)).map (·, []) := by
  rw [evaluate_fst]
  cases (walkRows selection enforcer.function? values
    (enforcer.table.rows selection.policyKey)).1 <;> rfl

theorem evaluate_map_allowed (enforcer : Enforcer) (selection : Selection)
    (values : List Value) (explain : Bool) :
    (enforcer.evaluate selection values explain).1.map (·.allowed) =
      (enforcer.evaluate selection values false).1.map (·.allowed) := by
  rw [evaluate_fst, evaluate_fst]
  cases (walkRows selection enforcer.function? values
    (enforcer.table.rows selection.policyKey)).1 <;> rfl

theorem evaluateCached_fst (enforcer : Enforcer) (selection : Selection)
    (values : List Value) (key : String) :
    (enforcer.evaluateCached selection values key).1 =
      match enforcer.cache.entries.lookup key with
      | some allowed =>
          .ok { allowed, explain := [], cacheHit := true, ruleErrors := 0 }
      | none => (enforcer.evaluate selection values false).1 := by
  unfold evaluateCached
  simp only [DecisionCache.get_fst]
  cases enforcer.cache.entries.lookup key with
  | some allowed => rfl
  | none =>
      have asked : SameBasis enforcer ({ enforcer with
          cache := (enforcer.cache.get key).2 }.record fun metrics =>
            metrics.recordCacheLookup (none : Option Bool).isSome) :=
        ⟨rfl, rfl, rfl, rfl, fun _ => rfl⟩
      rw [← asked.evaluate_eq selection values false]
      simp only
      split
      · next decision after invocations made => rw [made]
      · next failed made => rfl

theorem Reachable.evaluateCached_verdict {enforcer : Enforcer}
    (reachable : Reachable enforcer) {context : EnforceContext} {values : List Value}
    {selection : Selection} (selected : enforcer.select context values = .ok selection)
    (defined : AllDefined values) {key : String}
    (spelled : requestKey? context.key values = some key) :
    (enforcer.evaluateCached selection values key).1.map Decision.verdict =
      (enforcer.evaluate selection values false).1.map Decision.verdict := by
  rw [evaluateCached_fst]
  cases found : enforcer.cache.entries.lookup key with
  | none => rfl
  | some allowed =>
      have fresh := reachable.fresh_of_entry selected defined spelled
        (Entries.mem_of_lookup found)
      unfold Enforcer.fresh at fresh
      rw [selected] at fresh
      simp only at fresh ⊢
      rw [evaluate_map_verdict, fresh]
      rfl

theorem Reachable.decide_verdict {enforcer : Enforcer} (reachable : Reachable enforcer)
    (context : EnforceContext) {values : List Value} (defined : AllDefined values)
    (explain : Bool) :
    (enforcer.decide context values explain).1.map Decision.verdict =
      (enforcer.decideAnew context values explain).map Decision.verdict := by
  rw [decide_fst]
  unfold decideAnew
  cases selected : enforcer.select context values with
  | error fault => rfl
  | ok selection =>
      simp only
      split
      · cases spelled : enforcer.cacheKey? context values explain with
        | none => rfl
        | some key =>
            simp only [cacheKey?, Option.ite_none_right_eq_some, Bool.and_eq_true,
              Bool.not_eq_true'] at spelled
            obtain ⟨⟨-, plain⟩, spelled⟩ := spelled
            rw [plain]
            exact reachable.evaluateCached_verdict selected defined spelled
      · rfl

theorem decideAnew_congr {α : Type} (view : Answer Decision → α) {before after : Enforcer}
    (model : after.model = before.model) (matchers : after.matchers = before.matchers)
    (enabled : after.switches.enabled = before.switches.enabled) {context : EnforceContext}
    {values : List Value} {explain : Bool}
    (evaluates : ∀ selection, before.select context values = .ok selection →
      view (after.evaluate selection values explain).1 =
        view (before.evaluate selection values explain).1) :
    view (after.decideAnew context values explain) =
      view (before.decideAnew context values explain) := by
  unfold decideAnew
  rw [select_congr model matchers, enabled]
  cases selected : before.select context values with
  | error fault => rfl
  | ok selection =>
      simp only
      split
      · exact evaluates selection selected
      · rfl

theorem SameBasis.decideAnew_eq {before after : Enforcer} (same : SameBasis before after)
    (enabled : after.switches.enabled = before.switches.enabled)
    (context : EnforceContext) (values : List Value) (explain : Bool) :
    after.decideAnew context values explain = before.decideAnew context values explain :=
  decideAnew_congr id same.model same.matchers enabled fun selection _ =>
    same.evaluate_eq selection values explain

theorem map_allowed_of_verdict {left right : Answer Decision}
    (agree : left.map Decision.verdict = right.map Decision.verdict) :
    left.map (·.allowed) = right.map (·.allowed) := by
  have first := congrArg (Except.map Prod.fst) agree
  have kept : ∀ answer : Answer Decision,
      (answer.map Decision.verdict).map Prod.fst = answer.map (·.allowed) := by
    intro answer
    cases answer <;> rfl
  rwa [kept, kept] at first

theorem decideAnew_map_allowed (enforcer : Enforcer) (context : EnforceContext)
    (values : List Value) (explain : Bool) :
    (enforcer.decideAnew context values explain).map (·.allowed) =
      (enforcer.decideAnew context values false).map (·.allowed) := by
  unfold decideAnew
  cases enforcer.select context values with
  | error fault => rfl
  | ok selection =>
      simp only
      split
      · exact evaluate_map_allowed enforcer selection values explain
      · rfl

theorem Reachable.decide_map_allowed {enforcer : Enforcer}
    (reachable : Reachable enforcer) (context : EnforceContext) {values : List Value}
    (defined : AllDefined values) :
    (enforcer.decide context values false).1.map (·.allowed) =
      (enforcer.decide context values true).1.map (·.allowed) := by
  rw [map_allowed_of_verdict (reachable.decide_verdict context defined false),
    map_allowed_of_verdict (reachable.decide_verdict context defined true),
    decideAnew_map_allowed enforcer context values true]

/-- What an enforcer remembers cannot be told from its decisions. -/
structure Transparent (enforcer : Enforcer) : Prop where
  explained : ∀ (context : EnforceContext) {values : List Value}, AllDefined values →
    (enforcer.decide context values false).1.map (·.allowed) =
      (enforcer.decide context values true).1.map (·.allowed)
  holds : ∀ entry ∈ enforcer.cache.entries, enforcer.Holds entry
  fresh : ∀ entry ∈ enforcer.cache.entries,
    ∀ {context : EnforceContext} {values : List Value} {selection : Selection},
      enforcer.select context values = .ok selection → AllDefined values →
      requestKey? context.key values = some entry.1 →
      enforcer.fresh context values = .ok entry.2

theorem Reachable.transparent {enforcer : Enforcer} (reachable : Reachable enforcer) :
    enforcer.Transparent where
  explained := fun context _ defined => reachable.decide_map_allowed context defined
  holds := reachable.truthful
  fresh := fun _ member _ _ _ selected defined spelled =>
    reachable.fresh_of_entry selected defined spelled member

section

variable {enforcer : Enforcer} {context : EnforceContext} {values : List Value}
  {selection : Selection}

theorem evaluates_or_recalls (enabled : enforcer.switches.enabled = true)
    (accepted : enforcer.select context values = .ok selection) (explain : Bool) :
    (enforcer.decide context values explain).1 =
        (enforcer.evaluate selection values explain).1 ∨
      explain = false ∧ ∃ key allowed, requestKey? context.key values = some key ∧
        (key, allowed) ∈ enforcer.cache.entries ∧
        (enforcer.decide context values explain).1 =
          .ok { allowed, explain := [], cacheHit := true, ruleErrors := 0 } := by
  rw [decide_fst, accepted]
  simp only [enabled, if_true]
  cases spelled : enforcer.cacheKey? context values explain with
  | none => exact .inl rfl
  | some key =>
      simp only [cacheKey?, Option.ite_none_right_eq_some, Bool.and_eq_true,
        Bool.not_eq_true'] at spelled
      obtain ⟨⟨-, rfl⟩, spelled⟩ := spelled
      dsimp only
      rw [evaluateCached_fst]
      cases found : enforcer.cache.entries.lookup key with
      | none => exact .inl rfl
      | some allowed =>
          exact .inr ⟨rfl, key, allowed, spelled, Entries.mem_of_lookup found, rfl⟩

/-- A decision is the meaning of the rule, unless one on another undefined number is
remembered for the request. -/
theorem decide_meaning (reachable : Reachable enforcer)
    (enabled : enforcer.switches.enabled = true)
    (accepted : enforcer.select context values = .ok selection)
    (evaluated : ∀ row ∈ enforcer.metRows selection values,
      Evaluated (selection.evaluation enforcer.function? values row)) (explain : Bool) :
    ∃ decision, (enforcer.decide context values explain).1 = .ok decision ∧
      (AllDefined values ∨ decision.cacheHit = false →
        (decision.allowed = true ↔
          selection.rule.Grants (enforcer.outcomes selection values))) ∧
      decision.explain =
        (if explain then (enforcer.decidingRow? selection values).toList else []) ∧
      (decision.cacheHit = false →
        decision.ruleErrors = enforcer.faults selection values) ∧
      (explain = true → decision.cacheHit = false) := by
  obtain ⟨fresh, made, grants, row, noHit, counted⟩ := evaluate_meaning evaluated explain
  rcases evaluates_or_recalls enabled accepted explain with
    same | ⟨rfl, key, allowed, spelled, old, hit⟩
  · rw [same]
    exact ⟨fresh, made, fun _ => grants, row, fun _ => counted, fun _ => noHit⟩
  · refine ⟨_, hit, fun certain => ?_, rfl, nofun, nofun⟩
    rcases certain with defined | noHit
    · have remembered := reachable.fresh_of_entry accepted defined spelled old
      unfold Enforcer.fresh at remembered
      rw [accepted] at remembered
      simp only [made] at remembered
      cases remembered
      exact grants
    · cases noHit

end

namespace Sample

def guarded : Enforcer :=
  ((enforcer none).after (.mutate none (.addAll "p"
    [[.text "staff", .text "allow"], [.text "bob", .text "deny"]]))).after
      (.mutate none (.add "g" [.text "bob", .text "staff"]))

theorem reachable_guarded : Reachable guarded := by
  unfold guarded
  exact .after (.after (reachable_enforcer none) (.mutate none _) trivial)
    (.mutate none _) trivial

def selection : Selection :=
  { requestKey := "r"
    request := ["sub"]
    policyKey := "p"
    policy := ["sub", "eft"]
    rule := .allowAndDeny
    matcher }

theorem select_guarded : guarded.select .standard [.text "bob"] = .ok selection :=
  Answer.eq_ok_of_gives (by decide +kernel)

end Sample

namespace Sample

/-- The administrator is let in, and who asks for himself, in whatever group they are. -/
def lobby : Model :=
  { requests := [("r", ["sub", "obj"])]
    policies := [("p", ["sub", "eft"])]
    roles := [("g", .everywhere)]
    effects := [("e", ⟨EffectRule.text .allowOverride, .allowOverride⟩)]
    matchers := [("m", "r.sub in (r.obj, 'root')")] }

theorem read_lobby : lobby.Read :=
  ⟨[(.text "r", .text "sub, obj"), (.text "p", .text "sub, eft"), (.text "g", .text "_, _"),
    (.text "e", .text (EffectRule.text .allowOverride)),
    (.text "m", .text "r.sub in (r.obj, 'root')")],
    Answer.eq_ok_of_gives (by decide +kernel)⟩

def isExpected : Matcher :=
  { text := "r.sub in (r.obj, 'root')"
    root := .compare .within (.field ⟨"r", "sub", []⟩)
      (.sequence [.field ⟨"r", "obj", []⟩, .literal (.text "root")])
    fields := ["r.obj", "r.sub"]
    functions := [] }

theorem compile_lobby : compileMatchers [] lobby = .ok [("m", isExpected)] :=
  Answer.eq_ok_of_gives (by decide +kernel)

def vacant : Enforcer :=
  let settings := { Settings.standard with cacheEnabled := true }
  { settings
    switches := settings.switches
    functions := []
    matchings := []
    model := lobby
    matchers := [("m", isExpected)]
    table := newTable settings lobby
    graphs := newGraphs settings [] lobby
    cache := .empty none
    version := 0
    metrics? := none }

theorem reachable_vacant : Reachable vacant := by
  refine @Reachable.built vacant.settings [] none lobby _ read_lobby ?_
  rw [build, compile_lobby]
  rfl

def manned (effect : String) : Enforcer :=
  vacant.after (.mutate none (.add "p" [.text "anyone", .text effect]))

theorem reachable_manned (effect : String) : Reachable (manned effect) :=
  .after reachable_vacant (.mutate none _) trivial

def selectionExpected : Selection :=
  { requestKey := "r"
    request := ["sub", "obj"]
    policyKey := "p"
    policy := ["sub", "eft"]
    rule := .allowOverride
    matcher := isExpected }

/-- A request whose subject is an undefined number, for the same one or for another. -/
def counting (tag : Nat) : List Value :=
  [.float (.undefined 0), .float (.undefined tag)]

def remembering : Enforcer :=
  (manned "allow").after (.decide .standard (counting 0) false)

theorem reachable_remembering : Reachable remembering :=
  .after (reachable_manned "allow") (.decide _ _ _) trivial

end Sample

end Enforcer

end AccessControl
