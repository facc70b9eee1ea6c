import AccessControl.Proofs.Enforcer.Verdict
import AccessControl.Proofs.Matcher.Membership
import AccessControl.Proofs.Matcher.Plain

namespace AccessControl

/-! A row whose evaluation fails is only counted, unless the evaluation comes to a test for
membership whose collection cannot look up the member: that ends the whole request. -/

theorem Matcher.evaluated_of_not_stumbles {matcher : Matcher}
    {environment : Matcher.Environment} (steady : ¬ matcher.root.Stumbles environment) :
    Evaluated (matcher.evaluate environment) := by
  have confined := Matcher.confined_evaluate matcher environment
  cases made : matcher.evaluate environment with
  | ok holds => exact .inl ⟨holds, rfl⟩
  | error failure =>
      rcases confined failure made with ⟨fault, rfl⟩ | ⟨-, stumbles⟩
      · exact .inr ⟨fault, rfl⟩
      · exact absurd stumbles steady

namespace Enforcer

def Stumbles (enforcer : Enforcer) (selection : Selection) (values : List Value) : Prop :=
  ∃ row ∈ enforcer.metRows selection values,
    selection.matcher.root.Stumbles (selection.environment enforcer.function? values row)

/-- The values can be written, and the rows that are met ask for nothing that a value has by
its type. -/
structure IsPlain (enforcer : Enforcer) (selection : Selection) (values : List Value) : Prop where
  writable : ∀ value ∈ values, value.isWritable = true
  own : ∀ row ∈ enforcer.metRows selection values,
    selection.matcher.root.IsPlain (selection.environment enforcer.function? values row)

section

variable {enforcer : Enforcer} {context : EnforceContext} {values : List Value}
  {selection : Selection}

theorem not_stumbles_of_evaluated (evaluated : ∀ row ∈ enforcer.metRows selection values,
      Evaluated (selection.evaluation enforcer.function? values row)) :
    ¬ enforcer.Stumbles selection values := by
  rintro ⟨row, met, stumbles⟩
  exact (evaluated row met).ne_trap (Matcher.evaluate_of_stumbles stumbles)

theorem evaluate_of_stumbles (stumbles : enforcer.Stumbles selection values)
    (explain : Bool) :
    (enforcer.evaluate selection values explain).1 = .error (.trap .unhashable) := by
  obtain ⟨row, met, stumbles⟩ := stumbles
  rw [evaluate_fst, walkRows_of_trap ?_ ⟨row, met, Matcher.evaluate_of_stumbles stumbles⟩]
  · rfl
  · intro other _
    by_cases again : selection.matcher.root.Stumbles
        (selection.environment enforcer.function? values other)
    · exact .inr (Matcher.evaluate_of_stumbles again)
    · exact .inl (Matcher.evaluated_of_not_stumbles again)

theorem decide_disabled (disabled : enforcer.switches.enabled = false)
    (accepted : enforcer.select context values = .ok selection) (explain : Bool) :
    (enforcer.decide context values explain).1 =
      .ok { allowed := true, explain := [], cacheHit := false, ruleErrors := 0 } := by
  rw [decide_fst, accepted, disabled]
  rfl

/-- A request that comes to such a test is not decided, unless a decision on another
undefined number is remembered for it. -/
theorem decide_of_stumbles (reachable : Reachable enforcer)
    (enabled : enforcer.switches.enabled = true)
    (accepted : enforcer.select context values = .ok selection)
    (stumbles : enforcer.Stumbles selection values) {explain : Bool}
    (certain : explain = true ∨ AllDefined values) :
    (enforcer.decide context values explain).1 = .error (.trap .unhashable) := by
  rcases evaluates_or_recalls enabled accepted explain with
    same | ⟨plain, key, allowed, spelled, old, -⟩
  · rw [same, evaluate_of_stumbles stumbles]
  · have defined := certain.resolve_left (by simp [plain])
    have remembered := reachable.fresh_of_entry accepted defined spelled old
    unfold Enforcer.fresh at remembered
    rw [accepted] at remembered
    simp only [evaluate_of_stumbles stumbles] at remembered
    cases remembered

/-- The evaluation of a matcher that asks for nothing that a value has by its type ends in a
truth value or in a fault exactly if it comes to no test for membership whose collection
cannot look up the member. Where no row that is met comes to one, every accepted request of
values that can be written is decided: rows that cannot be evaluated have no outcome and are
counted. Where one does, the request ends without a decision. -/
theorem decides_unless_stumbles (reachable : Reachable enforcer)
    (accepted : enforcer.select context values = .ok selection) (explain : Bool) :
    (∀ (matcher : Matcher) (environment : Matcher.Environment),
      matcher.root.IsPlain environment →
        (¬ matcher.root.Stumbles environment → Evaluated (matcher.evaluate environment)) ∧
        (matcher.root.Stumbles environment →
          matcher.evaluate environment = .error (.trap .unhashable))) ∧
    ((enforcer.switches.enabled = true →
        enforcer.IsPlain selection values ∧ ¬ enforcer.Stumbles selection values) →
      ∃ decision, (enforcer.decide context values explain).1 = .ok decision ∧
        (enforcer.switches.enabled = true →
          (AllDefined values ∨ decision.cacheHit = false →
            (decision.allowed = true ↔
              selection.rule.Grants (enforcer.outcomes selection values))) ∧
          (decision.cacheHit = false →
            decision.ruleErrors = enforcer.faults selection values))) ∧
    (enforcer.switches.enabled = true → enforcer.IsPlain selection values →
      enforcer.Stumbles selection values → explain = true ∨ AllDefined values →
        (enforcer.decide context values explain).1 = .error (.trap .unhashable)) := by
  refine ⟨fun _ _ _ => ⟨Matcher.evaluated_of_not_stumbles, Matcher.evaluate_of_stumbles⟩,
    fun steady => ?_, fun enabled _ stumbles certain =>
      decide_of_stumbles reachable enabled accepted stumbles certain⟩
  cases enabled : enforcer.switches.enabled with
  | false => exact ⟨_, decide_disabled enabled accepted explain, nofun⟩
  | true =>
      have evaluated : ∀ row ∈ enforcer.metRows selection values,
          Evaluated (selection.evaluation enforcer.function? values row) := fun row met =>
        Matcher.evaluated_of_not_stumbles fun stumbles =>
          (steady enabled).2 ⟨row, met, stumbles⟩
      obtain ⟨decision, made, grants, -, counted, -⟩ :=
        decide_meaning reachable enabled accepted evaluated explain
      exact ⟨decision, made, fun _ => ⟨grants, counted⟩⟩

end

namespace Sample

def guests : Model :=
  { requests := [("r", ["sub", "obj"])]
    policies := [("p", ["obj", "eft"])]
    roles := []
    effects := [("e", ⟨EffectRule.text .allowAndDeny, .allowAndDeny⟩)]
    matchers := [("m", "r.sub in r.obj")] }

theorem read_guests : guests.Read :=
  ⟨[(.text "r", .text "sub, obj"), (.text "p", .text "obj, eft"),
    (.text "e", .text (EffectRule.text .allowAndDeny)), (.text "m", .text "r.sub in r.obj")],
    Answer.eq_ok_of_gives (by decide +kernel)⟩

def isListed : Matcher :=
  { text := "r.sub in r.obj"
    root := .compare .within (.field ⟨"r", "sub", []⟩) (.field ⟨"r", "obj", []⟩)
    fields := ["r.obj", "r.sub"]
    functions := [] }

def listing : Enforcer :=
  { settings := .standard
    switches := Settings.standard.switches
    functions := []
    matchings := []
    model := guests
    matchers := [("m", isListed)]
    table := newTable .standard guests
    graphs := newGraphs .standard [] guests
    cache := .empty none
    version := 0
    metrics? := none : Enforcer }.after
      (.mutate none (.add "p" [.text "data", .text "allow"]))

theorem compile_guests : compileMatchers [] guests = .ok [("m", isListed)] :=
  Answer.eq_ok_of_gives (by decide +kernel)

theorem reachable_listing : Reachable listing := by
  refine .after ?_ _ trivial
  refine @Reachable.built .standard [] none guests _ read_guests ?_
  rw [build, compile_guests]
  rfl

def selectionListed : Selection :=
  { requestKey := "r"
    request := ["sub", "obj"]
    policyKey := "p"
    policy := ["obj", "eft"]
    rule := .allowAndDeny
    matcher := isListed }

def asking (subject : Value) (lists : Bool) : List Value :=
  [subject, if lists then .mapping [("alice", .int 1)] else .int 5]

theorem select_listing (subject : Value) (lists : Bool) :
    listing.select .standard (asking subject lists) = .ok selectionListed :=
  select_eq_ok.mpr ⟨by decide +kernel, rfl⟩

theorem isPlain_listing {subject : Value} (writable : subject.isWritable = true) (lists : Bool) :
    listing.IsPlain selectionListed (asking subject lists) where
  writable := by
    intro value member
    rcases List.mem_pair.mp member with rfl | rfl
    · exact writable
    · cases lists <;> decide +kernel
  own := fun _ _ => Matcher.Node.isPlain_of_noPaths (by decide) _

theorem steady_listing (lists : Bool) :
    ¬ listing.Stumbles selectionListed (asking (.text "alice") lists) := by
  refine not_stumbles_of_evaluated ?_
  cases lists <;> decide +kernel

theorem stumbles_listing :
    listing.Stumbles selectionListed (asking (.list [.text "alice"]) true) :=
  ⟨["data", "allow"], by decide +kernel, .membership (.inl rfl) rfl rfl (.mapping rfl)⟩

end Sample

/-- Alice is let in where she is listed. Where nothing can be listed, the row is counted as
a fault. A list of Alice is not decided on. -/
theorem decides_unless_stumbles_listing :
    (∃ decision, (Sample.listing.decide .standard (Sample.asking (.text "alice") true)
        true).1 = .ok decision ∧ (decision.cacheHit = false → decision.allowed = true)) ∧
    (∃ decision, (Sample.listing.decide .standard (Sample.asking (.text "alice") false)
        true).1 = .ok decision ∧
      (decision.cacheHit = false → decision.allowed = false ∧ decision.ruleErrors = 1)) ∧
    (Sample.listing.decide .standard (Sample.asking (.list [.text "alice"]) true) true).1 =
      .error (.trap .unhashable) := by
  obtain ⟨-, decided, -⟩ := decides_unless_stumbles Sample.reachable_listing
    (Sample.select_listing (.text "alice") true) true
  obtain ⟨-, refused, -⟩ := decides_unless_stumbles Sample.reachable_listing
    (Sample.select_listing (.text "alice") false) true
  obtain ⟨-, -, trapped⟩ := decides_unless_stumbles Sample.reachable_listing
    (Sample.select_listing (.list [.text "alice"]) true) true
  obtain ⟨decision, made, meant⟩ := decided fun _ =>
    ⟨Sample.isPlain_listing rfl true, Sample.steady_listing true⟩
  obtain ⟨refusal, madeToo, meantToo⟩ := refused fun _ =>
    ⟨Sample.isPlain_listing rfl false, Sample.steady_listing false⟩
  refine ⟨⟨decision, made, fun noHit => ?_⟩, ⟨refusal, madeToo, fun noHit => ⟨?_, ?_⟩⟩,
    trapped rfl (Sample.isPlain_listing rfl true) Sample.stumbles_listing (.inl rfl)⟩
  · rw [(meant rfl).1 (.inr noHit)]
    decide +kernel
  · rw [Bool.eq_false_iff, ne_eq, (meantToo rfl).1 (.inr noHit)]
    decide +kernel
  · rw [(meantToo rfl).2 noHit]
    decide +kernel

/-- The evaluation for a list of Alice ends in a failure that is no fault of an
evaluation, and so does the request. -/
theorem not_evaluated_listing :
    Sample.listing.select .standard (Sample.asking (.list [.text "alice"]) true) =
      .ok Sample.selectionListed ∧
    Sample.selectionListed.evaluation Sample.listing.function?
      (Sample.asking (.list [.text "alice"]) true) ["data", "allow"] =
        .error (.trap .unhashable) ∧
    ¬ Evaluated (Sample.selectionListed.evaluation Sample.listing.function?
      (Sample.asking (.list [.text "alice"]) true) ["data", "allow"]) ∧
    ∀ decision, (Sample.listing.decide .standard
      (Sample.asking (.list [.text "alice"]) true) true).1 ≠ .ok decision := by
  refine ⟨Sample.select_listing _ _, rfl, by decide +kernel, fun decision made => ?_⟩
  rw [decide_of_stumbles Sample.reachable_listing rfl (Sample.select_listing _ _)
    Sample.stumbles_listing (.inl rfl)] at made
  cases made

end Enforcer

end AccessControl
