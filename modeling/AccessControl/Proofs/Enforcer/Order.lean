import AccessControl.Proofs.Enforcer.Isolation
import AccessControl.Proofs.Role.Isolation

namespace AccessControl

/-! Lines that are loaded in another order, or more than once. Except for the priority, they
lead to the same decisions: neither the role graphs nor the rules of the other effects depend
on which rows come first. -/

theorem Model.fits_congr {model : Model} {lines others : Lines}
    (same : ∀ line, line ∈ others ↔ line ∈ lines) : model.Fits others ↔ model.Fits lines := by
  simp only [Model.Fits, same]

/-- Whether a decision allows, and whether there is a row that explains it. Rows that could
explain a decision equally well may come in any order. -/
def Decision.gist (decision : Decision) : Bool × Bool :=
  (decision.allowed, decision.explain.isEmpty)

theorem map_gist_of_verdict {left right : Answer Decision}
    (agree : left.map Decision.verdict = right.map Decision.verdict) :
    left.map Decision.gist = right.map Decision.gist := by
  have kept : ∀ answer : Answer Decision, answer.map Decision.gist =
      (answer.map Decision.verdict).map fun verdict => (verdict.1, verdict.2.isEmpty) := by
    intro answer
    cases answer <;> rfl
  rw [kept, kept, agree]

namespace Enforcer

theorem sameAnswers_of_mem_iff {settings : Settings}
    {matchings : Entries String RoleMatching} {role : String} {rows others : List Row}
    (total : (newGraph settings matchings role).Total)
    (same : ∀ row, row ∈ others ↔ row ∈ rows) (scope : RoleScope) :
    (rows.foldl (addRow scope) (newGraph settings matchings role)).SameAnswers
      (others.foldl (addRow scope) (newGraph settings matchings role)) := by
  have isGraph := graphOf_new settings matchings role scope rows
  have itself := isGraph.fresh fun row => Iff.rfl
  refine (isGraph.fresh same).sameAnswers_of_aloof isGraph.links.sound ?_ (isGraph.total total)
  -- A graph that was never changed has no names without links.
  intro domain name remains
  exact absurd ((itself.knowsIn_iff domain name).mp remains.1) remains.2

/-- The rows are the same but for their order and repetition, and the rest is the same as far
as decisions depend on it. -/
structure Shuffled (first second : Enforcer) : Prop where
  enabled : second.switches.enabled = first.switches.enabled
  model : second.model = first.model
  matchers : second.matchers = first.matchers
  functions : second.function? = first.function?
  mem_rows : ∀ key row, row ∈ second.table.rows key ↔ row ∈ first.table.rows key

/-- A request whose rule is not that of the priority, and all of whose evaluations end in a
truth value or in an evaluation fault. -/
def Orderless (enforcer : Enforcer) (context : EnforceContext) (values : List Value) : Prop :=
  ∀ selection, enforcer.select context values = .ok selection →
    selection.rule ≠ .priority ∧ enforcer.Evaluable selection values

theorem decidingRow?_isSome (enforcer : Enforcer) (selection : Selection)
    (values : List Value) :
    (enforcer.decidingRow? selection values).isSome = true ↔
      enforcer.table.rows selection.policyKey ≠ [] ∧
        (selection.rule.deciding? (enforcer.outcomes selection values)).isSome = true := by
  unfold decidingRow?
  cases decides : selection.rule.deciding? (enforcer.outcomes selection values) with
  | none => simp
  | some index =>
      have inside := EffectRule.lt_of_deciding? decides
      by_cases empty : enforcer.table.rows selection.policyKey = []
      · simp [empty]
      · rw [outcomes, if_neg empty, List.length_map] at inside
        simp [empty, inside]

section

variable {first second : Enforcer} (shuffled : Shuffled first second)
include shuffled

theorem Shuffled.rows_eq_nil_iff (key : String) :
    second.table.rows key = [] ↔ first.table.rows key = [] := by
  simp only [List.eq_nil_iff_forall_not_mem, shuffled.mem_rows]

theorem Shuffled.mem_outcomes (selection : Selection) (values : List Value)
    (outcome : Outcome) :
    outcome ∈ second.outcomes selection values ↔
      outcome ∈ first.outcomes selection values := by
  simp only [outcomes, shuffled.functions, shuffled.rows_eq_nil_iff]
  split
  · rfl
  · simp only [List.mem_map, shuffled.mem_rows]

theorem Shuffled.evaluable (selection : Selection) (values : List Value) :
    second.Evaluable selection values ↔ first.Evaluable selection values := by
  simp only [Evaluable, shuffled.functions, shuffled.rows_eq_nil_iff, shuffled.mem_rows]

theorem Shuffled.evaluate_gist {selection : Selection} {values : List Value}
    (notPriority : selection.rule ≠ .priority) (evaluable : first.Evaluable selection values)
    (explain : Bool) :
    (second.evaluate selection values explain).1.map Decision.gist =
      (first.evaluate selection values explain).1.map Decision.gist := by
  obtain ⟨decision, made, grants, row, -⟩ := evaluate_meaning evaluable.met explain
  obtain ⟨other, madeOther, grantsOther, rowOther, -⟩ :=
    evaluate_meaning ((shuffled.evaluable selection values).mpr evaluable).met explain
  have same := shuffled.mem_outcomes selection values
  have allowed : other.allowed = decision.allowed := by
    rw [Bool.eq_iff_iff, grants, grantsOther]
    exact EffectRule.grants_congr same notPriority
  have deciding : (second.decidingRow? selection values).isSome =
      (first.decidingRow? selection values).isSome := by
    rw [Bool.eq_iff_iff, decidingRow?_isSome, decidingRow?_isSome, ne_eq, ne_eq,
      shuffled.rows_eq_nil_iff, EffectRule.deciding?_isSome_congr same]
  have explained : other.explain.isEmpty = decision.explain.isEmpty := by
    have empty : ∀ row? : Option Row, row?.toList.isEmpty = !row?.isSome := by
      intro row?
      cases row? <;> rfl
    rw [row, rowOther]
    cases explain with
    | false => rfl
    | true => rw [if_pos rfl, if_pos rfl, empty, empty, deciding]
  rw [made, madeOther]
  change Except.ok (other.allowed, other.explain.isEmpty) = _
  rw [allowed, explained]
  rfl

theorem Shuffled.decideAnew_gist {context : EnforceContext} {values : List Value}
    (orderless : first.Orderless context values) (explain : Bool) :
    (second.decideAnew context values explain).map Decision.gist =
      (first.decideAnew context values explain).map Decision.gist := by
  refine decideAnew_congr (·.map Decision.gist) shuffled.model shuffled.matchers
    shuffled.enabled fun selection selected => ?_
  obtain ⟨notPriority, evaluable⟩ := orderless selection selected
  exact shuffled.evaluate_gist notPriority evaluable explain

end

/-- The enforcer after it has decided on requests, with or without an explanation. -/
def asked (enforcer : Enforcer) (requests : List (EnforceContext × List Value × Bool)) :
    Enforcer :=
  requests.foldl (fun enforcer (context, values, explain) =>
    enforcer.after (.decide context values explain)) enforcer

theorem Reachable.asked {enforcer : Enforcer} (reachable : Reachable enforcer)
    (requests : List (EnforceContext × List Value × Bool)) :
    Reachable (enforcer.asked requests) := by
  induction requests generalizing enforcer with
  | nil => exact reachable
  | cons request requests ih => exact ih (reachable.after (.decide _ _ _) trivial)

theorem decideAnew_asked (enforcer : Enforcer)
    (requests : List (EnforceContext × List Value × Bool)) (context : EnforceContext)
    (values : List Value) (explain : Bool) :
    (enforcer.asked requests).decideAnew context values explain =
      enforcer.decideAnew context values explain := by
  induction requests generalizing enforcer with
  | nil => rfl
  | cons request requests ih =>
      obtain ⟨cache, metrics?, left⟩ := enforcer.decide_snd request.1 request.2.1 request.2.2
      have same : SameBasis enforcer { enforcer with cache, metrics? } :=
        ⟨rfl, rfl, rfl, rfl, fun _ => rfl⟩
      rw [← left] at same
      exact (ih _).trans (same.decideAnew_eq (by rw [left]) context values explain)

/-- A decision is that of a new evaluation, whatever was asked before. A remembered one for a
request with an undefined number may be that on another one. -/
theorem Reachable.decide_asked_gist {enforcer : Enforcer} (reachable : Reachable enforcer)
    (requests : List (EnforceContext × List Value × Bool)) (context : EnforceContext)
    {values : List Value} {explain : Bool} (certain : explain = true ∨ AllDefined values) :
    ((enforcer.asked requests).decide context values explain).1.map Decision.gist =
      (enforcer.decideAnew context values explain).map Decision.gist := by
  rw [← decideAnew_asked enforcer requests]
  rcases certain with rfl | defined
  · rw [decide_explained]
  · exact map_gist_of_verdict
      ((reachable.asked requests).decide_verdict context defined explain)

/-- The enforcers are set up in the same way as far as decisions depend on it. Whether their
rows must be distinct may differ. -/
structure SameSetup (first second : Enforcer) : Prop where
  levels : second.settings.levels = first.settings.levels
  enabled : second.switches.enabled = first.switches.enabled
  functions : second.functions = first.functions
  matchings : ∀ role, second.matchings.lookup role = first.matchings.lookup role
  model : second.model = first.model

/-- The enforcers decide alike on every request that does not depend on the order of rows,
first of all and after any other requests, which need not be the same ones. -/
structure AgreeOnOrderless (first second : Enforcer) : Prop where
  atOnce : ∀ context values explain, first.Orderless context values →
    (second.decide context values explain).1.map Decision.gist =
      (first.decide context values explain).1.map Decision.gist
  later : ∀ requests others context values explain, first.Orderless context values →
    explain = true ∨ AllDefined values →
      ((second.asked others).decide context values explain).1.map Decision.gist =
        ((first.asked requests).decide context values explain).1.map Decision.gist

section

variable {enforcer : Enforcer} {label : String} {lines : Lines}

theorem install_eq_ok_iff :
    (enforcer.install label lines).1 = .ok () ↔ enforcer.model.Fits lines := by
  have loads := enforcer.loads_install label lines
  generalize (enforcer.install label lines).1 = answer at loads ⊢
  cases loads with
  | refused fault unable intact => exact iff_of_false nofun fun fits => unable ⟨trivial, fits⟩
  | taken able takes => exact iff_of_true rfl able.2

end

theorem SameSetup.newGraph_eq {first second : Enforcer} (setup : SameSetup first second)
    (role : String) :
    newGraph second.settings second.matchings role =
      newGraph first.settings first.matchings role := by
  unfold newGraph
  rw [setup.levels, setup.matchings]

section

variable {enforcer : Enforcer} {label : String} {lines : Lines}
  (done : (enforcer.install label lines).1 = .ok ())
include done

theorem mem_rows_install {key : String} {row : Row} :
    row ∈ (enforcer.install label lines).2.table.rows key ↔
      (⟨key, row.map .text⟩ : Line) ∈ lines := by
  obtain ⟨table, graphs, staged, left⟩ := enforcer.install_eq_ok done
  rw [left]
  change row ∈ table.rows key ↔ _
  rw [mem_rows_stageRows (stage_eq_ok staged).1, Lines.mem_under]
  constructor
  · rintro ⟨line, inside, rfl, same⟩
    rwa [← same]
  · intro inside
    exact ⟨_, inside, rfl, rfl⟩

theorem lookup_graphs_install (builds : enforcer.switches.buildRoleLinks = true)
    {role : String} {scope : RoleScope}
    (declared : enforcer.model.roles.lookup role = some scope) :
    (enforcer.install label lines).2.graphs.lookup role =
      some (((enforcer.install label lines).2.table.rows role).foldl (addRow scope)
        (newGraph enforcer.settings enforcer.matchings role)) := by
  obtain ⟨table, graphs, staged, left⟩ := enforcer.install_eq_ok done
  rw [left]
  change graphs.lookup role = some ((table.rows role).foldl (addRow scope) _)
  rw [(stage_eq_ok staged).2, if_pos builds]
  exact lookup_linkAll declared (lookup_newGraphs _ _ declared)

end

section

variable {first second : Enforcer} (setup : SameSetup first second) {lines others : Lines}
  (same : ∀ line, line ∈ others ↔ line ∈ lines) {label labelSecond : String}
  (done : (first.install label lines).1 = .ok ())
  (doneSecond : (second.install labelSecond others).1 = .ok ())
include setup same done doneSecond

theorem answersAlike_install (builds : first.switches.buildRoleLinks = true)
    (buildsSecond : second.switches.buildRoleLinks = true) (total : first.TotalMatchings) :
    AnswersAlike (first.install label lines).2 (second.install labelSecond others).2 := by
  intro role scope declared
  rw [(first.sameKind_install label lines).model] at declared
  have there := lookup_graphs_install done builds declared
  have thereSecond := lookup_graphs_install doneSecond buildsSecond (setup.model ▸ declared)
  rw [setup.newGraph_eq] at thereSecond
  refine ⟨_, _, there, thereSecond, sameAnswers_of_mem_iff (total declared) (fun row => ?_) scope⟩
  rw [mem_rows_install done, mem_rows_install doneSecond, same]

theorem shuffled_install (wired : first.Wired) (wiredSecond : second.Wired)
    (answers : AnswersAlike (first.install label lines).2 (second.install labelSecond others).2) :
    Shuffled (first.install label lines).2 (second.install labelSecond others).2 := by
  have kind := first.sameKind_install label lines
  have kindSecond := second.sameKind_install labelSecond others
  have compiled := wiredSecond.compiled
  rw [setup.functions, setup.model, wired.compiled] at compiled
  have matchers : second.matchers = first.matchers := (Except.ok.inj compiled).symm
  have model := (kindSecond.model.trans setup.model).trans kind.model.symm
  have functions := (kindSecond.functions.trans setup.functions).trans kind.functions.symm
  refine ⟨?_, model, ?_, answers.function?_eq model functions, fun key row => ?_⟩
  · rw [kind.switches, kindSecond.switches, setup.enabled]
  · rw [kind.matchers, kindSecond.matchers, matchers]
  · rw [mem_rows_install done, mem_rows_install doneSecond, same]

end

/-- Two enforcers that are set up in the same way and that build role links load the same
lines, in whatever order and however often each of them comes, with the same success, and
then decide alike on every request that no priority is involved in. -/
theorem decideAlike_install_in_any_order {first second : Enforcer} (reachable : Reachable first)
    (reachableSecond : Reachable second) (setup : SameSetup first second)
    (builds : first.switches.buildRoleLinks = true)
    (buildsSecond : second.switches.buildRoleLinks = true) (total : first.TotalMatchings)
    {lines others : Lines} (same : ∀ line, line ∈ others ↔ line ∈ lines)
    (label labelSecond : String) :
    ((second.install labelSecond others).1 = .ok () ↔ (first.install label lines).1 = .ok ()) ∧
    ((first.install label lines).1 = .ok () →
      AgreeOnOrderless (first.install label lines).2 (second.install labelSecond others).2) := by
  have both : (second.install labelSecond others).1 = .ok () ↔
      (first.install label lines).1 = .ok () := by
    rw [install_eq_ok_iff, install_eq_ok_iff, setup.model]
    exact Model.fits_congr same
  refine ⟨both, fun done => ?_⟩
  have doneSecond := both.mpr done
  have shuffled := shuffled_install setup same done doneSecond reachable.wired
    reachableSecond.wired
    (answersAlike_install setup same done doneSecond builds buildsSecond total)
  have loaded : Reachable (first.install label lines).2 :=
    reachable.after (.install label lines) trivial
  have loadedSecond : Reachable (second.install labelSecond others).2 :=
    reachableSecond.after (.install labelSecond others) trivial
  constructor
  · intro context values explain orderless
    rw [decide_of_forgotten (forgotten_install done),
      decide_of_forgotten (forgotten_install doneSecond)]
    exact shuffled.decideAnew_gist orderless explain
  · intro requests othersAsked context values explain orderless certain
    rw [loaded.decide_asked_gist requests context certain,
      loadedSecond.decide_asked_gist othersAsked context certain]
    exact shuffled.decideAnew_gist orderless explain

namespace Sample

def hospitable (unique : Bool) : Enforcer :=
  let settings := { Settings.standard with uniquePolicies := unique }
  let built : Enforcer :=
    { settings
      switches := settings.switches
      functions := []
      matchings := []
      model
      matchers
      table := newTable settings model
      graphs := newGraphs settings [] model
      cache := .empty none
      version := 0
      metrics? := none }
  built.after (.adjust (.matchNames "g" (some RoleGraph.Sample.starred)))

theorem reachable_hospitable (unique : Bool) : Reachable (hospitable unique) := by
  refine .after (@Reachable.built { Settings.standard with uniquePolicies := unique } [] none
    model _ read_model ?_) (.adjust (.matchNames "g" (some RoleGraph.Sample.starred))) trivial
  rw [build, compile_model]
  rfl

theorem total_hospitable (unique : Bool) : (hospitable unique).TotalMatchings := by
  intro role scope _
  have matchings : (hospitable unique).matchings =
      [("g", ⟨some RoleGraph.Sample.starred, none⟩)] := by
    cases unique <;> rfl
  unfold newGraph
  rw [matchings, List.lookup_cons, List.lookup_nil]
  cases role == "g" with
  | false => exact ⟨nofun, nofun⟩
  | true =>
      refine ⟨?_, nofun⟩
      rintro _ ⟨⟩ name pattern
      exact ⟨_, rfl⟩

/-- Everyone is one of the staff, which is let in, but Bob is shut out. -/
def welcome : Lines :=
  [⟨"p", [.text "staff", .text "allow"]⟩, ⟨"p", [.text "bob", .text "deny"]⟩,
    ⟨"g", [.text "*", .text "staff"]⟩]

end Sample

theorem decideAlike_install_hospitable :
    ((Sample.hospitable false).install "" (Sample.welcome.reverse ++ Sample.welcome)).1 = .ok () ∧
    (((Sample.hospitable false).install "" (Sample.welcome.reverse ++ Sample.welcome)).2.decide
      .standard [.text "ann"] true).1.map Decision.gist = .ok (true, false) := by
  obtain ⟨both, alike⟩ := @decideAlike_install_in_any_order (Sample.hospitable true)
    (Sample.hospitable false) (Sample.reachable_hospitable true) (Sample.reachable_hospitable false)
    ⟨rfl, rfl, rfl, fun _ => rfl, rfl⟩ rfl rfl (Sample.total_hospitable true) Sample.welcome
    (Sample.welcome.reverse ++ Sample.welcome) (by simp) "" ""
  have done : ((Sample.hospitable true).install "" Sample.welcome).1 = .ok () :=
    Answer.eq_ok_of_gives (by decide +kernel)
  refine ⟨both.mpr done, ?_⟩
  rw [(alike done).atOnce .standard [.text "ann"] true]
  · exact Answer.eq_ok_of_gives (by decide +kernel)
  · intro selection selected
    have found : ((Sample.hospitable true).install "" Sample.welcome).2.select .standard
        [.text "ann"] = .ok Sample.selection := Answer.eq_ok_of_gives (by decide +kernel)
    rw [found] at selected
    cases selected
    exact ⟨by decide, by decide +kernel⟩

end Enforcer

end AccessControl
