import AccessControl.Proofs.Enforcer.Decision
import AccessControl.Proofs.Enforcer.WellFormed
import AccessControl.Proofs.Matcher.References
import Mathlib.Data.List.TakeWhile

namespace AccessControl

/-! Matchers are vetted against the request and the policy of their own number, but a
context may select others. The fields that a matcher mentions are bound exactly if the
context selects those sections of the matcher's number that it mentions fields of. -/

namespace Matcher

theorem section_of_qualified {key other field another : String} (noDot : '.' ∉ key.toList)
    (noDotOther : '.' ∉ other.toList)
    (agree : qualified key field = qualified other another) : key = other := by
  have spelled := congrArg String.toList agree
  simp only [qualified, String.toList_append, List.append_assoc] at spelled
  exact String.toList_inj.mp (Text.append_mark_inj noDot noDotOther spelled).1

def Mentions (matcher : Matcher) (key : String) : Prop :=
  ∃ field, qualified key field ∈ matcher.fields

end Matcher

/-- The context selects the sections with the number of its matcher, if these are
mentioned. -/
structure EnforceContext.Pairs (context : EnforceContext) (matcher : Matcher) : Prop where
  request : ∀ place, SectionKey.ofText? context.matcher = some place →
    matcher.Mentions (Section.request.key place.suffix) →
      context.request = Section.request.key place.suffix
  policy : ∀ place, SectionKey.ofText? context.matcher = some place →
    matcher.Mentions (Section.policy.key place.suffix) →
      context.policy = Section.policy.key place.suffix

/-- A context of sections that share a number needs no further check. -/
theorem EnforceContext.pairs_ofSuffix {suffix : String}
    (number : suffix.toList.all Text.isDecimal = true) (matcher : Matcher) :
    (ofSuffix suffix).Pairs matcher := by
  have whole : suffix.toList.takeWhile Text.isDecimal = suffix.toList := by
    rw [List.takeWhile_eq_self_iff]
    exact List.all_eq_true.mp number
  have spelled : ("m" ++ suffix).toList = 'm' :: suffix.toList := by
    rw [String.toList_append]
    rfl
  have numbered : ∀ place, SectionKey.ofText? ("m" ++ suffix) = some place →
      place.suffix = suffix := by
    intro place read
    simp only [SectionKey.ofText?, spelled, whole, List.drop_length, true_or, if_true,
      Option.map_eq_some_iff] at read
    obtain ⟨kind, -, rfl⟩ := read
    exact String.ofList_toList
  constructor
  · intro place read _
    rw [numbered place read]
    rfl
  · intro place read _
    rw [numbered place read]
    rfl

namespace Enforcer

def Selection.fields (selection : Selection) : List String :=
  selection.policy.map (Matcher.qualified selection.policyKey) ++
    selection.request.map (Matcher.qualified selection.requestKey)

/-- Whether the matcher is evaluated with this row: one of the policy, or the empty one. -/
def Meets (enforcer : Enforcer) (selection : Selection) (row : Row) : Prop :=
  row ∈ enforcer.table.rows selection.policyKey ∨ row = selection.emptyRow

theorem keys_bindings {key : String} {shape : Shape} {values : List Value}
    (same : values.length = shape.length) :
    Entries.keys (Selection.bindings key shape values) =
      shape.map (Matcher.qualified key) := by
  rw [Entries.keys, Selection.bindings]
  exact List.map_fst_zip (Nat.le_of_eq ((List.length_map _).trans same.symm))

theorem exists_value?_iff {selection : Selection}
    {function? : String → Option Matcher.Function} {values : List Value} {row : Row}
    (sameRow : row.length = selection.policy.length)
    (sameValues : values.length = selection.request.length) {name : String} :
    (∃ value, (selection.environment function? values row).value? name = some value) ↔
      name ∈ selection.fields := by
  have keys : Entries.keys
      (Selection.bindings selection.policyKey selection.policy (row.map .text) ++
        Selection.bindings selection.requestKey selection.request values) =
      selection.fields := by
    have policies := @keys_bindings selection.policyKey selection.policy (row.map .text)
      (by rw [List.length_map, sameRow])
    have requests := @keys_bindings selection.requestKey _ _ sameValues
    rw [Entries.keys] at policies requests ⊢
    rw [List.map_append, policies, requests, Selection.fields]
  rw [← keys]
  constructor
  · rintro ⟨value, bound⟩
    exact Entries.mem_keys_of_lookup bound
  · exact lookup_of_mem_keys

section

variable {enforcer : Enforcer} {context : EnforceContext} {values : List Value}
  {selection : Selection}

theorem Reachable.length_of_meets (reachable : Reachable enforcer)
    (accepted : enforcer.select context values = .ok selection) {row : Row}
    (meets : enforcer.Meets selection row) : row.length = selection.policy.length := by
  rcases meets with stored | rfl
  · exact reachable.fitting.length_policy (selects_of_select accepted).lookup_policyKey stored
  · exact List.length_map _

theorem Reachable.exists_value?_iff (reachable : Reachable enforcer)
    (accepted : enforcer.select context values = .ok selection) {row : Row}
    (meets : enforcer.Meets selection row) {name : String} :
    (∃ value, (selection.environment enforcer.function? values row).value? name = some value) ↔
      name ∈ selection.fields :=
  Enforcer.exists_value?_iff (reachable.length_of_meets accepted meets)
    (select_eq_ok.mp accepted).2

end

/-- A matcher mentions fields of the sections with its number, and calls functions that
there are. -/
structure Vetted (enforcer : Enforcer) (key : String) (matcher : Matcher) : Prop where
  root : matcher.root.fieldNames ⊆ matcher.fields
  rootFunctions : matcher.root.functionNames ⊆ matcher.functions
  fields : ∃ place request policy, SectionKey.ofText? key = some place ∧
    enforcer.model.requests.lookup (Section.request.key place.suffix) = some request ∧
    enforcer.model.policies.lookup (Section.policy.key place.suffix) = some policy ∧
    matcher.fields ⊆ request.map (Matcher.qualified (Section.request.key place.suffix)) ++
      policy.map (Matcher.qualified (Section.policy.key place.suffix))
  functions : matcher.functions ⊆ knownFunctions enforcer.functions enforcer.model

theorem Wired.vetted {enforcer : Enforcer} (wired : enforcer.Wired) {key : String}
    {matcher : Matcher} (there : enforcer.matchers.lookup key = some matcher) :
    enforcer.Vetted key matcher := by
  obtain ⟨entry, -, step⟩ := Answer.mem_of_mapM wired.compiled (Entries.mem_of_lookup there)
  obtain ⟨known, seen, step⟩ := Answer.bind_eq_ok.mp step
  obtain ⟨compiled, compiles, whole⟩ := Answer.bind_eq_ok.mp step
  cases whole
  obtain ⟨place, names, read, paired, rfl⟩ := Model.matcherFields_eq_ok.mp seen
  obtain ⟨request, policy, requests, policies, rfl⟩ := Model.pairedFields_eq_ok.mp paired
  obtain ⟨root, used, reading, knowsFields, knowsFunctions, rfl⟩ :=
    Matcher.compile_eq_ok.mp compiles
  have names := (Matcher.of_read reading).2
  exact
    { root := fun name => (names.fields name).mpr
      rootFunctions := fun name => (names.functions name).mpr
      fields := ⟨place, request, policy, read, requests, policies, fun name member =>
        Matcher.mem_sortedNames.mp (Matcher.unknownNames_eq_nil.mp knowsFields _ rfl member)⟩
      functions := Matcher.unknownNames_eq_nil.mp knowsFunctions _ rfl }

theorem mem_predicates {name : String} (known : name ∈ Predicate.all.map Predicate.name) :
    ∃ function, Predicate.function? name = some function := by
  obtain ⟨predicate, member, rfl⟩ := List.mem_map.mp known
  cases predicate <;> exact ⟨_, rfl⟩

theorem Wired.exists_function? {enforcer : Enforcer} (wired : enforcer.Wired) {name : String}
    (known : name ∈ knownFunctions enforcer.functions enforcer.model) :
    ∃ function, enforcer.function? name = some function := by
  unfold function?
  split
  · exact ⟨_, rfl⟩
  · next noRole =>
      cases added : enforcer.functions.lookup name with
      | some function => exact ⟨_, rfl⟩
      | none =>
          rcases List.mem_append.mp known with known | role
          · rcases List.mem_append.mp known with predicate | custom
            · exact mem_predicates predicate
            · obtain ⟨function, there⟩ := lookup_of_mem_keys custom
              rw [added] at there
              cases there
          · obtain ⟨scope, declared⟩ := lookup_of_mem_keys role
            obtain ⟨graph, there⟩ := wired.graph declared
            exact absurd declared (noRole graph scope there)

section

variable {enforcer : Enforcer} {context : EnforceContext} {values : List Value}
  {selection : Selection}

theorem request_ne_policy {requestKey policyKey field another : String} {shape other : Shape}
    (keyed : enforcer.model.Keyed)
    (request : enforcer.model.requests.lookup requestKey = some shape)
    (policy : enforcer.model.policies.lookup policyKey = some other) :
    Matcher.qualified requestKey field ≠ Matcher.qualified policyKey another := by
  intro agree
  have first := keyed.requests _ (Entries.mem_of_lookup request)
  have second := keyed.policies _ (Entries.mem_of_lookup policy)
  have same := Matcher.section_of_qualified first.isKey.no_dot second.isKey.no_dot agree
  rw [same] at first
  cases first.kind_eq second

theorem fields_subset_iff (keyed : enforcer.model.Keyed)
    (selects : enforcer.Selects context selection)
    (vetted : enforcer.Vetted context.matcher selection.matcher) :
    selection.matcher.fields ⊆ selection.fields ↔ context.Pairs selection.matcher := by
  obtain ⟨place, request, policy, read, requests, policies, mentioned⟩ := vetted.fields
  constructor
  · intro bound
    constructor
    · intro other again ⟨field, member⟩
      cases read.symm.trans again
      rcases List.mem_append.mp (bound member) with ofPolicy | ofRequest
      · obtain ⟨another, -, same⟩ := List.mem_map.mp ofPolicy
        rw [selects.policyKey] at same
        exact absurd same.symm (request_ne_policy keyed requests selects.policy)
      · obtain ⟨another, -, same⟩ := List.mem_map.mp ofRequest
        rw [selects.requestKey] at same
        exact Matcher.section_of_qualified
          (keyed.requests _ (Entries.mem_of_lookup selects.request)).isKey.no_dot
          (keyed.requests _ (Entries.mem_of_lookup requests)).isKey.no_dot same
    · intro other again ⟨field, member⟩
      cases read.symm.trans again
      rcases List.mem_append.mp (bound member) with ofPolicy | ofRequest
      · obtain ⟨another, -, same⟩ := List.mem_map.mp ofPolicy
        rw [selects.policyKey] at same
        exact Matcher.section_of_qualified
          (keyed.policies _ (Entries.mem_of_lookup selects.policy)).isKey.no_dot
          (keyed.policies _ (Entries.mem_of_lookup policies)).isKey.no_dot same
      · obtain ⟨another, -, same⟩ := List.mem_map.mp ofRequest
        rw [selects.requestKey] at same
        exact absurd same (request_ne_policy keyed selects.request policies)
  · intro pairs name member
    rcases List.mem_append.mp (mentioned member) with ofRequest | ofPolicy
    · obtain ⟨field, declared, rfl⟩ := List.mem_map.mp ofRequest
      have same := pairs.request place read ⟨field, member⟩
      rw [← same, selects.request] at requests
      cases requests
      rw [← same, ← selects.requestKey]
      exact List.mem_append_right _ (List.mem_map_of_mem declared)
    · obtain ⟨field, declared, rfl⟩ := List.mem_map.mp ofPolicy
      have same := pairs.policy place read ⟨field, member⟩
      rw [← same, selects.policy] at policies
      cases policies
      rw [← same, ← selects.policyKey]
      exact List.mem_append_left _ (List.mem_map_of_mem declared)

theorem Reachable.binds_root (reachable : Reachable enforcer)
    (accepted : enforcer.select context values = .ok selection)
    (vetted : enforcer.Vetted context.matcher selection.matcher)
    (pairs : context.Pairs selection.matcher) {row : Row}
    (meets : enforcer.Meets selection row) :
    (selection.environment enforcer.function? values row).Binds
      selection.matcher.root.fieldNames selection.matcher.root.functionNames where
  values name member := by
    rw [reachable.exists_value?_iff accepted meets]
    exact (fields_subset_iff reachable.sound.read.keyed (selects_of_select accepted)
      vetted).mpr pairs (vetted.root member)
  functions name member :=
    reachable.wired.exists_function? (vetted.functions (vetted.rootFunctions member))

/-- All fields that the matcher mentions are bound exactly if the context selects the
sections that they are of. Then no evaluation meets a field or a function that is not
bound, unless a function that is called reports one by itself. -/
theorem bound_iff_pairs (reachable : Reachable enforcer)
    (accepted : enforcer.select context values = .ok selection) :
    ((∀ row, enforcer.Meets selection row → ∀ name ∈ selection.matcher.fields,
        ∃ value, (selection.environment enforcer.function? values row).value? name =
          some value) ↔ context.Pairs selection.matcher) ∧
    (context.Pairs selection.matcher → ∀ row, enforcer.Meets selection row →
      (selection.environment enforcer.function? values row).Covers selection.matcher.functions
        (selection.evaluation enforcer.function? values row)) := by
  have selects := selects_of_select accepted
  have vetted := reachable.wired.vetted selects.matcher
  constructor
  · rw [← fields_subset_iff reachable.sound.read.keyed selects vetted]
    constructor
    · intro bound name member
      rw [← reachable.exists_value?_iff accepted (.inr rfl)]
      exact bound _ (.inr rfl) name member
    · intro subset row meets name member
      rw [reachable.exists_value?_iff accepted meets]
      exact subset member
  · intro pairs row meets
    exact (Matcher.covers_evaluate selection.matcher
      (reachable.binds_root accepted vetted pairs meets)).mono vetted.rootFunctions

end

namespace Sample

def twoRequests : Model :=
  { requests := [("r", ["sub"]), ("r2", ["sub"])]
    policies := [("p", ["sub", "eft"])]
    roles := []
    effects := [("e", ⟨EffectRule.text .denyOverride, .denyOverride⟩)]
    matchers := [("m", "r.sub == p.sub")] }

theorem read_twoRequests : twoRequests.Read :=
  ⟨[(.text "r", .text "sub"), (.text "r2", .text "sub"), (.text "p", .text "sub, eft"),
    (.text "e", .text (EffectRule.text .denyOverride)), (.text "m", .text "r.sub == p.sub")],
    Answer.eq_ok_of_gives (by decide +kernel)⟩

def sameSubject : Matcher :=
  { text := "r.sub == p.sub"
    root := .compare .equal (.field ⟨"r", "sub", []⟩) (.field ⟨"p", "sub", []⟩)
    fields := ["p.sub", "r.sub"]
    functions := [] }

def shutting : Enforcer :=
  { settings := .standard
    switches := Settings.standard.switches
    functions := []
    matchings := []
    model := twoRequests
    matchers := [("m", sameSubject)]
    table := newTable .standard twoRequests
    graphs := newGraphs .standard [] twoRequests
    cache := .empty none
    version := 0
    metrics? := none : Enforcer }.after
      (.mutate none (.add "p" [.text "bob", .text "deny"]))

theorem compile_twoRequests : compileMatchers [] twoRequests = .ok [("m", sameSubject)] :=
  Answer.eq_ok_of_gives (by decide +kernel)

theorem reachable_shutting : Reachable shutting := by
  refine .after ?_ _ trivial
  refine @Reachable.built .standard [] none twoRequests _ read_twoRequests ?_
  rw [build, compile_twoRequests]
  rfl

def crossed : EnforceContext := { EnforceContext.standard with request := "r2" }

def selectionOf (requestKey : String) : Selection :=
  { requestKey
    request := ["sub"]
    policyKey := "p"
    policy := ["sub", "eft"]
    rule := .denyOverride
    matcher := sameSubject }

theorem select_standard :
    shutting.select .standard [.text "bob"] = .ok (selectionOf "r") :=
  Answer.eq_ok_of_gives (by decide +kernel)

theorem select_crossed : shutting.select crossed [.text "bob"] = .ok (selectionOf "r2") :=
  Answer.eq_ok_of_gives (by decide +kernel)

theorem not_pairs_crossed : ¬ crossed.Pairs sameSubject := by
  intro pairs
  have same := pairs.request ⟨.matcher, ""⟩ (by decide +kernel) ⟨"sub", by decide +kernel⟩
  exact absurd same (by decide +kernel)

end Sample

/-- The standard context binds what the matcher mentions, and no evaluation of it meets a
field that is not bound. With the other request, something is not bound. -/
theorem bound_iff_pairs_shutting :
    (∀ row, Sample.shutting.Meets (Sample.selectionOf "r") row →
      (∀ name ∈ ["p.sub", "r.sub"], ∃ value,
        ((Sample.selectionOf "r").environment Sample.shutting.function? [.text "bob"]
          row).value? name = some value) ∧
      ∀ name, (Sample.selectionOf "r").evaluation Sample.shutting.function? [.text "bob"] row ≠
        .error (.eval (.unboundField name))) ∧
    ¬ ∀ row, Sample.shutting.Meets (Sample.selectionOf "r2") row →
      ∀ name ∈ ["p.sub", "r.sub"], ∃ value,
        ((Sample.selectionOf "r2").environment Sample.shutting.function? [.text "bob"]
          row).value? name = some value := by
  have standard : EnforceContext.standard.Pairs Sample.sameSubject :=
    EnforceContext.pairs_ofSuffix rfl _
  obtain ⟨bound, covers⟩ := bound_iff_pairs Sample.reachable_shutting Sample.select_standard
  refine ⟨fun row meets => ⟨bound.mpr standard row meets, fun name failed => ?_⟩, ?_⟩
  · obtain ⟨_, bound, -⟩ := covers standard row meets _ failed (.field name)
    cases bound
  · exact fun bound => Sample.not_pairs_crossed
      ((bound_iff_pairs Sample.reachable_shutting Sample.select_crossed).1.mp bound)

/-- A request of Bob, who is shut out, is accepted with the other request, although the
matcher then meets a field that is not bound, and he is let in. -/
theorem not_bound_crossed :
    Sample.shutting.select Sample.crossed [.text "bob"] = .ok (Sample.selectionOf "r2") ∧
    (Sample.selectionOf "r2").evaluation Sample.shutting.function? [.text "bob"]
      ["bob", "deny"] = .error (.eval (.unboundField "r.sub")) ∧
    (Sample.shutting.decide Sample.crossed [.text "bob"] true).1 =
      .ok { allowed := true, explain := [], cacheHit := false, ruleErrors := 1 } ∧
    (Sample.shutting.decide .standard [.text "bob"] true).1 =
      .ok { allowed := false, explain := [["bob", "deny"]], cacheHit := false,
            ruleErrors := 0 } :=
  ⟨Sample.select_crossed, rfl, Answer.eq_ok_of_gives (by decide +kernel),
    Answer.eq_ok_of_gives (by decide +kernel)⟩

end Enforcer

end AccessControl
