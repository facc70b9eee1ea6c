import AccessControl.Proofs.Enforcer.Bindings
import AccessControl.Proofs.Role.EarlyStop
import Mathlib.Data.List.Induction

namespace AccessControl.Enforcer

/-! Matchings stay with the roles that they were registered for, whatever becomes of the role
graphs, and the function that matchers call for a role asks the graph that the queries ask. -/

inductive Registration
  | names (role : String) (names? : Option NameMatching)
  | domains (role : String) (domains? : Option NameMatching)

namespace Registration

def ofAdjustment? : Adjustment → Option Registration
  | .matchNames role names? => some (.names role names?)
  | .matchDomains role domains? => some (.domains role domains?)
  | _ => none

def names? (role : String) : Registration → Option (Option NameMatching)
  | .names other names? => if other = role then some names? else none
  | .domains _ _ => none

def domains? (role : String) : Registration → Option (Option NameMatching)
  | .names _ _ => none
  | .domains other domains? => if other = role then some domains? else none

def lastNames? (registrations : List Registration) (role : String) : Option NameMatching :=
  (registrations.filterMap (names? role)).getLast?.join

def lastDomains? (registrations : List Registration) (role : String) : Option NameMatching :=
  (registrations.filterMap (domains? role)).getLast?.join

def last (registrations : List Registration) (role : String) : RoleMatching :=
  ⟨lastNames? registrations role, lastDomains? registrations role⟩

def key : Registration → String
  | .names role _ => role
  | .domains role _ => role

def change : Registration → RoleMatching → RoleMatching
  | .names _ names?, matching => { matching with names? }
  | .domains _ domains?, matching => { matching with domains? }

theorem last_concat (registrations : List Registration) (registration : Registration)
    (role : String) :
    last (registrations ++ [registration]) role =
      if role = registration.key then registration.change (last registrations role)
      else last registrations role := by
  have appended : ∀ {α : Type} (earlier : List (Option α)) (later? : Option (Option α)),
      (earlier ++ later?.toList).getLast?.join = later?.elim earlier.getLast?.join id := by
    intro α earlier later?
    cases later? with
    | none => simp
    | some later => simp
  have split : ∀ {α : Type} (part? : Registration → Option (Option α)),
      ((registrations ++ [registration]).filterMap part?).getLast?.join =
        (part? registration).elim (registrations.filterMap part?).getLast?.join id := by
    intro α part?
    rw [List.filterMap_append, ← appended]
    cases given : part? registration <;> simp [given]
  simp only [last, lastNames?, lastDomains?, split]
  cases registration with
  | names other matching? =>
      simp only [names?, domains?, key, change]
      by_cases same : other = role
      · simp [same]
      · simp [same, Ne.symm same]
  | domains other matching? =>
      simp only [names?, domains?, key, change]
      by_cases same : other = role
      · simp [same]
      · simp [same, Ne.symm same]

end Registration

/-- What is registered by something that happens. A registration that is refused is none. -/
def registered? (enforcer : Enforcer) : Event → Option Registration
  | .adjust adjustment =>
      match (enforcer.adjust adjustment).1 with
      | .ok () => Registration.ofAdjustment? adjustment
      | .error _ => none
  | _ => none

def run (enforcer : Enforcer) (events : List Event) : Enforcer :=
  events.foldl after enforcer

def registrations (enforcer : Enforcer) : List Event → List Registration
  | [] => []
  | event :: events =>
      (enforcer.registered? event).toList ++ (enforcer.after event).registrations events

theorem run_concat (enforcer : Enforcer) (events : List Event) (event : Event) :
    enforcer.run (events ++ [event]) = (enforcer.run events).after event := by
  rw [run, List.foldl_concat, run]

theorem registrations_concat (enforcer : Enforcer) (events : List Event) (event : Event) :
    enforcer.registrations (events ++ [event]) =
      enforcer.registrations events ++ ((enforcer.run events).registered? event).toList := by
  induction events generalizing enforcer with
  | nil => simp [registrations, run]
  | cons first events ih =>
      rw [List.cons_append, registrations, ih, registrations, List.append_assoc]
      rfl

theorem Reachable.run {enforcer : Enforcer} (reachable : Reachable enforcer)
    {events : List Event} (legitimate : ∀ event ∈ events, event.Legitimate) :
    Reachable (enforcer.run events) := by
  induction events generalizing enforcer with
  | nil => exact reachable
  | cons event events ih =>
      exact ih (reachable.after event (legitimate event List.mem_cons_self))
        fun other later => legitimate other (List.mem_cons_of_mem event later)

def matching (enforcer : Enforcer) (role : String) : RoleMatching :=
  (enforcer.matchings.lookup role).getD .exact

theorem matching_withMatching {enforcer changed : Enforcer} {key : String}
    {change : RoleMatching → RoleMatching}
    (done : enforcer.withMatching key change = .ok changed) (role : String) :
    changed.matching role =
      if role = key then change (enforcer.matching role) else enforcer.matching role := by
  unfold withMatching at done
  split at done
  · cases done
  · cases done
    unfold matching
    by_cases same : role = key
    · subst same
      rw [if_pos rfl, Entries.lookup_put_self, Option.getD_some]
    · rw [if_neg same, Entries.lookup_put_of_ne same]

theorem adjust_of_registration (enforcer : Enforcer) {adjustment : Adjustment}
    {registration : Registration}
    (asked : Registration.ofAdjustment? adjustment = some registration) :
    enforcer.adjust adjustment = enforcer.tried
      ((enforcer.withMatching registration.key registration.change).mapError .enforce) := by
  cases adjustment with
  | matchNames | matchDomains =>
      cases asked
      rfl
  | _ => cases asked

theorem matching_adjust (enforcer : Enforcer) (adjustment : Adjustment) (role : String) :
    (enforcer.adjust adjustment).2.matching role =
      match enforcer.registered? (.adjust adjustment) with
      | some registration =>
          if role = registration.key then registration.change (enforcer.matching role)
          else enforcer.matching role
      | none => enforcer.matching role := by
  cases asked : Registration.ofAdjustment? adjustment with
  | some registration =>
      rw [registered?, enforcer.adjust_of_registration asked]
      cases made : enforcer.withMatching registration.key registration.change with
      | error fault => rfl
      | ok changed =>
          simp only [Except.mapError, tried, asked]
          exact matching_withMatching made role
  | none =>
      have unregistered : enforcer.registered? (.adjust adjustment) = none := by
        rw [registered?, asked]
        split <;> rfl
      rw [unregistered]
      cases adjustment with
      | matchNames | matchDomains => cases asked
      | loadModel model =>
          refine @of_tried (·.matching role = enforcer.matching role) _ _ rfl ?_
          intro changed done
          obtain ⟨_, _, _, -, -, rfl⟩ := loadModel_eq_ok done
          rfl
      | _ => rfl

theorem matching_after (enforcer : Enforcer) (event : Event) (role : String) :
    (enforcer.after event).matching role =
      match enforcer.registered? event with
      | some registration =>
          if role = registration.key then registration.change (enforcer.matching role)
          else enforcer.matching role
      | none => enforcer.matching role := by
  have installed : ∀ label lines,
      (enforcer.install label lines).2.matching role = enforcer.matching role := by
    intro label lines
    rcases enforcer.install_snd label lines with same | ⟨table, graphs, -, left⟩
    · rw [same]
    · rw [left]
      rfl
  cases event with
  | decide context values explain =>
      obtain ⟨cache, metrics?, left⟩ := enforcer.decide_snd context values explain
      simp only [after, left, registered?]
      rfl
  | mutate storage? mutation =>
      simp only [after, registered?, Enforcer.mutate]
      rcases enforcer.mutateBy_cases persist storage? mutation with
        ⟨change, -, -, left⟩ | ⟨-, same | failed⟩
      · rw [left, commit_eq]
        rfl
      · rw [same]
      · rw [failed]
        rfl
  | answer question =>
      rcases enforcer.answer_snd question with same | ⟨_, _, _, _, table, -, left⟩
      · simp only [after, same, registered?]
      · simp only [after, left, registered?]
        rfl
  | adjust adjustment => exact enforcer.matching_adjust adjustment role
  | load storage? =>
      rcases enforcer.load_snd storage? with same | failed | ⟨label, lines, left⟩
      · simp only [after, same, registered?]
      · simp only [after, failed, registered?]
        rfl
      · simp only [after, left, installed, registered?]
  | install label lines => exact installed label lines
  | fail code => rfl

/-- An enforcer matches every role as was last registered for it. -/
theorem matching_run {settings : Settings} {functions : Entries String CustomFunction}
    {metrics? : Option Metrics} {model : Model} {start : Enforcer}
    (built : build settings functions metrics? model = .ok start) (events : List Event)
    (role : String) :
    (start.run events).matching role =
      Registration.last (start.registrations events) role := by
  induction events using List.reverseRecOn with
  | nil =>
      obtain ⟨matchers, -, whole⟩ := Answer.bind_eq_ok.mp built
      cases whole
      rfl
  | append_singleton events event ih =>
      rw [run_concat, matching_after, registrations_concat, ih]
      cases (start.run events).registered? event with
      | none => simp
      | some registration => exact (Registration.last_concat _ _ _).symm

/-- The role has a graph that is set up as a new one would be. -/
def Carries (enforcer : Enforcer) (role : String) : Prop :=
  ∃ graph, enforcer.graphs.lookup role = some graph ∧ graph.links.Sound ∧
    (newGraph enforcer.settings enforcer.matchings role).SameSetup graph

theorem Carries.put {enforcer : Enforcer} {role key : String} {graph changed : RoleGraph}
    (carries : enforcer.Carries role) (there : enforcer.graphs.lookup key = some graph)
    (sound : graph.links.Sound → changed.links.Sound) (same : graph.SameSetup changed) :
    Carries { enforcer with graphs := Entries.put key changed enforcer.graphs } role := by
  by_cases here : role = key
  · subst here
    obtain ⟨own, found, ownSound, setup⟩ := carries
    rw [there] at found
    cases found
    exact ⟨changed, Entries.lookup_put_self _ _ _, sound ownSound, setup.trans same⟩
  · obtain ⟨own, found, rest⟩ := carries
    exact ⟨own, (Entries.lookup_put_of_ne here _ _).trans found, rest⟩

theorem Carries.link {enforcer : Enforcer} {role : String} (carries : enforcer.Carries role)
    (key : String) (row : Row) : (enforcer.link key row).Carries role := by
  unfold Enforcer.link
  split
  · next there =>
      split
      · exact carries.put there sound_addRow sameSetup_addRow
      · exact carries
  · exact carries

theorem Carries.unlink {enforcer : Enforcer} {role : String} (carries : enforcer.Carries role)
    (key : String) (row : Row) : (enforcer.unlink key row).Carries role := by
  unfold Enforcer.unlink
  split
  · next there =>
      split
      · exact carries.put there sound_deleteRow sameSetup_deleteRow
      · exact carries
  · exact carries

theorem Carries.foldl {step : Enforcer → Row → Enforcer} {role : String}
    (kept : ∀ enforcer row, Carries enforcer role → (step enforcer row).Carries role)
    {enforcer : Enforcer} (carries : enforcer.Carries role) (rows : List Row) :
    (rows.foldl step enforcer).Carries role := by
  induction rows generalizing enforcer with
  | nil => exact carries
  | cons row rows ih => exact ih (kept enforcer row carries)

theorem Carries.changeRows {enforcer : Enforcer} {role : String}
    (carries : enforcer.Carries role) (change : Mutation Row) :
    (enforcer.changeRows change).Carries role := by
  have changed : Carries { enforcer with table := changeTable enforcer.table change } role :=
    carries
  refine .foldl (fun _ row kept => kept.link change.key row) ?_ _
  exact .foldl (fun _ row kept => kept.unlink change.key row) changed _

theorem carries_of_graphs {enforcer : Enforcer} {role : String} {scope : RoleScope}
    (declared : enforcer.model.roles.lookup role = some scope) {table : PolicyTable}
    {linked : Bool}
    (made : enforcer.graphs =
      if linked then linkAll enforcer.model table
        (newGraphs enforcer.settings enforcer.matchings enforcer.model)
      else newGraphs enforcer.settings enforcer.matchings enforcer.model) :
    enforcer.Carries role := by
  have new := lookup_newGraphs enforcer.settings enforcer.matchings declared
  unfold Carries
  rw [made]
  split
  · exact ⟨_, lookup_linkAll declared new, sound_foldl sound_addRow RoleLinks.sound_nil _,
      sameSetup_foldl sameSetup_addRow _ _⟩
  · exact ⟨_, new, RoleLinks.sound_nil, .refl _⟩

theorem stable_carries : Stable fun enforcer =>
    ∀ role scope, enforcer.model.roles.lookup role = some scope → enforcer.Carries role where
  switches := fun _ => trivial
  aside := fun _ _ _ carries => carries
  withField := fun _ carries => carries
  commit := by
    intro enforcer mutation change _ carries role scope declared
    rw [commit_eq] at declared ⊢
    have changed := (carries role scope declared).changeRows change
    rw [changeRows_eq] at changed
    exact changed
  exchange := by
    intro enforcer lines table graphs staged carries role scope declared
    exact carries_of_graphs declared (stage_eq_ok staged).2
  loadModel := by
    intro enforcer changed model read done carries role scope declared
    obtain ⟨matchers, table, graphs, -, staged, rfl⟩ := loadModel_eq_ok done
    exact carries_of_graphs declared (stage_eq_ok staged).2
  clear := by
    intro enforcer carries role scope declared
    obtain ⟨graph, there, sound, setup⟩ := carries role scope declared
    refine ⟨graph.clear, ?_, RoleLinks.sound_nil, setup.trans ⟨rfl, rfl, rfl⟩⟩
    change List.lookup role (enforcer.graphs.map fun entry => (entry.1, entry.2.clear)) = _
    rw [Entries.lookup_map ?_, there]
    · rfl
    · intro entry
      rfl
  rebuildLinks := by
    intro enforcer carries role scope declared
    exact @carries_of_graphs enforcer.rebuildLinks role scope declared enforcer.table true rfl
  withMatching := by
    intro enforcer changed key change done carries role scope declared
    obtain ⟨own, matching, found, rfl⟩ := withMatching_eq_ok done
    obtain ⟨graph, there, sound, setup⟩ := carries role scope declared
    by_cases same : role = key
    · subst same
      rw [found] at there
      cases there
      refine ⟨_, Entries.lookup_put_self _ _ _, sound, setup.levels, ?_, ?_⟩
      · simp [newGraph, Entries.lookup_put_self]
      · simp [newGraph, Entries.lookup_put_self]
    · refine ⟨graph, (Entries.lookup_put_of_ne same _ _).trans there, sound, ?_⟩
      unfold newGraph at setup ⊢
      rwa [Entries.lookup_put_of_ne same]

theorem Reachable.carries {enforcer : Enforcer} (reachable : Reachable enforcer) {role : String}
    {scope : RoleScope} (declared : enforcer.model.roles.lookup role = some scope) :
    enforcer.Carries role := by
  refine stable_carries.of_reachable ?_ reachable role scope declared
  intro settings functions metrics? model enforcer _ done role scope declared
  obtain ⟨matchers, -, whole⟩ := Answer.bind_eq_ok.mp done
  cases whole
  exact @carries_of_graphs _ role scope declared (newTable settings model) false rfl

/-- The function takes as many arguments as the rows of the role have fields, and asks the
graph for the link that they stand for. -/
structure AsksGraph (role : String) (scope : RoleScope) (graph : RoleGraph)
    (predicate : Matcher.Function) : Prop where
  arity : ∀ arguments, arguments.length ≠ scope.arity →
    predicate arguments = .error (.eval (.roleArity role scope.arity arguments.length))
  texts : ∀ row subject target domain, row.length = scope.arity →
    linkOf? scope row = some (subject, target, domain) →
      predicate (row.map .text) =
        (graph.hasLink subject target domain none).map Value.bool

theorem asksGraph_rolePredicate (role : String) (scope : RoleScope) (graph : RoleGraph) :
    AsksGraph role scope graph (rolePredicate role scope graph) where
  arity _ differs := if_pos differs
  texts row subject target domain fits isLink := by
    cases scope with
    | everywhere =>
        obtain ⟨first, second, rfl⟩ := List.length_eq_two.mp fits
        cases isLink
        change (graph.hasLink subject target RoleLinks.defaultDomain none >>= fun holds =>
          pure (Value.bool holds)) = _
        cases graph.hasLink subject target RoleLinks.defaultDomain none <;> rfl
    | inDomain =>
        obtain ⟨first, second, third, rfl⟩ := List.length_eq_three.mp fits
        cases isLink
        change (graph.hasLink subject target domain none >>= fun holds =>
          pure (Value.bool holds)) = _
        cases graph.hasLink subject target domain none <;> rfl

/-- The function agrees with the roles that are told of a subject: it holds of the subject
itself and of these, and it is never false where they cannot be told. -/
structure AgreesWithRoles (enforcer : Enforcer) (role : String) (scope : RoleScope)
    (predicate : Matcher.Function) : Prop where
  holds_iff : ∀ row subject target domain roles, row.length = scope.arity →
    linkOf? scope row = some (subject, target, domain) →
      enforcer.implicitRolesFor subject domain role = .ok roles →
        predicate (row.map .text) =
          .ok (.bool (Decidable.decide (subject = target ∨ target ∈ roles)))
  told : ∀ row subject target domain, row.length = scope.arity →
    linkOf? scope row = some (subject, target, domain) →
      predicate (row.map .text) = .ok (.bool false) →
        ∃ roles, enforcer.implicitRolesFor subject domain role = .ok roles

theorem askGraph_eq {enforcer : Enforcer} {role : String} {graph : RoleGraph}
    (there : enforcer.graphs.lookup role = some graph) {α : Type}
    (question : RoleGraph → Answer α) : enforcer.askGraph role question = question graph := by
  rw [askGraph, Enforcer.graph, there]
  rfl

theorem AsksGraph.agreesWithRoles {enforcer : Enforcer} {role : String} {scope : RoleScope}
    {graph : RoleGraph} {predicate : Matcher.Function}
    (asks : AsksGraph role scope graph predicate)
    (there : enforcer.graphs.lookup role = some graph) :
    enforcer.AgreesWithRoles role scope predicate where
  holds_iff row subject target domain roles fits isLink told := by
    rw [implicitRolesFor, askGraph_eq there] at told
    rw [asks.texts row subject target domain fits isLink,
      RoleGraph.hasLink_of_implicitRoles told target]
    rfl
  told row subject target domain fits isLink denied := by
    rw [asks.texts row subject target domain fits isLink] at denied
    rw [implicitRolesFor, askGraph_eq there]
    cases answered : graph.hasLink subject target domain none with
    | error failure =>
        rw [answered] at denied
        cases denied
    | ok holds =>
        rw [answered] at denied
        cases denied
        exact RoleGraph.implicitRoles_of_hasLink answered

/-- Whatever happened to an enforcer, every role of its model has a graph with the matchings
that were last registered for the role; the function that matchers call for it asks the graph
that all queries ask. It holds of the subject itself and of the roles that the query for all
roles tells. This query answers wherever the function is false, and always if the matchings
do. -/
theorem role_matched_as_registered {settings : Settings}
    {functions : Entries String CustomFunction} {metrics? : Option Metrics} {model : Model}
    {start : Enforcer} (read : model.Read)
    (built : build settings functions metrics? model = .ok start) {events : List Event}
    (legitimate : ∀ event ∈ events, event.Legitimate) {role : String} {scope : RoleScope}
    (declared : (start.run events).model.roles.lookup role = some scope) :
    ∃ graph predicate,
      (start.run events).graphs.lookup role = some graph ∧
      graph.names? = Registration.lastNames? (start.registrations events) role ∧
      graph.domains? = Registration.lastDomains? (start.registrations events) role ∧
      (∀ {α : Type} (question : RoleGraph → Answer α),
        (start.run events).askGraph role question = question graph) ∧
      (start.run events).function? role = some predicate ∧
      AsksGraph role scope graph predicate ∧
      (start.run events).AgreesWithRoles role scope predicate ∧
      (graph.Total → ∀ subject domain, ∃ roles,
        (start.run events).implicitRolesFor subject domain role = .ok roles) := by
  have reachable := (Reachable.built read built).run legitimate
  obtain ⟨graph, there, sound, setup⟩ := reachable.carries declared
  have matched := matching_run built events role
  have asks := asksGraph_rolePredicate role scope graph
  refine ⟨graph, rolePredicate role scope graph, there, ?_, ?_, askGraph_eq there, ?_, asks,
    asks.agreesWithRoles there, fun total subject domain => ?_⟩
  · exact setup.names.trans (congrArg RoleMatching.names? matched)
  · exact setup.domains.trans (congrArg RoleMatching.domains? matched)
  · rw [function?, there, declared]
  · rw [implicitRolesFor, askGraph_eq there]
    obtain ⟨roles, told, -⟩ := RoleGraph.implicitRoles_eq total sound subject domain
    exact ⟨roles, told⟩

namespace Sample

/-- Addresses are matched with the networks that they are in. The model is exchanged for one
without roles, and put back. -/
def networkEvents : List Event :=
  [.adjust (.matchNames "g" (some Predicate.ipMatch.holds)),
    .adjust (.matchDomains "g2" (some Predicate.ipMatch.holds)),
    .adjust (.loadModel twoRequests), .adjust (.matchNames "g" none),
    .adjust (.loadModel model),
    .mutate none (.add "g" [.text "10.0.0.1", .text "10.0.0.0/8"])]

def networked : Enforcer := (enforcer none).run networkEvents

end Sample

theorem Sample.build_enforcer :
    build (enforcer none).settings [] none model = .ok (enforcer none) := by
  rw [build, compile_model]
  rfl

theorem Sample.legitimate_networkEvents : ∀ event ∈ networkEvents, event.Legitimate := by
  simp [networkEvents, Event.Legitimate, Adjustment.Legitimate, read_model, read_twoRequests]

/-- The matching of addresses outlives the model that has no roles, and what is registered
meanwhile is refused. -/
theorem role_matched_as_registered_networked :
    ∃ graph, Sample.networked.graphs.lookup "g" = some graph ∧
      (∃ fits, graph.names? = some fits ∧ fits "10.0.0.1" "10.0.0.0/8" = .ok true) ∧
      graph.domains? = none := by
  obtain ⟨graph, predicate, there, names, domains, -⟩ :=
    @role_matched_as_registered _ _ _ _ _ Sample.read_model Sample.build_enforcer
      Sample.networkEvents Sample.legitimate_networkEvents "g" .everywhere (by decide +kernel)
  have answered : (graph.names?.map fun fits =>
      Answer.gives (fits "10.0.0.1" "10.0.0.0/8") true) = some true := by
    rw [names]
    decide +kernel
  have exact : graph.domains?.isNone := by
    rw [domains]
    decide +kernel
  obtain ⟨fits, given, holds⟩ := Option.map_eq_some_iff.mp answered
  exact ⟨graph, there, ⟨fits, given, Answer.eq_ok_of_gives holds⟩, Option.isNone_iff_eq_none.mp exact⟩

/-- An address is in its network. But the roles of the network cannot be told, since a network
is not an address, so neither can all roles of the address. -/
theorem holds_where_roles_untold :
    Reachable Sample.networked ∧
    ∃ predicate, Sample.networked.function? "g" = some predicate ∧
      predicate [.text "10.0.0.1", .text "10.0.0.0/8"] = .ok (.bool true) ∧
      ¬ ("10.0.0.1" = "10.0.0.0/8" ∨ ∃ roles,
        Sample.networked.implicitRolesFor "10.0.0.1" RoleLinks.defaultDomain "g" = .ok roles ∧
          "10.0.0.0/8" ∈ roles) := by
  have reachable : Reachable Sample.networked :=
    (Sample.reachable_enforcer none).run Sample.legitimate_networkEvents
  have declared : Sample.networked.model.roles.lookup "g" = some .everywhere := by
    decide +kernel
  have linked : Answer.gives (Sample.networked.askGraph "g"
      (·.hasLink "10.0.0.1" "10.0.0.0/8" RoleLinks.defaultDomain none)) true = true := by
    decide +kernel
  have untold : (Sample.networked.implicitRolesFor "10.0.0.1" RoleLinks.defaultDomain
      "g").isOk = false := by
    decide +kernel
  obtain ⟨graph, there⟩ := reachable.wired.graph declared
  refine ⟨reachable, rolePredicate "g" .everywhere graph, ?_, ?_, ?_⟩
  · rw [function?, there, declared]
  · rw [askGraph_eq there] at linked
    have asked := (asksGraph_rolePredicate "g" .everywhere graph).texts
      ["10.0.0.1", "10.0.0.0/8"] _ _ _ rfl rfl
    rw [Answer.eq_ok_of_gives linked] at asked
    exact asked
  · rintro (same | ⟨roles, told, -⟩)
    · revert same
      decide
    · rw [told] at untold
      cases untold

end AccessControl.Enforcer
