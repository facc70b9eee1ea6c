import AccessControl.Proofs.Enforcer.RoleLinks

namespace AccessControl.Enforcer

theorem foldl_lookup_eq {α : Type} {step : Enforcer → α → Enforcer} {other : String}
    (same : ∀ enforcer item,
      (step enforcer item).graphs.lookup other = enforcer.graphs.lookup other)
    (enforcer : Enforcer) (items : List α) :
    (items.foldl step enforcer).graphs.lookup other = enforcer.graphs.lookup other := by
  induction items generalizing enforcer with
  | nil => rfl
  | cons item items ih => rw [List.foldl_cons, ih, same]

theorem lookup_link_of_ne {key other : String} (different : other ≠ key) (enforcer : Enforcer)
    (row : Row) : (enforcer.link key row).graphs.lookup other = enforcer.graphs.lookup other := by
  unfold link
  split
  · split
    · exact Entries.lookup_put_of_ne different _ _
    · rfl
  · rfl

theorem lookup_unlink_of_ne {key other : String} (different : other ≠ key)
    (enforcer : Enforcer) (row : Row) :
    (enforcer.unlink key row).graphs.lookup other = enforcer.graphs.lookup other := by
  unfold unlink
  split
  · split
    · exact Entries.lookup_put_of_ne different _ _
    · rfl
  · rfl

section

variable {enforcer : Enforcer} {key : String} {scope : RoleScope} {graph : RoleGraph}
  (declared : enforcer.model.roles.lookup key = some scope)
  (switch : enforcer.switches.buildRoleLinks = true)
  (there : enforcer.graphs.lookup key = some graph)
include declared switch there

theorem lookup_foldl_link (rows : List Row) :
    (rows.foldl (·.link key ·) enforcer).graphs.lookup key =
      some (rows.foldl (addRow scope) graph) := by
  induction rows generalizing enforcer graph with
  | nil => exact there
  | cons row rows ih =>
      rw [List.foldl_cons, List.foldl_cons]
      have linked : (enforcer.link key row).graphs.lookup key =
          some (addRow scope graph row) := by
        simp only [link, declared, there, switch, if_true, Entries.lookup_put_self]
      refine ih ?_ ?_ linked
      · rw [link_eq]
        exact declared
      · rw [link_eq]
        exact switch

theorem lookup_foldl_unlink (rows : List Row) :
    (rows.foldl (·.unlink key ·) enforcer).graphs.lookup key =
      some ((rows.filter fun row => !enforcer.table.has key row).foldl (deleteRow scope)
        graph) := by
  induction rows generalizing enforcer graph with
  | nil => exact there
  | cons row rows ih =>
      have table : (enforcer.unlink key row).table = enforcer.table := by rw [unlink_eq]
      have unlinked : (enforcer.unlink key row).graphs.lookup key =
          some (if enforcer.table.has key row then graph else deleteRow scope graph row) := by
        simp only [unlink, declared, there, switch, Bool.true_and]
        cases enforcer.table.has key row with
        | true => exact there
        | false => simp [Entries.lookup_put_self]
      rw [List.foldl_cons, ih ?_ ?_ unlinked, table, List.filter_cons]
      · cases enforcer.table.has key row <;> rfl
      · rw [unlink_eq]
        exact declared
      · rw [unlink_eq]
        exact switch

end

theorem lookup_changeRows_self {enforcer : Enforcer} {change : Mutation Row}
    {scope : RoleScope} {graph : RoleGraph}
    (declared : enforcer.model.roles.lookup change.key = some scope)
    (switch : enforcer.switches.buildRoleLinks = true)
    (there : enforcer.graphs.lookup change.key = some graph) :
    (enforcer.changeRows change).graphs.lookup change.key =
      some ((exchanged enforcer.table change).2.foldl (addRow scope)
        (((exchanged enforcer.table change).1.filter fun row =>
          !(changeTable enforcer.table change).has change.key row).foldl (deleteRow scope)
            graph)) := by
  have unlinked := foldl_graphs_eq (fun enforcer row => unlink_eq enforcer change.key row)
    { enforcer with table := changeTable enforcer.table change }
    (exchanged enforcer.table change).1
  simp only [changeRows]
  refine lookup_foldl_link ?_ ?_ ?_ _
  · exact (congrArg (·.model.roles.lookup change.key) unlinked).trans declared
  · exact (congrArg (·.switches.buildRoleLinks) unlinked).trans switch
  · exact @lookup_foldl_unlink
      { enforcer with table := changeTable enforcer.table change } _ _ _ declared switch there _

theorem lookup_changeRows_of_ne {enforcer : Enforcer} {change : Mutation Row} {other : String}
    (different : other ≠ change.key) :
    (enforcer.changeRows change).graphs.lookup other = enforcer.graphs.lookup other := by
  simp only [changeRows]
  rw [foldl_lookup_eq (lookup_link_of_ne different),
    foldl_lookup_eq (lookup_unlink_of_ne different)]

def newGraph (settings : Settings) (matchings : Entries String RoleMatching) (role : String) :
    RoleGraph :=
  { levels := settings.levels
    links := []
    names? := ((matchings.lookup role).getD .exact).names?
    domains? := ((matchings.lookup role).getD .exact).domains? }

theorem lookup_newGraphs (settings : Settings) (matchings : Entries String RoleMatching)
    {model : Model} {role : String} {scope : RoleScope}
    (declared : model.roles.lookup role = some scope) :
    (newGraphs settings matchings model).lookup role =
      some (newGraph settings matchings role) := by
  rw [newGraphs, Entries.lookup_map ?_, declared]
  · rfl
  · intro entry
    rfl

theorem lookup_linkAll {model : Model} {table : PolicyTable} {graphs : Entries String RoleGraph}
    {role : String} {scope : RoleScope} {graph : RoleGraph}
    (declared : model.roles.lookup role = some scope)
    (there : graphs.lookup role = some graph) :
    (linkAll model table graphs).lookup role =
      some ((table.rows role).foldl (addRow scope) graph) := by
  rw [linkAll, Entries.lookup_map ?_, there, Option.map_some]
  · simp only [declared]
  · intro entry
    cases model.roles.lookup entry.1 <;> rfl

/-- Whether a graph is that of a role with the given rows. -/
structure GraphOf (settings : Settings) (matchings : Entries String RoleMatching)
    (role : String) (scope : RoleScope) (rows : List Row) (graph : RoleGraph) : Prop where
  setup : (newGraph settings matchings role).SameSetup graph
  links : LinksOf scope rows graph.links

structure Linked (enforcer : Enforcer) : Prop where
  switch : enforcer.switches.buildRoleLinks = true
  sound : enforcer.Sound
  fitting : enforcer.Fitting
  graph : ∀ {role scope}, enforcer.model.roles.lookup role = some scope →
    ∃ graph, enforcer.graphs.lookup role = some graph ∧
      GraphOf enforcer.settings enforcer.matchings role scope (enforcer.table.rows role) graph

theorem Sound.fits_role {enforcer : Enforcer} (sound : enforcer.Sound) {role : String}
    {scope : RoleScope} (declared : enforcer.model.roles.lookup role = some scope)
    {rows : List Row} (fits : ∀ row ∈ rows, enforcer.model.arity? role = some row.length) :
    ∀ row ∈ rows, row.length = scope.arity := by
  intro row member
  have arity := fits row member
  rw [sound.read.arity?_role declared] at arity
  exact (Option.some.inj arity).symm

theorem graphOf_new (settings : Settings) (matchings : Entries String RoleMatching)
    (role : String) (scope : RoleScope) (rows : List Row) :
    GraphOf settings matchings role scope rows
      (rows.foldl (addRow scope) (newGraph settings matchings role)) :=
  ⟨sameSetup_foldl sameSetup_addRow _ rows, linksOf_foldl_addRow rfl rows⟩

theorem graph_linkAll (settings : Settings) (matchings : Entries String RoleMatching)
    {model : Model} {role : String} {scope : RoleScope}
    (declared : model.roles.lookup role = some scope) (table : PolicyTable) :
    ∃ graph, (linkAll model table (newGraphs settings matchings model)).lookup role = some graph ∧
      GraphOf settings matchings role scope (table.rows role) graph :=
  ⟨_, lookup_linkAll declared (lookup_newGraphs settings matchings declared),
    graphOf_new settings matchings role scope (table.rows role)⟩

theorem GraphOf.changed {enforcer : Enforcer} (sound : enforcer.Sound)
    (fitting : enforcer.Fitting) {mutation : Mutation Fields} {change : Mutation Row}
    (checked : enforcer.check mutation = .ok (some change)) {scope : RoleScope}
    {graph : RoleGraph} (declared : enforcer.model.roles.lookup change.key = some scope)
    (was : GraphOf enforcer.settings enforcer.matchings change.key scope
      (enforcer.table.rows change.key) graph) :
    GraphOf enforcer.settings enforcer.matchings change.key scope
      ((changeTable enforcer.table change).rows change.key)
      ((exchanged enforcer.table change).2.foldl (addRow scope)
        (((exchanged enforcer.table change).1.filter fun row =>
          !(changeTable enforcer.table change).has change.key row).foldl (deleteRow scope)
            graph)) := by
  refine ⟨?_, was.links.exchange
    (exchanges_changeTable sound.table (read_of_check checked).2) ?_ fun row => ?_⟩
  · exact was.setup.trans ((sameSetup_foldl sameSetup_deleteRow _ _).trans
      (sameSetup_foldl sameSetup_addRow _ _))
  · refine sound.fits_role declared fun row member => ?_
    rcases List.mem_append.mp member with stored | named
    · exact fitting change.key row stored
    · exact fits_exchanged fitting checked row named
  · rw [List.mem_filter, Bool.not_eq_true', ← Bool.not_eq_true,
      (sound_changeTable sound.table change).has_iff]

theorem stable_linked : StableWhile (·.buildRoleLinks = true) Linked where
  switches := fun linked => linked.switch
  aside := fun cache metrics? allowed linked =>
    ⟨allowed, stable_sound.aside cache metrics? trivial linked.sound, linked.fitting,
      linked.graph⟩
  withField := by
    intro enforcer key index value rows table looked linked
    have fitting := stable_fitting.withField looked ⟨linked.sound, linked.fitting⟩
    refine ⟨linked.switch, fitting.1, fitting.2, fun {role} {scope} declared => ?_⟩
    obtain ⟨graph, there, isGraph⟩ := linked.graph declared
    refine ⟨graph, there, ?_⟩
    rwa [(PolicyTable.same_withField looked).2 role]
  commit := by
    intro enforcer mutation change checked linked
    have fitting := stable_fitting.commit checked ⟨linked.sound, linked.fitting⟩
    rw [commit_eq] at fitting ⊢
    refine ⟨linked.switch, fitting.1, fitting.2, fun {role} {scope} declared => ?_⟩
    obtain ⟨graph, there, isGraph⟩ := linked.graph declared
    by_cases same : role = change.key
    · subst same
      exact ⟨_, lookup_changeRows_self declared linked.switch there,
        isGraph.changed linked.sound linked.fitting checked declared⟩
    · refine ⟨graph, (lookup_changeRows_of_ne same).trans there, ?_⟩
      rwa [(sameElsewhere_changeTable enforcer.table change).rows same]
  exchange := by
    intro enforcer lines table graphs staged linked
    have fitting := stable_fitting.exchange staged ⟨linked.sound, linked.fitting⟩
    refine ⟨linked.switch, fitting.1, fitting.2, fun {role} {scope} declared => ?_⟩
    rw [(stage_eq_ok staged).2, if_pos linked.switch]
    exact graph_linkAll enforcer.settings enforcer.matchings declared table
  loadModel := by
    intro enforcer changed model read done linked
    have fitting := stable_fitting.loadModel read done ⟨linked.sound, linked.fitting⟩
    obtain ⟨matchers, table, graphs, -, staged, rfl⟩ := loadModel_eq_ok done
    refine ⟨linked.switch, fitting.1, fitting.2, fun {role} {scope} declared => ?_⟩
    rw [(stage_eq_ok staged).2, if_pos linked.switch]
    exact graph_linkAll enforcer.settings enforcer.matchings declared table
  clear := by
    intro enforcer linked
    have fitting := stable_fitting.clear ⟨linked.sound, linked.fitting⟩
    refine ⟨linked.switch, fitting.1, fitting.2, fun {role} {scope} declared => ?_⟩
    obtain ⟨graph, there, isGraph⟩ := linked.graph declared
    refine ⟨graph.clear, ?_, ⟨isGraph.setup.trans ⟨rfl, rfl, rfl⟩, linksOf_nil scope⟩⟩
    change List.lookup role (enforcer.graphs.map fun entry => (entry.1, entry.2.clear)) = _
    rw [Entries.lookup_map ?_, there]
    · rfl
    · intro entry
      rfl
  rebuildLinks := by
    intro enforcer linked
    have fitting := stable_fitting.rebuildLinks ⟨linked.sound, linked.fitting⟩
    refine ⟨linked.switch, fitting.1, fitting.2, fun {role} {scope} declared => ?_⟩
    exact graph_linkAll enforcer.settings enforcer.matchings declared enforcer.table
  withMatching := by
    intro enforcer changed key change done linked
    have fitting := stable_fitting.withMatching done ⟨linked.sound, linked.fitting⟩
    obtain ⟨own, matching, found, rfl⟩ := withMatching_eq_ok done
    refine ⟨linked.switch, fitting.1, fitting.2, fun {role} {scope} declared => ?_⟩
    obtain ⟨graph, there, isGraph⟩ := linked.graph declared
    by_cases same : role = key
    · subst same
      rw [found] at there
      cases there
      refine ⟨_, Entries.lookup_put_self _ _ _, ⟨isGraph.setup.levels, ?_, ?_⟩, isGraph.links⟩
      · simp [newGraph, Entries.lookup_put_self]
      · simp [newGraph, Entries.lookup_put_self]
    · refine ⟨graph, (Entries.lookup_put_of_ne same _ _).trans there, ?_, isGraph.links⟩
      have setup := isGraph.setup
      unfold newGraph at setup ⊢
      rwa [Entries.lookup_put_of_ne same]

/-- An enforcer that has built role links from the beginning until now. -/
abbrev Linking : Enforcer → Prop :=
  ReachableWhile (·.buildRoleLinks = true)

theorem Linking.linked {enforcer : Enforcer} (linking : Linking enforcer) :
    enforcer.Linked := by
  refine stable_linked.of_reachableWhile ?_ linking
  intro settings functions metrics? model enforcer read done start
  have reachable := Reachable.built read done
  refine ⟨start, reachable.sound, reachable.fitting, fun {role} {scope} declared => ?_⟩
  obtain ⟨matchers, -, whole⟩ := Answer.bind_eq_ok.mp done
  cases whole
  refine ⟨_, lookup_newGraphs settings [] declared, .refl _, ?_⟩
  change LinksOf scope ((newTable settings model).rows role) []
  rw [rows_newTable]
  exact linksOf_nil scope

theorem switches_after (enforcer : Enforcer) {event : Event}
    (notAdjusted : ∀ adjustment, event ≠ .adjust adjustment) :
    (enforcer.after event).switches = enforcer.switches := by
  have installed : ∀ label lines,
      (enforcer.install label lines).2.switches = enforcer.switches := by
    intro label lines
    rcases enforcer.install_snd label lines with same | ⟨table, graphs, -, left⟩
    · rw [same]
    · rw [left]
      rfl
  cases event with
  | decide context values explain =>
      obtain ⟨cache, metrics?, left⟩ := enforcer.decide_snd context values explain
      simp only [after, left]
  | mutate storage? mutation => exact switches_mutateBy persist enforcer storage? mutation
  | answer question =>
      rcases enforcer.answer_snd question with same | ⟨_, _, _, _, table, -, left⟩
      · simp only [after, same]
      · simp only [after, left]
  | adjust adjustment => exact absurd rfl (notAdjusted adjustment)
  | load storage? =>
      rcases enforcer.load_snd storage? with same | failed | ⟨label, lines, left⟩
      · simp only [after, same]
      · simp only [after, failed]
        rfl
      · simp only [after, left, installed]
  | install label lines => exact installed label lines
  | fail code => rfl

theorem buildRoleLinks_adjust {enforcer : Enforcer} {adjustment : Adjustment}
    (notOff : adjustment ≠ .enableBuildRoleLinks false)
    (switch : enforcer.switches.buildRoleLinks = true) :
    (enforcer.adjust adjustment).2.switches.buildRoleLinks = true := by
  cases adjustment with
  | enableBuildRoleLinks enabled =>
      cases enabled with
      | false => exact absurd rfl notOff
      | true => rfl
  | matchNames | matchDomains =>
      refine @of_tried (·.switches.buildRoleLinks = true) _ _ switch fun changed done => ?_
      obtain ⟨_, _, -, rfl⟩ := withMatching_eq_ok (Answer.mapError_eq_ok.mp done)
      exact switch
  | loadModel model =>
      refine @of_tried (·.switches.buildRoleLinks = true) _ _ switch fun changed done => ?_
      obtain ⟨_, _, _, -, -, rfl⟩ := loadModel_eq_ok done
      exact switch
  | _ => exact switch

/-- While role links are built, the graph of every role of the model has a link exactly for
each row of the role, and as many links as there are different rows. -/
theorem Linking.graph_mirrors_rows {enforcer : Enforcer} (linking : Linking enforcer)
    {role : String} {scope : RoleScope}
    (declared : enforcer.model.roles.lookup role = some scope) :
    ∃ graph, enforcer.graphs.lookup role = some graph ∧
      (∀ subject target domain, graph.links.Has subject target domain ↔
        StoresLink scope (enforcer.table.rows role) subject target domain) ∧
      graph.linkCount = (enforcer.table.rows role).dedup.length := by
  have linked := linking.linked
  obtain ⟨graph, there, isGraph⟩ := linked.graph declared
  have fits := linked.sound.fits_role declared (linked.fitting role)
  refine ⟨graph, there, fun subject target domain => ?_, isGraph.links.count_eq fits⟩
  rw [isGraph.links.has_iff, storesLink_iff fits]

theorem Sample.linking_enforcer (metrics? : Option Metrics) : Linking (enforcer metrics?) := by
  refine @ReachableWhile.built _ (enforcer metrics?).settings [] metrics? model _
    read_model ?_ rfl
  rw [build, compile_model]
  rfl

theorem linking_staffed : Linking Sample.staffed :=
  .after (Sample.linking_enforcer none) (.mutate none _) trivial (by decide +kernel)

theorem graph_mirrors_rows_staffed :
    ∃ graph, Sample.staffed.graphs.lookup "g" = some graph ∧
      graph.links.Has "bob" "staff" RoleLinks.defaultDomain ∧ graph.linkCount = 1 := by
  have stored : Sample.staffed.table.rows "g" = [["bob", "staff"]] := by decide +kernel
  obtain ⟨graph, there, has_iff, count⟩ := @Linking.graph_mirrors_rows Sample.staffed
    linking_staffed "g" .everywhere (by decide +kernel)
  rw [stored] at has_iff count
  exact ⟨graph, there, (has_iff "bob" "staff" _).mpr ⟨rfl, by simp⟩, count⟩

end AccessControl.Enforcer
