import AccessControl.Proofs.Enforcer.Decision
import AccessControl.Proofs.Enforcer.Linked

namespace AccessControl

/-! What an enforcer stores goes with its model: the rows, the role graphs and the
compiled matchers. So nothing is missing that a decision or a change looks up. -/

namespace Enforcer

section

variable (enforcer : Enforcer) (key : String) (row : Row)

theorem keys_link :
    Entries.keys (enforcer.link key row).graphs = Entries.keys enforcer.graphs := by
  unfold link
  split
  · next declared there =>
      split
      · exact Entries.keys_put_of_mem (Entries.mem_keys_of_lookup there) _
      · rfl
  · rfl

theorem keys_unlink :
    Entries.keys (enforcer.unlink key row).graphs = Entries.keys enforcer.graphs := by
  unfold unlink
  split
  · next declared there =>
      split
      · exact Entries.keys_put_of_mem (Entries.mem_keys_of_lookup there) _
      · rfl
  · rfl

end

theorem keys_foldl {α : Type} {step : Enforcer → α → Enforcer}
    (kept : ∀ enforcer item,
      Entries.keys (step enforcer item).graphs = Entries.keys enforcer.graphs)
    (enforcer : Enforcer) (items : List α) :
    Entries.keys (items.foldl step enforcer).graphs = Entries.keys enforcer.graphs := by
  induction items generalizing enforcer with
  | nil => rfl
  | cons item items ih => rw [List.foldl_cons, ih, kept]

theorem keys_changeRows (enforcer : Enforcer) (change : Mutation Row) :
    Entries.keys (enforcer.changeRows change).graphs = Entries.keys enforcer.graphs := by
  simp only [changeRows]
  rw [keys_foldl fun enforcer row => keys_link enforcer change.key row,
    keys_foldl fun enforcer row => keys_unlink enforcer change.key row]

theorem keys_newGraphs (settings : Settings) (matchings : Entries String RoleMatching)
    (model : Model) :
    Entries.keys (newGraphs settings matchings model) = Entries.keys model.roles := by
  simp only [newGraphs, Entries.keys, List.map_map, Function.comp_def]

theorem keys_linkAll (model : Model) (table : PolicyTable)
    (graphs : Entries String RoleGraph) :
    Entries.keys (linkAll model table graphs) = Entries.keys graphs := by
  simp only [linkAll, Entries.keys, List.map_map]
  apply List.map_congr_left
  intro entry _
  simp only [Function.comp_apply]
  split <;> rfl

theorem keys_of_stage {enforcer : Enforcer} {model : Model} {lines : Lines}
    {table : PolicyTable} {graphs : Entries String RoleGraph}
    (staged : enforcer.stage model lines = .ok (table, graphs)) :
    Entries.keys graphs = Entries.keys model.roles := by
  rw [(stage_eq_ok staged).2]
  split
  · rw [keys_linkAll, keys_newGraphs]
  · rw [keys_newGraphs]

structure Wired (enforcer : Enforcer) : Prop where
  graphs : Entries.keys enforcer.graphs = Entries.keys enforcer.model.roles
  compiled : compileMatchers enforcer.functions enforcer.model = .ok enforcer.matchers

theorem stable_wired : Stable Wired where
  switches := fun _ => trivial
  aside := fun _ _ _ wired => ⟨wired.graphs, wired.compiled⟩
  withField := fun _ wired => ⟨wired.graphs, wired.compiled⟩
  commit := by
    intro enforcer mutation change _ wired
    rw [commit_eq]
    exact ⟨(keys_changeRows enforcer change).trans wired.graphs, wired.compiled⟩
  exchange := fun staged wired => ⟨keys_of_stage staged, wired.compiled⟩
  loadModel := by
    intro enforcer changed model _ done _
    obtain ⟨matchers, table, graphs, compiled, staged, rfl⟩ := loadModel_eq_ok done
    exact ⟨keys_of_stage staged, compiled⟩
  clear := by
    intro enforcer wired
    refine ⟨Eq.trans ?_ wired.graphs, wired.compiled⟩
    change Entries.keys (enforcer.graphs.map fun entry => (entry.1, entry.2.clear)) = _
    simp only [Entries.keys, List.map_map, Function.comp_def]
  rebuildLinks := fun wired =>
    ⟨(keys_linkAll _ _ _).trans (keys_newGraphs _ _ _), wired.compiled⟩
  withMatching := by
    intro enforcer changed key change done wired
    obtain ⟨graph, matching, found, rfl⟩ := withMatching_eq_ok done
    exact ⟨(Entries.keys_put_of_mem (Entries.mem_keys_of_lookup found) _).trans wired.graphs,
      wired.compiled⟩

theorem Reachable.wired {enforcer : Enforcer} (reachable : Reachable enforcer) :
    enforcer.Wired := by
  refine stable_wired.of_reachable ?_ reachable
  intro settings functions metrics? model enforcer _ done
  obtain ⟨matchers, compiled, whole⟩ := Answer.bind_eq_ok.mp done
  cases whole
  exact ⟨keys_newGraphs _ _ _, compiled⟩

structure WellFormed (enforcer : Enforcer) : Prop where
  known : ∀ key, ∀ row ∈ enforcer.table.rows key, key ∈ enforcer.model.rowKeys
  /-- rows are such as the model takes, as many texts as it asks for -/
  fits : ∀ key, ∀ row ∈ enforcer.table.rows key,
    enforcer.model.readRow key (row.map .text) = .ok row
  distinct : enforcer.settings.uniquePolicies = true →
    ∀ key, (enforcer.table.rows key).Nodup
  graphs : Entries.keys enforcer.graphs = Entries.keys enforcer.model.roles
  nodup_graphs : (Entries.keys enforcer.graphs).Nodup
  predicates : ∀ role scope, enforcer.model.roles.lookup role = some scope →
    ∃ graph, enforcer.graphs.lookup role = some graph ∧
      enforcer.function? role = some (rolePredicate role scope graph)
  matchers : Entries.keys enforcer.matchers = Entries.keys enforcer.model.matchers
  nodup_matchers : (Entries.keys enforcer.matchers).Nodup
  compiled : compileMatchers enforcer.functions enforcer.model = .ok enforcer.matchers

theorem lookup_of_mem_keys {α : Type} {key : String} {entries : Entries String α}
    (member : key ∈ Entries.keys entries) : ∃ value, entries.lookup key = some value := by
  cases found : entries.lookup key with
  | some value => exact ⟨value, rfl⟩
  | none =>
      obtain ⟨entry, inside, rfl⟩ := List.mem_map.mp member
      have absent := List.lookup_eq_none_iff.mp found entry inside
      simp at absent

theorem Wired.graph {enforcer : Enforcer} (wired : enforcer.Wired) {role : String}
    {scope : RoleScope} (declared : enforcer.model.roles.lookup role = some scope) :
    ∃ graph, enforcer.graphs.lookup role = some graph := by
  apply lookup_of_mem_keys
  rw [wired.graphs]
  exact Entries.mem_keys_of_lookup declared

theorem Reachable.wellFormed {enforcer : Enforcer} (reachable : Reachable enforcer)
    (defined : enforcer.model.Defined) : enforcer.WellFormed where
  known _ _ stored := reachable.fitting.mem_rowKeys stored
  fits key row stored := Model.readRow_eq_ok.mpr ⟨rfl, reachable.fitting key row stored⟩
  distinct := reachable.nodup_rows
  graphs := reachable.wired.graphs
  nodup_graphs := reachable.wired.graphs ▸ defined.distinct.roles
  predicates role scope declared := by
    obtain ⟨graph, there⟩ := reachable.wired.graph declared
    refine ⟨graph, there, ?_⟩
    rw [function?, there, declared]
  matchers := reachable.sound.matchers
  nodup_matchers := reachable.sound.matchers ▸ defined.distinct.matchers
  compiled := reachable.wired.compiled

/-- Whatever a decision looks up of rows and fields, and a change of rows and role
graphs, is there. -/
structure Complete (enforcer : Enforcer) : Prop where
  matcher : ∀ key ∈ Entries.keys enforcer.model.matchers,
    ∃ matcher, enforcer.matchers.lookup key = some matcher
  effect : ∀ {context selection}, enforcer.select? context = some selection →
    ∀ row ∈ enforcer.table.rows selection.policyKey, ∀ index,
      selection.policy.idxOf? "eft" = some index → ∃ text, row[index]? = some text
  /-- the row is stored, or stands in where there is none -/
  field : ∀ {context selection}, enforcer.select? context = some selection →
    ∀ row, row ∈ enforcer.table.rows selection.policyKey ∨ row = selection.emptyRow →
      ∀ values, ∀ field ∈ selection.policy, ∃ text ∈ row,
        (selection.environment enforcer.function? values row).value?
          (Matcher.qualified selection.policyKey field) = some (.text text)
  link : ∀ role scope, enforcer.model.roles.lookup role = some scope →
    ∀ row ∈ enforcer.table.rows role, ∃ link, linkOf? scope row = some link
  /-- links are added and deleted one after the other, in the graphs left so far -/
  change : ∀ {mutation change}, enforcer.check mutation = .ok (some change) →
    ∀ scope, enforcer.model.roles.lookup change.key = some scope →
      (∃ graph, enforcer.graphs.lookup change.key = some graph) ∧
      Entries.keys (enforcer.changeRows change).graphs = Entries.keys enforcer.graphs ∧
      ∀ row ∈ (exchanged enforcer.table change).1 ++ (exchanged enforcer.table change).2,
        ∃ link, linkOf? scope row = some link
  stage : ∀ {model lines table graphs}, model.Read →
    enforcer.stage model lines = .ok (table, graphs) →
      ∀ role scope, model.roles.lookup role = some scope →
        (∃ graph, graphs.lookup role = some graph) ∧
        ∀ row ∈ table.rows role, ∃ link, linkOf? scope row = some link

theorem Fitting.length_policy {enforcer : Enforcer} (fitting : enforcer.Fitting)
    {key : String} {shape : Shape} (declared : enforcer.model.policies.lookup key = some shape)
    {row : Row} (stored : row ∈ enforcer.table.rows key) : row.length = shape.length := by
  have arity := fitting key row stored
  rw [Model.arity?, declared] at arity
  exact (Option.some.inj arity).symm

theorem lookup_bindings (key : String) {shape : Shape} {row : Row}
    (same : row.length = shape.length) {field : String} (member : field ∈ shape) :
    ∃ text ∈ row, (Selection.bindings key shape (row.map .text)).lookup
      (Matcher.qualified key field) = some (.text text) := by
  induction shape generalizing row with
  | nil => cases member
  | cons first shape ih =>
      cases row with
      | nil => cases same
      | cons text row =>
          simp only [List.length_cons, Nat.add_right_cancel_iff] at same
          simp only [Selection.bindings, List.map_cons, List.zip_cons_cons, List.lookup_cons]
          cases isFirst : Matcher.qualified key field == Matcher.qualified key first with
          | true => exact ⟨text, List.mem_cons_self, rfl⟩
          | false =>
              have later : field ∈ shape := by
                refine (List.mem_cons.mp member).resolve_left ?_
                rintro rfl
                simp at isFirst
              obtain ⟨other, inside, bound⟩ := ih same later
              exact ⟨other, List.mem_cons_of_mem text inside, bound⟩

theorem value?_environment (selection : Selection)
    (function? : String → Option Matcher.Function) (values : List Value) {row : Row}
    (same : row.length = selection.policy.length) {field : String}
    (member : field ∈ selection.policy) :
    ∃ text ∈ row, (selection.environment function? values row).value?
      (Matcher.qualified selection.policyKey field) = some (.text text) := by
  obtain ⟨text, inside, bound⟩ := lookup_bindings selection.policyKey same member
  refine ⟨text, inside, ?_⟩
  simp only [Selection.environment]
  rw [List.lookup_append, bound]
  rfl

theorem exists_links {model : Model} (read : model.Read) {role : String} {scope : RoleScope}
    (declared : model.roles.lookup role = some scope) {rows : List Row}
    (fits : ∀ row ∈ rows, model.arity? role = some row.length) :
    ∀ row ∈ rows, ∃ link, linkOf? scope row = some link := by
  intro row member
  apply exists_linkOf?
  have arity := fits row member
  rw [read.arity?_role declared] at arity
  exact (Option.some.inj arity).symm

theorem Reachable.complete {enforcer : Enforcer} (reachable : Reachable enforcer) :
    enforcer.Complete where
  matcher key member := by
    apply lookup_of_mem_keys
    rw [reachable.sound.matchers]
    exact member
  effect selected row stored index isIndex := by
    have bound : index < row.length := by
      rw [reachable.fitting.length_policy (selects_of_select? selected).lookup_policyKey stored]
      exact (List.idxOf?_eq_some_iff.mp isIndex).1
    exact ⟨_, List.getElem?_eq_getElem bound⟩
  field selected row isRow values field member := by
    refine value?_environment _ _ _ ?_ member
    rcases isRow with stored | rfl
    · exact reachable.fitting.length_policy (selects_of_select? selected).lookup_policyKey stored
    · exact List.length_map _
  link role scope declared := exists_links reachable.sound.read declared (reachable.fitting _)
  change checked scope declared :=
    ⟨reachable.wired.graph declared, keys_changeRows _ _,
      exists_links reachable.sound.read declared (fits_exchanged reachable.fitting checked)⟩
  stage read staged role scope declared := by
    refine ⟨lookup_of_mem_keys ?_,
      exists_links read declared (fits_stageRows (stage_eq_ok staged).1 _)⟩
    rw [keys_of_stage staged]
    exact Entries.mem_keys_of_lookup declared

end Enforcer

end AccessControl
