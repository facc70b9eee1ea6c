import AccessControl.Proofs.Enforcer.Reachable
import AccessControl.Proofs.Policy.Table

namespace AccessControl

namespace PolicyTable

theorem isUnique_setUnique (table : PolicyTable) (key other : String) :
    (table.setUnique key true).isUnique other = (other == key || table.isUnique other) := by
  rw [Bool.eq_iff_iff]
  simp only [setUnique, isUnique, if_true, List.contains_iff_mem, List.mem_append,
    List.mem_filter, List.mem_singleton, bne_iff_ne, Bool.or_eq_true, beq_iff_eq]
  by_cases same : other = key <;> simp [same]

theorem sound_of_buckets {table : PolicyTable} (empty : table.buckets = []) :
    table.Sound := by
  have empty : ∀ key, table.bucket key = .empty := by
    intro key
    rw [bucket, empty]
    rfl
  constructor
  · intro key
    rw [empty]
    exact Bucket.sound_empty
  · intro key _
    rw [rows, empty]
    exact .nil

end PolicyTable

namespace Enforcer

theorem buckets_foldl_setUnique (keys : List String) (table : PolicyTable) :
    (keys.foldl (fun table key => table.setUnique key true) table).buckets =
      table.buckets := by
  induction keys generalizing table with
  | nil => rfl
  | cons key keys ih =>
      rw [List.foldl_cons, ih]
      rfl

theorem isUnique_foldl_setUnique (keys : List String) (table : PolicyTable)
    (other : String) :
    (keys.foldl (fun table key => table.setUnique key true) table).isUnique other =
      (keys.contains other || table.isUnique other) := by
  induction keys generalizing table with
  | nil => rfl
  | cons key keys ih =>
      rw [List.foldl_cons, ih, PolicyTable.isUnique_setUnique, List.contains_cons,
        Bool.or_left_comm, Bool.or_assoc]

theorem sound_newTable (settings : Settings) (model : Model) :
    (newTable settings model).Sound := by
  unfold newTable
  split
  · exact PolicyTable.sound_of_buckets (buckets_foldl_setUnique _ _)
  · exact PolicyTable.sound_empty

theorem isUnique_newTable (settings : Settings) (model : Model) (key : String) :
    (newTable settings model).isUnique key =
      (settings.uniquePolicies && model.rowKeys.contains key) := by
  unfold newTable
  split
  · next unique =>
      rw [isUnique_foldl_setUnique, unique, Bool.true_and]
      exact Bool.or_false _
  · next notUnique =>
      rw [Bool.not_eq_true] at notUnique
      rw [notUnique]
      rfl

theorem stageRows_induction {P : PolicyTable → Prop} {model : Model}
    (kept : ∀ {table next : PolicyTable} {key : String} {fields : Fields} {row : Row},
      model.readRow key fields = .ok row → table.insert? key row = some next →
        P table → P next)
    {table staged : PolicyTable} {lines : Lines} (holds : P table)
    (done : stageRows model table lines = .ok staged) : P staged := by
  induction lines generalizing table with
  | nil =>
      cases done
      exact holds
  | cons line lines ih =>
      obtain ⟨row, read, rest⟩ := Answer.bind_eq_ok.mp done
      refine ih ?_ rest
      cases made : table.insert? line.key row with
      | none => exact holds
      | some next => exact kept read made holds

theorem stage_eq_ok {enforcer : Enforcer} {model : Model} {lines : Lines}
    {table : PolicyTable} {graphs : Entries String RoleGraph}
    (done : enforcer.stage model lines = .ok (table, graphs)) :
    stageRows model (newTable enforcer.settings model) lines = .ok table ∧
      graphs = if enforcer.switches.buildRoleLinks then
          linkAll model table (newGraphs enforcer.settings enforcer.matchings model)
        else newGraphs enforcer.settings enforcer.matchings model := by
  obtain ⟨staged, rows, whole⟩ := Answer.bind_eq_ok.mp done
  cases whole
  exact ⟨rows, rfl⟩

theorem loadModel_eq_ok {enforcer changed : Enforcer} {model : Model}
    (done : enforcer.loadModel model = .ok changed) :
    ∃ matchers table graphs,
      compileMatchers enforcer.functions model = .ok matchers ∧
      enforcer.stage model (linesUnder enforcer.table
        (enforcer.model.rowKeys.filter fun key => (model.arity? key).isSome))
          = .ok (table, graphs) ∧
      changed = { enforcer with model, matchers }.exchange table graphs := by
  obtain ⟨matchers, compiled, done⟩ := Answer.bind_eq_ok.mp done
  simp only at done
  split at done
  · cases done
  · next table graphs staged =>
      cases done
      exact ⟨matchers, table, graphs, compiled, staged, rfl⟩

theorem sound_stageRows {settings : Settings} {model : Model} {lines : Lines}
    {table : PolicyTable}
    (done : stageRows model (newTable settings model) lines = .ok table) :
    table.Sound :=
  stageRows_induction (fun _ made sound => sound.insert? made)
    (sound_newTable settings model) done

theorem isUnique_stageRows {settings : Settings} {model : Model} {lines : Lines}
    {table : PolicyTable}
    (done : stageRows model (newTable settings model) lines = .ok table)
    (key : String) :
    table.isUnique key = (settings.uniquePolicies && model.rowKeys.contains key) := by
  refine stageRows_induction (P := fun table => table.isUnique key =
    (settings.uniquePolicies && model.rowKeys.contains key)) ?_
    (isUnique_newTable settings model key) done
  intro table next key fields row read made holds
  rw [(PolicyTable.sameElsewhere_insert? made).isUnique, holds]

theorem link_eq (enforcer : Enforcer) (key : String) (row : Row) :
    enforcer.link key row = { enforcer with graphs := (enforcer.link key row).graphs } := by
  unfold link
  split
  · split <;> rfl
  · rfl

theorem unlink_eq (enforcer : Enforcer) (key : String) (row : Row) :
    enforcer.unlink key row =
      { enforcer with graphs := (enforcer.unlink key row).graphs } := by
  unfold unlink
  split
  · split <;> rfl
  · rfl

theorem foldl_graphs_eq {α : Type} {step : Enforcer → α → Enforcer}
    (graphsOnly : ∀ enforcer item,
      step enforcer item = { enforcer with graphs := (step enforcer item).graphs })
    (enforcer : Enforcer) (items : List α) :
    items.foldl step enforcer =
      { enforcer with graphs := (items.foldl step enforcer).graphs } := by
  induction items generalizing enforcer with
  | nil => rfl
  | cons item items ih =>
      rw [List.foldl_cons, ih, graphsOnly enforcer item]

theorem changeRows_eq (enforcer : Enforcer) (change : Mutation Row) :
    enforcer.changeRows change =
      { enforcer with
        table := changeTable enforcer.table change
        graphs := (enforcer.changeRows change).graphs } := by
  have linked := foldl_graphs_eq (fun enforcer row => link_eq enforcer change.key row)
  have unlinked :=
    foldl_graphs_eq (fun enforcer row => unlink_eq enforcer change.key row)
  simp only [changeRows]
  rw [linked, unlinked]

theorem commit_eq (enforcer : Enforcer) (change : Mutation Row) :
    enforcer.commit change = { enforcer with
      table := changeTable enforcer.table change
      graphs := (enforcer.changeRows change).graphs
      version := enforcer.version + 1
      cache := enforcer.cache.invalidate
      metrics? := enforcer.metrics?.map (·.recordMutation change.operation) } := by
  unfold commit
  rw [changeRows_eq enforcer change]
  rfl

theorem sound_changeTable {table : PolicyTable} (sound : table.Sound)
    (change : Mutation Row) : (changeTable table change).Sound := by
  cases change with
  | add key row => exact sound.getD fun _ made => sound.insert? made
  | addAll key rows => exact sound.getD fun _ made => sound.insertAll? made
  | remove key row => exact sound.getD fun _ made => sound.erase? made
  | removeAll key rows => exact sound.getD fun _ made => sound.eraseAll? made
  | removeFiltered key filter => exact sound.eraseFiltered key filter
  | update key old new => exact sound.getD fun _ made => sound.replace? made

theorem sameElsewhere_changeTable (table : PolicyTable) (change : Mutation Row) :
    PolicyTable.SameElsewhere change.key table (changeTable table change) := by
  cases change with
  | add key row => exact .getD fun _ made => PolicyTable.sameElsewhere_insert? made
  | addAll key rows =>
      exact .getD fun _ made => PolicyTable.sameElsewhere_insertAll? made
  | remove key row => exact .getD fun _ made => PolicyTable.sameElsewhere_erase? made
  | removeAll key rows =>
      exact .getD fun _ made => PolicyTable.sameElsewhere_eraseAll? made
  | removeFiltered key filter =>
      exact PolicyTable.sameElsewhere_eraseFiltered table key filter
  | update key old new =>
      exact .getD fun _ made => PolicyTable.sameElsewhere_replace? made

theorem keys_of_compileMatchers {functions : Entries String CustomFunction}
    {model : Model} {matchers : Entries String Matcher}
    (done : compileMatchers functions model = .ok matchers) :
    Entries.keys matchers = Entries.keys model.matchers := by
  refine Answer.map_of_mapM ?_ done
  intro entry result compiled
  obtain ⟨fields, -, compiled⟩ := Answer.bind_eq_ok.mp compiled
  obtain ⟨matcher, -, whole⟩ := Answer.bind_eq_ok.mp compiled
  cases whole
  rfl

structure Sound (enforcer : Enforcer) : Prop where
  read : enforcer.model.Read
  matchers : Entries.keys enforcer.matchers = Entries.keys enforcer.model.matchers
  table : enforcer.table.Sound
  isUnique_eq : ∀ key, enforcer.table.isUnique key =
    (enforcer.settings.uniquePolicies && enforcer.model.rowKeys.contains key)

theorem stable_sound : Stable Sound where
  switches := fun _ => trivial
  aside := fun _ _ _ sound => ⟨sound.read, sound.matchers, sound.table, sound.isUnique_eq⟩
  withField := fun looked sound =>
    ⟨sound.read, sound.matchers, sound.table.withField looked, fun key =>
      ((PolicyTable.same_withField looked).1 key).trans (sound.isUnique_eq key)⟩
  commit := by
    intro enforcer mutation change _ sound
    have same := sameElsewhere_changeTable enforcer.table change
    rw [commit_eq]
    exact ⟨sound.read, sound.matchers, sound_changeTable sound.table change, fun key =>
      (same.isUnique key).trans (sound.isUnique_eq key)⟩
  exchange := by
    intro enforcer lines table graphs staged sound
    have rows := (stage_eq_ok staged).1
    exact ⟨sound.read, sound.matchers, sound_stageRows rows, isUnique_stageRows rows⟩
  loadModel := by
    intro enforcer changed model read done sound
    obtain ⟨matchers, table, graphs, compiled, staged, rfl⟩ := loadModel_eq_ok done
    have rows := (stage_eq_ok staged).1
    exact ⟨read, keys_of_compileMatchers compiled, sound_stageRows rows, isUnique_stageRows rows⟩
  clear := fun sound => ⟨sound.read, sound.matchers, PolicyTable.Sound.clear, sound.isUnique_eq⟩
  rebuildLinks := fun sound => ⟨sound.read, sound.matchers, sound.table, sound.isUnique_eq⟩
  withMatching := by
    intro enforcer changed key change done sound
    obtain ⟨_, _, -, rfl⟩ := withMatching_eq_ok done
    exact ⟨sound.read, sound.matchers, sound.table, sound.isUnique_eq⟩

theorem Reachable.sound {enforcer : Enforcer} (reachable : Reachable enforcer) :
    enforcer.Sound := by
  refine stable_sound.of_reachable ?_ reachable
  intro settings functions metrics? model enforcer read done
  obtain ⟨matchers, compiled, whole⟩ := Answer.bind_eq_ok.mp done
  cases whole
  exact ⟨read, keys_of_compileMatchers compiled, sound_newTable settings model,
    isUnique_newTable settings model⟩

end Enforcer

end AccessControl
