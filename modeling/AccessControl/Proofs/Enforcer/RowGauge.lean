import AccessControl.Proofs.Enforcer.Matchings
import AccessControl.Proofs.Enforcer.Readings

namespace AccessControl.Enforcer

/-! The gauge of the stored rows. A load sets it for the keys that it brings rows for, and
nothing else sets it: under every key it reads what was left by the last load that brought rows
for the key. -/

theorem mem_keys_stageRows {settings : Settings} {model : Model} {lines : Lines}
    {staged : PolicyTable}
    (done : stageRows model (newTable settings model) lines = .ok staged) (key : String) :
    key ∈ staged.keys ↔ staged.rows key ≠ [] := by
  refine @stageRows_induction (fun table => key ∈ table.keys ↔ table.rows key ≠ []) _ ?_ _ _ _
    ?_ done
  · intro table next other fields row _ made same
    simp only [PolicyTable.insert?, Option.ite_none_left_eq_some, Option.some.injEq] at made
    obtain ⟨-, rfl⟩ := made
    rw [PolicyTable.keys, PolicyTable.withBucket, Entries.mem_keys_put_iff]
    by_cases here : key = other
    · subst here
      refine iff_of_true (.inl rfl) ?_
      change (table.withBucket key _).rows key ≠ []
      rw [PolicyTable.rows_withBucket_self]
      exact List.append_ne_nil_of_right_ne_nil _ (List.cons_ne_nil row [])
    · change _ ↔ (table.withBucket other _).rows key ≠ []
      rw [PolicyTable.rows_withBucket_of_ne table here]
      exact (or_iff_right here).trans same
  · rw [rows_newTable, PolicyTable.keys, buckets_newTable]
    exact iff_of_false List.not_mem_nil fun different => different rfl

theorem amount_foldl_setPolicyRows (table : PolicyTable) (keys : List String)
    (metrics : Metrics) (key : String) :
    (keys.foldl (fun metrics key => metrics.setPolicyRows key (table.count key))
        metrics).amount Metric.policyRows (some key) =
      if key ∈ keys then .count (table.count key)
      else metrics.amount Metric.policyRows (some key) := by
  induction keys generalizing metrics with
  | nil => rfl
  | cons first keys ih =>
      rw [List.foldl_cons, ih]
      by_cases later : key ∈ keys
      · rw [if_pos later, if_pos (List.mem_cons_of_mem first later)]
      · rw [if_neg later, Metrics.setPolicyRows]
        by_cases here : key = first
        · subst here
          rw [Metrics.amount_set_self, if_pos List.mem_cons_self]
        · rw [Metrics.amount_set_of_ne, if_neg (by simp [here, later])]
          exact fun same => here (Option.some.inj (congrArg Prod.snd same))

/-- What the gauge of a key shows once a table is loaded, by what it showed before. -/
def shown (key : String) (before : Amount) (table : PolicyTable) : Amount :=
  if table.rows key = [] then before else .count (table.rows key).length

theorem amount_recordLoad {settings : Settings} {model : Model} {lines : Lines}
    {staged : PolicyTable}
    (done : stageRows model (newTable settings model) lines = .ok staged) (metrics : Metrics)
    (key : String) :
    (recordLoad staged metrics).amount Metric.policyRows (some key) =
      shown key (metrics.amount Metric.policyRows (some key)) staged := by
  have unset : (metrics.recordMutation "load_policy").amount Metric.policyRows (some key) =
      metrics.amount Metric.policyRows (some key) :=
    Metrics.spares_of_name (by decide) _ metrics
  rw [recordLoad, amount_foldl_setPolicyRows, unset, shown]
  by_cases without : staged.rows key = []
  · rw [if_pos without, if_neg fun listed => (mem_keys_stageRows done key).mp listed without]
  · rw [if_neg without, if_pos ((mem_keys_stageRows done key).mpr without), PolicyTable.count]

def tableIf (answer : Answer Unit) (after : Enforcer) : Option PolicyTable :=
  if answer.isOk then some after.table else none

def loaded? (enforcer : Enforcer) : Event → Option PolicyTable
  | .load storage? => tableIf (enforcer.load storage?).1 (enforcer.load storage?).2.1
  | .install label lines =>
      tableIf (enforcer.install label lines).1 (enforcer.install label lines).2
  | _ => none

def loads (enforcer : Enforcer) : List Event → List PolicyTable
  | [] => []
  | event :: events => (enforcer.loaded? event).toList ++ (enforcer.after event).loads events

/-- The gauge of the key shows the rows of the table that is loaded, if one is. -/
def Shows (key : String) (before after : Enforcer) (loaded? : Option PolicyTable) : Prop :=
  after.reading Metric.policyRows (some key) =
    (before.reading Metric.policyRows (some key)).map fun amount =>
      loaded?.toList.foldl (shown key) amount

section

variable (enforcer : Enforcer) (key : String)

theorem shows_none {before after : Enforcer} (same :
    after.reading Metric.policyRows (some key) = before.reading Metric.policyRows (some key)) :
    Shows key before after none := by
  rw [Shows, same]
  exact Option.map_id'.symm

theorem shows_recordError (code : String) :
    Shows key enforcer (enforcer.record (·.recordError code)) none :=
  shows_none key (enforcer.reading_record (Metrics.spares_of_name (by decide) _))

theorem shows_install (label : String) (lines : Lines) :
    Shows key enforcer (enforcer.install label lines).2
      (tableIf (enforcer.install label lines).1 (enforcer.install label lines).2) := by
  unfold install
  cases staged : enforcer.stage enforcer.model lines with
  | error fault => exact shows_none key rfl
  | ok exchanged =>
      obtain ⟨table, graphs⟩ := exchanged
      change (enforcer.metrics?.map (recordLoad table)).map
          (·.amount Metric.policyRows (some key)) =
        (enforcer.metrics?.map (·.amount Metric.policyRows (some key))).map (shown key · table)
      cases enforcer.metrics? with
      | none => rfl
      | some metrics =>
          exact congrArg some (amount_recordLoad (stage_eq_ok staged).1 metrics key)

theorem shows_load (storage? : Option Storage) :
    Shows key enforcer (enforcer.load storage?).2.1
      (tableIf (enforcer.load storage?).1 (enforcer.load storage?).2.1) := by
  cases storage? with
  | none => exact shows_none key rfl
  | some storage =>
      simp only [load]
      cases storage.kind.immediate with
      | false => exact shows_none key rfl
      | true =>
          unfold Storage.load
          cases storage.obstacle? .load with
          | some error => exact enforcer.shows_recordError key _
          | none => exact enforcer.shows_install key storage.label storage.lines

theorem shows_after (event : Event) :
    Shows key enforcer (enforcer.after event) (enforcer.loaded? event) := by
  cases event with
  | decide context values explain =>
      exact shows_none key (enforcer.reading_decide
        (by simp [Metrics.ofRequests, Metric.policyRows, Metric.decisions, Metric.durations,
          Metric.cacheLookups, Metric.ruleErrors, Metric.errors]) context values explain)
  | mutate storage? mutation =>
      simp only [after, Enforcer.mutate]
      rcases enforcer.mutateBy_cases persist storage? mutation with
        ⟨change, -, -, left⟩ | ⟨-, same | failed⟩
      · rw [left]
        exact shows_none key (enforcer.reading_commit (by decide) change)
      · rw [same]
        exact shows_none key rfl
      · rw [failed]
        exact enforcer.shows_recordError key _
  | answer question => exact shows_none key (enforcer.reading_answer question)
  | adjust adjustment => exact shows_none key (enforcer.reading_adjust adjustment)
  | load storage? => exact enforcer.shows_load key storage?
  | install label lines => exact enforcer.shows_install key label lines
  | fail code => exact enforcer.shows_recordError key code

/-- After any run, the gauge of a key shows what the loads of the run left it at. -/
theorem reading_policyRows_run (events : List Event) :
    (enforcer.run events).reading Metric.policyRows (some key) =
      (enforcer.reading Metric.policyRows (some key)).map fun amount =>
        (enforcer.loads events).foldl (shown key) amount := by
  induction events generalizing enforcer with
  | nil => exact Option.map_id'.symm
  | cons event events ih =>
      have first := enforcer.shows_after key event
      unfold Shows at first
      rw [run, List.foldl_cons, ← run, ih, first, Option.map_map, loads]
      exact congrArg (Option.map · _) (funext fun amount => (List.foldl_append ..).symm)

end

theorem shown_eq_zero_iff (key : String) (before : Amount) (table : PolicyTable) :
    shown key before table = .count 0 ↔ table.rows key = [] ∧ before = .count 0 := by
  unfold shown
  split
  · next without => exact (and_iff_right without).symm
  · next nonempty =>
      refine iff_of_false (fun zero => nonempty ?_) fun both => nonempty both.1
      exact List.length_eq_zero_iff.mp (Amount.count.inj zero)

theorem foldl_shown_eq_zero_iff (key : String) (before : Amount) (tables : List PolicyTable) :
    tables.foldl (shown key) before = .count 0 ↔
      (∀ table ∈ tables, table.rows key = []) ∧ before = .count 0 := by
  induction tables generalizing before with
  | nil => simp
  | cons first tables ih =>
      rw [List.foldl_cons, ih, shown_eq_zero_iff, List.forall_mem_cons, ← and_assoc,
        and_comm (a := first.rows key = [])]

/-- The gauge of the key shows how many rows are stored under it. -/
def GaugeHolds (enforcer : Enforcer) (key : String) : Prop :=
  enforcer.reading Metric.policyRows (some key) = some (.count (enforcer.rows key).length)

instance (enforcer : Enforcer) (key : String) : Decidable (enforcer.GaugeHolds key) :=
  inferInstanceAs (Decidable (_ = _))

theorem table_of_loaded {enforcer : Enforcer} {event : Event} {table : PolicyTable}
    (loaded : enforcer.loaded? event = some table) : (enforcer.after event).table = table := by
  cases event with
  | load | install =>
      simp only [loaded?, tableIf, Option.ite_none_right_eq_some, Option.some.injEq] at loaded
      exact loaded.2
  | _ => cases loaded

/-- After a load that was done, the gauge of a key shows the rows that are stored under it
exactly if there are such rows, or neither an earlier load brought rows for the key nor did the
gauge show any when the enforcer was built. -/
theorem gaugeHolds_iff {settings : Settings} {functions : Entries String CustomFunction}
    {metrics : Metrics} {model : Model} {start : Enforcer}
    (built : build settings functions (some metrics) model = .ok start) (events : List Event)
    {event : Event} {table : PolicyTable}
    (loaded : (start.run events).loaded? event = some table) (key : String) :
    GaugeHolds ((start.run events).after event) key ↔
      ((start.run events).after event).rows key ≠ [] ∨
        (∀ earlier ∈ start.loads events, earlier.rows key = []) ∧
          metrics.amount Metric.policyRows (some key) = .count 0 := by
  have read := (start.run events).shows_after key event
  have shownFirst : start.reading Metric.policyRows (some key) =
      some (metrics.amount Metric.policyRows (some key)) := by
    rw [reading, metrics?_build built, Option.map_some]
  rw [Shows, reading_policyRows_run, shownFirst, loaded] at read
  rw [GaugeHolds, rows, read, table_of_loaded loaded]
  change some (shown key _ table) = _ ↔ _
  rw [Option.some.injEq]
  by_cases without : table.rows key = []
  · rw [without, List.length_nil, shown_eq_zero_iff, foldl_shown_eq_zero_iff]
    simp [without]
  · exact iff_of_true (if_neg without) (.inl without)

namespace Sample

def loading (rows : List Row) : Event :=
  .load (some (.ofLines .memory (rows.map fun row => ⟨"p", row.map .text⟩)))

def stocked : Enforcer :=
  measured.run [loading [["staff", "allow"]]]

end Sample

/-- The gauge follows a load of other rows, but not one without rows. -/
theorem gaugeHolds_iff_stocked :
    GaugeHolds (Sample.stocked.after (Sample.loading [["bob", "deny"], ["ann", "deny"]])) "p" ∧
      ¬ GaugeHolds (Sample.stocked.after (Sample.loading [])) "p" := by
  obtain ⟨others, otherRows⟩ := Option.isSome_iff_exists.mp (show (Sample.stocked.loaded?
    (Sample.loading [["bob", "deny"], ["ann", "deny"]])).isSome by decide +kernel)
  obtain ⟨bare, noRows⟩ := Option.isSome_iff_exists.mp (show (Sample.stocked.loaded?
    (Sample.loading [])).isSome by decide +kernel)
  constructor
  · refine (gaugeHolds_iff Sample.build_measured _ otherRows "p").mpr (.inl ?_)
    decide +kernel
  · refine fun holds => absurd ((gaugeHolds_iff Sample.build_measured _ noRows "p").mp holds) ?_
    decide +kernel

/-- A load that takes the last row of a key away leaves the gauge at one row. -/
theorem not_gaugeHolds_emptied :
    build Sample.measured.settings [] (some (.start "enforcer")) Sample.model =
      .ok Sample.measured ∧
    (Sample.stocked.loaded? (Sample.loading [])).isSome ∧
    "p" ∈ (Sample.stocked.after (Sample.loading [])).model.rowKeys ∧
    (Sample.stocked.after (Sample.loading [])).rows "p" = [] ∧
    (Sample.stocked.after (Sample.loading [])).reading Metric.policyRows (some "p") =
      some (.count 1) ∧
    ¬ GaugeHolds (Sample.stocked.after (Sample.loading [])) "p" :=
  ⟨Sample.build_measured, by decide +kernel⟩

end AccessControl.Enforcer
