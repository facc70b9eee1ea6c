import AccessControl.Proofs.Enforcer.Change
import AccessControl.Proofs.Enforcer.Verdict

namespace AccessControl

def Settings.forgetful (settings : Settings) : Settings :=
  { settings with cacheEnabled := false }

namespace Enforcer

def bare (enforcer : Enforcer) : Enforcer :=
  { enforcer with
    settings := { enforcer.settings with cacheEnabled := false, cacheLimit := none }
    switches := { enforcer.switches with cacheEnabled := false }
    cache := .empty none
    metrics? := none }

@[simp] theorem bare_bare (enforcer : Enforcer) : enforcer.bare.bare = enforcer.bare :=
  rfl

@[simp] theorem bare_record (enforcer : Enforcer) (change : Metrics → Metrics) :
    (enforcer.record change).bare = enforcer.bare :=
  rfl

section

variable (enforcer : Enforcer)

@[simp] theorem bare_functions : enforcer.bare.functions = enforcer.functions :=
  rfl

@[simp] theorem bare_model : enforcer.bare.model = enforcer.model :=
  rfl

@[simp] theorem bare_table : enforcer.bare.table = enforcer.table :=
  rfl

@[simp] theorem bare_graphs : enforcer.bare.graphs = enforcer.graphs :=
  rfl

@[simp] theorem bare_autoSave :
    enforcer.bare.switches.autoSave = enforcer.switches.autoSave :=
  rfl

@[simp] theorem bare_buildRoleLinks :
    enforcer.bare.switches.buildRoleLinks = enforcer.switches.buildRoleLinks :=
  rfl

end

structure Alike {α : Type} (left right : α × Enforcer) : Prop where
  answer : left.1 = right.1
  bare : left.2.bare = right.2.bare

variable (enforcer : Enforcer)

theorem bare_link (key : String) (row : Row) :
    enforcer.bare.link key row = (enforcer.link key row).bare := by
  unfold link
  rw [bare_model, bare_graphs, bare_buildRoleLinks]
  cases enforcer.model.roles.lookup key with
  | none => rfl
  | some scope =>
      cases enforcer.graphs.lookup key with
      | none => rfl
      | some graph =>
          simp only
          split
          · rfl
          · rfl

theorem bare_unlink (key : String) (row : Row) :
    enforcer.bare.unlink key row = (enforcer.unlink key row).bare := by
  unfold unlink
  rw [bare_model, bare_table, bare_graphs, bare_buildRoleLinks]
  cases enforcer.model.roles.lookup key with
  | none => rfl
  | some scope =>
      cases enforcer.graphs.lookup key with
      | none => rfl
      | some graph =>
          simp only
          split
          · rfl
          · rfl

theorem bare_changeRows (change : Mutation Row) :
    enforcer.bare.changeRows change = (enforcer.changeRows change).bare := by
  have unlinked : ∀ (rows : List Row) (changed : Enforcer),
      rows.foldl (·.unlink change.key ·) changed.bare =
        (rows.foldl (·.unlink change.key ·) changed).bare := fun _ _ =>
    List.foldl_hom bare fun changed row => bare_unlink changed change.key row
  have linked : ∀ (rows : List Row) (changed : Enforcer),
      rows.foldl (·.link change.key ·) changed.bare =
        (rows.foldl (·.link change.key ·) changed).bare := fun _ _ =>
    List.foldl_hom bare fun changed row => bare_link changed change.key row
  simp only [changeRows]
  rw [← linked, ← unlinked]
  rfl

theorem bare_commit (change : Mutation Row) :
    (enforcer.bare.commit change).bare = (enforcer.commit change).bare := by
  have published : ∀ changed : Enforcer,
      changed.bare.published.bare = changed.published.bare := fun _ => rfl
  simp only [commit, bare_record]
  rw [bare_changeRows, published]

theorem bare_mutateBy
    (follow : Storage → Mutation Row → Except StorageFault Unit × Storage)
    (storage? : Option Storage) (mutation : Mutation Fields) :
    (enforcer.bare.mutateBy follow storage? mutation).1 =
      (enforcer.mutateBy follow storage? mutation).1 ∧
    (enforcer.bare.mutateBy follow storage? mutation).2.1.bare =
      (enforcer.mutateBy follow storage? mutation).2.1.bare ∧
    (enforcer.bare.mutateBy follow storage? mutation).2.2 =
      (enforcer.mutateBy follow storage? mutation).2.2 := by
  have checks : enforcer.bare.check mutation = enforcer.check mutation := rfl
  unfold mutateBy
  rw [checks, bare_autoSave]
  cases enforcer.check mutation with
  | error fault => exact ⟨rfl, rfl, rfl⟩
  | ok change? =>
      cases change? with
      | none => exact ⟨rfl, rfl, rfl⟩
      | some change =>
          have committed := bare_commit enforcer change
          cases storage? with
          | none => exact ⟨rfl, committed, rfl⟩
          | some storage =>
              simp only
              split
              · split
                · exact ⟨rfl, committed, rfl⟩
                · exact ⟨rfl, rfl, rfl⟩
              · exact ⟨rfl, committed, rfl⟩

theorem alike_install (label : String) (lines : Lines) :
    Alike (enforcer.bare.install label lines) (enforcer.install label lines) := by
  have staged : enforcer.bare.stage enforcer.bare.model lines =
    enforcer.stage enforcer.model lines := rfl
  unfold install
  rw [staged]
  cases enforcer.stage enforcer.model lines with
  | error fault => exact ⟨rfl, rfl⟩
  | ok staged => exact ⟨rfl, rfl⟩

theorem bare_load (storage? : Option Storage) :
    (enforcer.bare.load storage?).1 = (enforcer.load storage?).1 ∧
    (enforcer.bare.load storage?).2.1.bare = (enforcer.load storage?).2.1.bare ∧
    (enforcer.bare.load storage?).2.2 = (enforcer.load storage?).2.2 := by
  unfold load
  cases storage? with
  | none => exact ⟨rfl, rfl, rfl⟩
  | some storage =>
      simp only
      split
      · exact ⟨rfl, rfl, rfl⟩
      · split
        · exact ⟨rfl, rfl, rfl⟩
        · next lines left _ =>
            have installed := enforcer.alike_install left.label lines
            exact ⟨installed.answer, installed.bare, rfl⟩

theorem alike_answer (question : Question) :
    Alike (enforcer.bare.answer question) (enforcer.answer question) := by
  cases question with
  | filteredRows key filter =>
      have found : enforcer.bare.filteredRows key filter =
          (enforcer.filteredRows key filter).map fun found => (found.1, found.2.bare) := by
        unfold filteredRows
        split
        · split
          · rfl
          · change (enforcer.table.withField key filter.start _ >>= _) = _
            cases enforcer.table.withField key filter.start _ with
            | error failure => rfl
            | ok looked => rfl
        · rfl
      simp only [answer, found]
      cases enforcer.filteredRows key filter with
      | error failure => exact ⟨rfl, rfl⟩
      | ok found => exact ⟨rfl, rfl⟩
  | _ => exact ⟨rfl, rfl⟩

theorem alike_tried {left right : Answer Enforcer}
    (agree : left.map bare = right.map bare) :
    Alike (enforcer.bare.tried left) (enforcer.tried right) := by
  cases left with
  | error failure =>
      cases right with
      | error other =>
          cases agree
          exact ⟨rfl, rfl⟩
      | ok changed => cases agree
  | ok changed =>
      cases right with
      | error failure => cases agree
      | ok other => exact ⟨rfl, Except.ok.inj agree⟩

theorem bare_withMatching (key : String) (change : RoleMatching → RoleMatching) :
    (enforcer.bare.withMatching key change).map bare =
      (enforcer.withMatching key change).map bare := by
  unfold withMatching
  rw [bare_graphs]
  cases enforcer.graphs.lookup key with
  | none => rfl
  | some graph => rfl

theorem bare_loadModel (model : Model) :
    (enforcer.bare.loadModel model).map bare = (enforcer.loadModel model).map bare := by
  have staged : ∀ lines,
      enforcer.bare.stage model lines = enforcer.stage model lines := fun _ => rfl
  unfold loadModel
  rw [bare_functions, bare_model, bare_table]
  cases compileMatchers enforcer.functions model with
  | error failure => rfl
  | ok matchers =>
      simp only [bind, Except.bind, staged]
      cases enforcer.stage model _ with
      | error fault => rfl
      | ok staged => rfl

def Adjustment.forgetful : Adjustment → Adjustment
  | .enableCache _ => .enableCache false
  | adjustment => adjustment

theorem mapError_map {ε ε' α β : Type} (answer : Except ε α) (change : ε → ε') (f : α → β) :
    (answer.mapError change).map f = (answer.map f).mapError change := by
  cases answer <;> rfl

theorem alike_adjust (adjustment : Adjustment) :
    Alike (enforcer.bare.adjust adjustment.forgetful) (enforcer.adjust adjustment) := by
  cases adjustment with
  | matchNames | matchDomains =>
      refine enforcer.alike_tried ?_
      rw [mapError_map, mapError_map]
      exact congrArg _ (enforcer.bare_withMatching _ _)
  | loadModel model => exact enforcer.alike_tried (enforcer.bare_loadModel model)
  | _ => exact ⟨rfl, rfl⟩

theorem bare_decide (context : EnforceContext) (values : List Value) (explain : Bool) :
    (enforcer.decide context values explain).2.1.bare = enforcer.bare := by
  obtain ⟨cache, metrics?, left⟩ := enforcer.decide_snd context values explain
  rw [left]
  rfl

theorem decideAnew_bare (context : EnforceContext) (values : List Value) (explain : Bool) :
    enforcer.bare.decideAnew context values explain =
      enforcer.decideAnew context values explain := by
  have same : SameBasis enforcer enforcer.bare := ⟨rfl, rfl, rfl, rfl, fun _ => rfl⟩
  exact same.decideAnew_eq rfl context values explain

theorem bare_build (settings : Settings) (functions : Entries String CustomFunction)
    (metrics? : Option Metrics) (model : Model) :
    (build settings.forgetful functions metrics? model).map bare =
      (build settings functions metrics? model).map bare := by
  unfold build
  cases compileMatchers functions model with
  | error failure => rfl
  | ok matchers => rfl

structure Oblivious (enforcer : Enforcer) : Prop where
  disabled : enforcer.switches.cacheEnabled = false
  empty : enforcer.cache.entries = []

section

variable {enforcer : Enforcer} (oblivious : enforcer.Oblivious)
include oblivious

theorem Oblivious.record (change : Metrics → Metrics) :
    (enforcer.record change).Oblivious :=
  ⟨oblivious.disabled, oblivious.empty⟩

theorem Oblivious.decide (context : EnforceContext) (values : List Value)
    (explain : Bool) : (enforcer.decide context values explain).2.1.Oblivious := by
  rcases enforcer.decide_cases context values explain with
    ⟨change, left⟩ | ⟨selection, key, change, -, spelled, left⟩
  · rw [left]
    exact oblivious.record change
  · simp [cacheKey?, oblivious.disabled] at spelled

theorem Oblivious.mutate (storage? : Option Storage) (mutation : Mutation Fields) :
    (enforcer.mutate storage? mutation).2.1.Oblivious := by
  have switches := switches_mutateBy persist enforcer storage? mutation
  unfold Enforcer.mutate
  refine ⟨by rw [switches]; exact oblivious.disabled, ?_⟩
  rcases enforcer.mutateBy_cases persist storage? mutation with
    ⟨change, -, -, left⟩ | ⟨-, same | failed⟩
  · rw [left]
    rfl
  · rw [same]
    exact oblivious.empty
  · rw [failed]
    exact oblivious.empty

theorem Oblivious.install (label : String) (lines : Lines) :
    (enforcer.install label lines).2.Oblivious := by
  rcases enforcer.install_snd label lines with same | ⟨table, graphs, -, left⟩
  · rw [same]
    exact oblivious
  · rw [left]
    exact ⟨oblivious.disabled, rfl⟩

theorem Oblivious.load (storage? : Option Storage) :
    (enforcer.load storage?).2.1.Oblivious := by
  rcases enforcer.load_snd storage? with same | failed | ⟨label, lines, left⟩
  · rw [same]
    exact oblivious
  · rw [failed]
    exact oblivious.record _
  · rw [left]
    exact oblivious.install label lines

theorem Oblivious.answer (question : Question) :
    (enforcer.answer question).2.Oblivious := by
  rcases enforcer.answer_snd question with same | ⟨_, _, _, _, table, -, left⟩
  · rw [same]
    exact oblivious
  · rw [left]
    exact ⟨oblivious.disabled, oblivious.empty⟩

theorem Oblivious.adjust {adjustment : Adjustment}
    (never : adjustment ≠ .enableCache true) :
    (enforcer.adjust adjustment).2.Oblivious := by
  cases adjustment with
  | enableCache enabled =>
      cases enabled with
      | false => exact ⟨rfl, rfl⟩
      | true => exact absurd rfl never
  | clear | rebuildLinks => exact ⟨oblivious.disabled, rfl⟩
  | matchNames | matchDomains =>
      refine of_tried oblivious fun changed done => ?_
      obtain ⟨_, _, -, rfl⟩ := withMatching_eq_ok (Answer.mapError_eq_ok.mp done)
      exact ⟨oblivious.disabled, rfl⟩
  | loadModel model =>
      refine of_tried oblivious fun changed done => ?_
      obtain ⟨matchers, table, graphs, -, -, rfl⟩ := loadModel_eq_ok done
      exact ⟨oblivious.disabled, rfl⟩
  | _ => exact ⟨oblivious.disabled, oblivious.empty⟩

theorem Oblivious.after {event : Event}
    (never : ∀ adjustment, event = .adjust adjustment → adjustment ≠ .enableCache true) :
    (enforcer.after event).Oblivious := by
  cases event with
  | decide context values explain => exact oblivious.decide context values explain
  | mutate storage? mutation => exact oblivious.mutate storage? mutation
  | answer question => exact oblivious.answer question
  | adjust adjustment => exact oblivious.adjust (never adjustment rfl)
  | load storage? => exact oblivious.load storage?
  | install label lines => exact oblivious.install label lines
  | fail code => exact oblivious.record _

end

theorem oblivious_build {settings : Settings} {functions : Entries String CustomFunction}
    {metrics? : Option Metrics} {model : Model} {enforcer : Enforcer}
    (disabled : settings.cacheEnabled = false)
    (built : build settings functions metrics? model = .ok enforcer) :
    enforcer.Oblivious := by
  obtain ⟨matchers, -, whole⟩ := Answer.bind_eq_ok.mp built
  cases whole
  exact ⟨disabled, rfl⟩

end Enforcer

end AccessControl
