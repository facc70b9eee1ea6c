import AccessControl.Proofs.Enforcer.Steps
import AccessControl.Proofs.Model.Keys

namespace AccessControl.Enforcer

/-! The enforcers that there can be: those that are built, and what becomes of
them. An invariant is kept by all that can happen if the changes that the
operations are made of keep it. -/

/-- What can happen to an enforcer. A storage that takes part is given as it is
at that time. -/
inductive Event
  | decide (context : EnforceContext) (values : List Value) (explain : Bool)
  | mutate (storage? : Option Storage) (mutation : Mutation Fields)
  | answer (question : Question)
  | adjust (adjustment : Adjustment)
  | load (storage? : Option Storage)
  | install (label : String) (lines : Lines)
  | fail (code : String)

def after (enforcer : Enforcer) : Event → Enforcer
  | .decide context values explain => (enforcer.decide context values explain).2.1
  | .mutate storage? mutation => (enforcer.mutate storage? mutation).2.1
  | .answer question => (enforcer.answer question).2
  | .adjust adjustment => (enforcer.adjust adjustment).2
  | .load storage? => (enforcer.load storage?).2.1
  | .install label lines => (enforcer.install label lines).2
  | .fail code => enforcer.record (·.recordError code)

/-- A model that is exchanged for another one must have been read. -/
def Adjustment.Legitimate : Adjustment → Prop
  | .loadModel model => model.Read
  | _ => True

def Event.Legitimate : Event → Prop
  | .adjust adjustment => adjustment.Legitimate
  | _ => True

inductive Reachable : Enforcer → Prop
  | built {settings : Settings} {functions : Entries String CustomFunction}
      {metrics? : Option Metrics} {model : Model} {enforcer : Enforcer}
      (read : model.Read)
      (built : build settings functions metrics? model = .ok enforcer) :
      Reachable enforcer
  | after {enforcer : Enforcer} (reachable : Reachable enforcer) (event : Event)
      (legitimate : event.Legitimate) : Reachable (enforcer.after event)

/-- An enforcer whose switches were allowed from the beginning until now. -/
inductive ReachableWhile (allowed : Switches → Prop) : Enforcer → Prop
  | built {settings : Settings} {functions : Entries String CustomFunction}
      {metrics? : Option Metrics} {model : Model} {enforcer : Enforcer}
      (read : model.Read)
      (built : build settings functions metrics? model = .ok enforcer)
      (start : allowed enforcer.switches) : ReachableWhile allowed enforcer
  | after {enforcer : Enforcer} (reachable : ReachableWhile allowed enforcer) (event : Event)
      (legitimate : event.Legitimate) (still : allowed (enforcer.after event).switches) :
      ReachableWhile allowed (enforcer.after event)

theorem ReachableWhile.reachable {allowed : Switches → Prop} {enforcer : Enforcer}
    (reachable : ReachableWhile allowed enforcer) : Reachable enforcer := by
  induction reachable with
  | built read built _ => exact .built read built
  | after _ event legitimate _ ih => exact .after ih event legitimate

theorem Reachable.always {enforcer : Enforcer} (reachable : Reachable enforcer) :
    ReachableWhile (fun _ => True) enforcer := by
  induction reachable with
  | built read built => exact .built read built trivial
  | after _ event legitimate ih => exact .after ih event legitimate trivial

namespace Sample

def model : Model :=
  { requests := [("r", ["sub"])]
    policies := [("p", ["sub", "eft"])]
    roles := [("g", .everywhere)]
    effects := [("e", ⟨EffectRule.text .allowAndDeny, .allowAndDeny⟩)]
    matchers := [("m", "g(r.sub, p.sub)")] }

theorem read_model : model.Read :=
  ⟨[(.text "r", .text "sub"), (.text "p", .text "sub, eft"), (.text "g", .text "_, _"),
    (.text "e", .text (EffectRule.text .allowAndDeny)),
    (.text "m", .text "g(r.sub, p.sub)")],
    Answer.eq_ok_of_gives (by decide +kernel)⟩

def matcher : Matcher :=
  { text := "g(r.sub, p.sub)"
    root := .call "g" [.field ⟨"r", "sub", []⟩, .field ⟨"p", "sub", []⟩]
    fields := ["p.sub", "r.sub"]
    functions := ["g"] }

def matchers : Entries String Matcher :=
  [("m", matcher)]

theorem compile_model : compileMatchers [] model = .ok matchers :=
  Answer.eq_ok_of_gives (by decide +kernel)

def enforcer (metrics? : Option Metrics) : Enforcer :=
  let settings := { Settings.standard with cacheEnabled := true, cacheLimit := some 2 }
  { settings
    switches := settings.switches
    functions := []
    matchings := []
    model
    matchers
    table := newTable settings model
    graphs := newGraphs settings [] model
    cache := .empty (some 2)
    version := 0
    metrics? }

theorem reachable_enforcer (metrics? : Option Metrics) :
    Reachable (enforcer metrics?) := by
  refine @Reachable.built (enforcer metrics?).settings [] metrics? model _ read_model ?_
  rw [build, compile_model]
  rfl

end Sample

/-- A property that does not depend on the cache, the metrics and the switches, as long as
these are allowed, and that every change of the rest keeps. -/
structure StableWhile (allowed : Switches → Prop) (P : Enforcer → Prop) : Prop where
  switches : ∀ {enforcer : Enforcer}, P enforcer → allowed enforcer.switches
  aside : ∀ {enforcer : Enforcer} {switches : Switches} (cache : DecisionCache)
    (metrics? : Option Metrics), allowed switches → P enforcer →
      P { enforcer with switches, cache, metrics? }
  withField : ∀ {enforcer : Enforcer} {key : String} {index : Int} {value : String}
    {rows : List Row} {table : PolicyTable},
      enforcer.table.withField key index value = .ok (rows, table) →
      P enforcer → P { enforcer with table }
  commit : ∀ {enforcer : Enforcer} {mutation : Mutation Fields} {change : Mutation Row},
      enforcer.check mutation = .ok (some change) → P enforcer →
      P (enforcer.commit change)
  exchange : ∀ {enforcer : Enforcer} {lines : Lines} {table : PolicyTable}
    {graphs : Entries String RoleGraph},
      enforcer.stage enforcer.model lines = .ok (table, graphs) → P enforcer →
      P (enforcer.exchange table graphs)
  loadModel : ∀ {enforcer changed : Enforcer} {model : Model}, model.Read →
      enforcer.loadModel model = .ok changed → P enforcer → P changed
  clear : ∀ {enforcer : Enforcer}, P enforcer → P enforcer.clear
  rebuildLinks : ∀ {enforcer : Enforcer}, P enforcer → P enforcer.rebuildLinks
  withMatching : ∀ {enforcer changed : Enforcer} {key : String}
    {change : RoleMatching → RoleMatching},
      enforcer.withMatching key change = .ok changed → P enforcer → P changed

abbrev Stable : (Enforcer → Prop) → Prop :=
  StableWhile fun _ => True

namespace StableWhile

variable {allowed : Switches → Prop} {P : Enforcer → Prop} {enforcer : Enforcer}

theorem record (stable : StableWhile allowed P) (holds : P enforcer)
    (change : Metrics → Metrics) : P (enforcer.record change) :=
  stable.aside enforcer.cache _ (stable.switches holds) holds

theorem decide (stable : StableWhile allowed P) (holds : P enforcer)
    (context : EnforceContext) (values : List Value) (explain : Bool) :
    P (enforcer.decide context values explain).2.1 := by
  obtain ⟨cache, metrics?, left⟩ := enforcer.decide_snd context values explain
  rw [left]
  exact stable.aside cache metrics? (stable.switches holds) holds

theorem mutate (stable : StableWhile allowed P) (holds : P enforcer)
    (storage? : Option Storage) (mutation : Mutation Fields) :
    P (enforcer.mutate storage? mutation).2.1 := by
  unfold Enforcer.mutate
  rcases enforcer.mutateBy_cases persist storage? mutation with
    ⟨change, checked, -, left⟩ | ⟨-, same | failed⟩
  · rw [left]
    exact stable.commit checked holds
  · rw [same]
    exact holds
  · rw [failed]
    exact stable.record holds _

theorem answer (stable : StableWhile allowed P) (holds : P enforcer)
    (question : Question) : P (enforcer.answer question).2 := by
  rcases enforcer.answer_snd question with same | ⟨_, _, _, _, table, looked, left⟩
  · rw [same]
    exact holds
  · rw [left]
    exact stable.withField looked holds

theorem adjust (stable : StableWhile allowed P) (holds : P enforcer)
    {adjustment : Adjustment} (legitimate : adjustment.Legitimate)
    (still : allowed (enforcer.adjust adjustment).2.switches) :
    P (enforcer.adjust adjustment).2 := by
  cases adjustment with
  | clear => exact stable.clear holds
  | rebuildLinks => exact stable.rebuildLinks holds
  | matchNames | matchDomains =>
      exact of_tried holds fun changed done =>
        stable.withMatching (Answer.mapError_eq_ok.mp done) holds
  | loadModel model =>
      exact of_tried holds fun changed done => stable.loadModel legitimate done holds
  | _ => exact @StableWhile.aside allowed P stable enforcer _ _ _ still holds

theorem install (stable : StableWhile allowed P) (holds : P enforcer) (label : String)
    (lines : Lines) : P (enforcer.install label lines).2 := by
  rcases enforcer.install_snd label lines with same | ⟨table, graphs, staged, left⟩
  · rw [same]
    exact holds
  · rw [left]
    exact stable.record (stable.exchange staged holds) _

theorem load (stable : StableWhile allowed P) (holds : P enforcer)
    (storage? : Option Storage) : P (enforcer.load storage?).2.1 := by
  rcases enforcer.load_snd storage? with same | failed | ⟨label, lines, left⟩
  · rw [same]
    exact holds
  · rw [failed]
    exact stable.record holds _
  · rw [left]
    exact stable.install holds label lines

theorem after (stable : StableWhile allowed P) (holds : P enforcer) {event : Event}
    (legitimate : event.Legitimate) (still : allowed (enforcer.after event).switches) :
    P (enforcer.after event) := by
  cases event with
  | decide context values explain => exact stable.decide holds context values explain
  | mutate storage? mutation => exact stable.mutate holds storage? mutation
  | answer question => exact stable.answer holds question
  | adjust adjustment => exact stable.adjust holds legitimate still
  | load storage? => exact stable.load holds storage?
  | install label lines => exact stable.install holds label lines
  | fail code => exact stable.record holds _

/-- A stable property of all enforcers that are built with allowed switches holds of all
others whose switches stay allowed. -/
theorem of_reachableWhile (stable : StableWhile allowed P)
    (initial : ∀ {settings : Settings} {functions : Entries String CustomFunction}
      {metrics? : Option Metrics} {model : Model} {enforcer : Enforcer}, model.Read →
        build settings functions metrics? model = .ok enforcer →
          allowed enforcer.switches → P enforcer)
    (reachable : ReachableWhile allowed enforcer) : P enforcer := by
  induction reachable with
  | built read built start => exact initial read built start
  | after _ event legitimate still ih => exact stable.after ih legitimate still

theorem of_reachable (stable : Stable P)
    (initial : ∀ {settings : Settings} {functions : Entries String CustomFunction}
      {metrics? : Option Metrics} {model : Model} {enforcer : Enforcer}, model.Read →
        build settings functions metrics? model = .ok enforcer → P enforcer)
    (reachable : Reachable enforcer) : P enforcer :=
  stable.of_reachableWhile (fun read built _ => initial read built) reachable.always

end StableWhile

end AccessControl.Enforcer
