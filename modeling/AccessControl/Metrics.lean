import AccessControl.Command.Basic
import AccessControl.Number.Numeral

namespace AccessControl

inductive MetricKind
  | counter
  | gauge
  | histogram
  | info
deriving DecidableEq, Repr

structure Metric where
  name : String
  kind : MetricKind
  sampleName : String
  label? : Option String
deriving DecidableEq, Repr

namespace Metric

def componentInfo : Metric :=
  ⟨"component_info", .info, "enforcer_component_info", none⟩

def decisions : Metric :=
  ⟨"enforce_total", .counter, "enforce_total", some "decision"⟩

def durations : Metric :=
  ⟨"enforce_duration_seconds", .histogram, "enforce_duration_seconds_count", none⟩

def cacheLookups : Metric :=
  ⟨"decision_cache_total", .counter, "decision_cache_total", some "result"⟩

def ruleErrors : Metric :=
  ⟨"rule_eval_errors_total", .counter, "rule_eval_errors_total", none⟩

def errors : Metric :=
  ⟨"errors_total", .counter, "errors_total", some "error_type"⟩

def mutations : Metric :=
  ⟨"policy_mutations_total", .counter, "policy_mutations_total", some "operation"⟩

def policyRows : Metric :=
  ⟨"policy_rows", .gauge, "policy_rows", some "ptype"⟩

/-- All metrics, in the order of the names of their samples. -/
def all : List Metric :=
  [cacheLookups, durations, decisions, componentInfo, errors, mutations,
    policyRows, ruleErrors]

def named? (name : String) : Option Metric :=
  all.find? (·.name == name)

end Metric

inductive Amount
  | count (number : Nat)
  | measure (number : Binary64)
deriving DecidableEq, Repr

def Amount.increment : Amount → Amount
  | .count number => .count (number + 1)
  | .measure number => .measure (number.plusInt 1)

structure Metrics where
  component : String
  amounts : Entries (String × Option String) Amount
deriving DecidableEq, Repr

namespace Metrics

/-- Metrics without a label have a sample from the start. -/
def start (component : String) : Metrics :=
  { component
    amounts := [((Metric.durations.name, none), .count 0),
      ((Metric.ruleErrors.name, none), .count 0)] }

def amount (metrics : Metrics) (metric : Metric) (value? : Option String) :
    Amount :=
  (metrics.amounts.lookup (metric.name, value?)).getD (.count 0)

def set (metrics : Metrics) (metric : Metric) (value? : Option String)
    (amount : Amount) : Metrics :=
  { metrics with
    amounts := Entries.put (metric.name, value?) amount metrics.amounts }

def increment (metrics : Metrics) (metric : Metric) (value? : Option String) :
    Metrics :=
  metrics.set metric value? (metrics.amount metric value?).increment

def countDecision (metrics : Metrics) (allowed : Bool) : Metrics :=
  metrics.increment Metric.decisions (some (if allowed then "allow" else "deny"))

/-- A duration that is no number is not counted. -/
def countDuration (metrics : Metrics) : Metrics :=
  metrics.increment Metric.durations none

def recordDecision (metrics : Metrics) (allowed : Bool) : Metrics :=
  (metrics.countDecision allowed).countDuration

def recordCacheLookup (metrics : Metrics) (hit : Bool) : Metrics :=
  metrics.increment Metric.cacheLookups (some (if hit then "hit" else "miss"))

def recordRuleError (metrics : Metrics) : Metrics :=
  metrics.increment Metric.ruleErrors none

def recordError (metrics : Metrics) (code : String) : Metrics :=
  metrics.increment Metric.errors (some code)

def recordMutation (metrics : Metrics) (operation : String) : Metrics :=
  metrics.increment Metric.mutations (some operation)

def setPolicyRows (metrics : Metrics) (key : String) (rows : Nat) : Metrics :=
  metrics.set Metric.policyRows (some key) (.count rows)

def labelValue (metric : Metric) (labels : List (String × String)) :
    Answer (Option String) :=
  match metric.label?, labels with
  | none, [] => .ok none
  | some label, [(name, value)] =>
      if name = label then .ok (some value) else .error (.trap .wrongLabels)
  | _, _ => .error (.trap .wrongLabels)

/-- A labelled sample exists as soon as it is asked for. -/
def withSample (metrics : Metrics) (metric : Metric) (value? : Option String) :
    Metrics :=
  if value?.isSome then metrics.set metric value? (metrics.amount metric value?)
  else metrics

/-- The outcome of a use of a metric, which may leave a new sample even where it
fails. Where a name has no metric, nothing happens. -/
def use (metrics : Metrics) (name : String) (labels : List (String × String))
    (apply : Metric → Option String → Metrics → Answer Metrics) :
    Answer Unit × Metrics :=
  match Metric.named? name with
  | none => (.ok (), metrics)
  | some metric =>
      match labelValue metric labels with
      | .error failure => (.error failure, metrics)
      | .ok value? =>
          let ready := metrics.withSample metric value?
          match apply metric value? ready with
          | .ok changed => (.ok (), changed)
          | .error failure => (.error failure, ready)

def incrementNamed (metrics : Metrics) (name : String)
    (labels : List (String × String)) : Answer Unit × Metrics :=
  metrics.use name labels fun metric value? metrics =>
    match metric.kind with
    | .counter | .gauge => .ok (metrics.increment metric value?)
    | _ => .error (.trap .missingAttribute)

def amountOf : Value → Answer Amount
  | .bool value => .ok (.count (if value then 1 else 0))
  | .int number =>
      if 0 ≤ number ∧ number ≤ Nat.pow 2 53 then .ok (.count number.toNat)
      else .ok (.measure (.ofInt number))
  | .float number => .ok (.measure number)
  | .text text =>
      match Binary64.ofText? 0 text with
      | some number => .ok (.measure number)
      | none => .error (.trap .wrongLabels)
  | _ => .error (.trap .wrongKind)

def setNamed (metrics : Metrics) (name : String) (value : Value)
    (labels : List (String × String)) : Answer Unit × Metrics :=
  metrics.use name labels fun metric value? metrics =>
    match metric.kind with
    | .gauge => return metrics.set metric value? (← amountOf value)
    | _ => .error (.trap .missingAttribute)

def observe (metrics : Metrics) (value : Value) : Answer Metrics :=
  if !value.isNumeric then .error (.trap .wrongKind)
  else if value.position?.isSome then .ok metrics.countDuration
  else .ok metrics

def observeNamed (metrics : Metrics) (name : String) (value : Value)
    (labels : List (String × String)) : Answer Unit × Metrics :=
  metrics.use name labels fun metric _ metrics =>
    match metric.kind with
    | .histogram => metrics.observe value
    | _ => .error (.trap .missingAttribute)

/-- Records what a command names; its named arguments are the labels. -/
def obey (metrics : Metrics) (command : Command) : Answer Reply × Metrics :=
  let labels := command.named.map fun entry => (entry.1, entry.2.display)
  let finished (result : Answer Unit × Metrics) : Answer Reply × Metrics :=
    (result.1.map fun _ => .done, result.2)
  match command.name, command.arguments with
  | "record_decision", [allowed, duration] =>
      let counted := metrics.countDecision allowed.truthy
      match counted.observe duration with
      | .ok metrics => (.ok .done, metrics)
      | .error failure => (.error failure, counted)
  | "record_cache_lookup", [hit] =>
      (.ok .done, metrics.recordCacheLookup hit.truthy)
  | "record_rule_error", [] => (.ok .done, metrics.recordRuleError)
  | "record_error", [code] => (.ok .done, metrics.recordError code.display)
  | "record_mutation", [operation] =>
      (.ok .done, metrics.recordMutation operation.display)
  | "increment_counter", [.text name] =>
      finished (metrics.incrementNamed name labels)
  | "set_gauge", [.text name, value] =>
      finished (metrics.setNamed name value labels)
  | "observe_histogram", [.text name, value] =>
      finished (metrics.observeNamed name value labels)
  | "time_operation", [.text name] =>
      finished (metrics.observeNamed name (.int 0) labels)
  | "get_metric", [.text name] =>
      (.ok (.flag (Metric.named? name).isSome), metrics)
  | _, _ => (.error misfit, metrics)

structure Sample where
  name : String
  labels : List (String × String)
  amount : Amount
deriving DecidableEq, Repr

def samplesOf (metrics : Metrics) (metric : Metric) : List Sample :=
  match metric.kind with
  | .info =>
      [⟨metric.sampleName,
        [("component", metrics.component), ("version", "1.0.0")], .count 1⟩]
  | _ =>
      let own := metrics.amounts.filter fun entry => entry.1.1 == metric.name
      let sorted := own.mergeSort fun left right =>
        decide (left.1.2.getD "" ≤ right.1.2.getD "")
      sorted.map fun entry =>
        ⟨metric.sampleName,
          match metric.label?, entry.1.2 with
          | some label, some value => [(label, value)]
          | _, _ => [],
          entry.2⟩

def samples (metrics : Metrics) : List Sample :=
  Metric.all.flatMap metrics.samplesOf

end Metrics

end AccessControl
