import AccessControl.Enforcer.Basic
import AccessControl.Enforcer.Context
import AccessControl.Matcher.Invocations
import AccessControl.RequestKey

namespace AccessControl

/-! Decisions on requests. Every row of the policy has an outcome, and the rule
of the effect makes one decision of them; without rows, the matcher decides on
empty fields. -/

structure Decision where
  allowed : Bool
  explain : List Row
  cacheHit : Bool
  ruleErrors : Nat
deriving DecidableEq, Repr

namespace Enforcer

structure Selection where
  requestKey : String
  request : Shape
  policyKey : String
  policy : Shape
  rule : EffectRule
  matcher : Matcher
deriving DecidableEq

def select? (enforcer : Enforcer) (context : EnforceContext) :
    Option Selection := do
  let request ← enforcer.model.requests.lookup context.request
  let policy ← enforcer.model.policies.lookup context.policy
  let effect ← enforcer.model.effects.lookup context.effect
  let matcher ← enforcer.matchers.lookup context.matcher
  return {
    requestKey := context.request
    request
    policyKey := context.policy
    policy
    rule := effect.rule
    matcher }

def select (enforcer : Enforcer) (context : EnforceContext)
    (values : List Value) : Except EnforceFault Selection :=
  match enforcer.select? context with
  | none => .error (.unknownContext context.key)
  | some selection =>
      if values.length ≠ selection.request.length then
        .error (.requestArity selection.request.length values.length
          selection.requestKey)
      else .ok selection

namespace Selection

def bindings (key : String) (shape : Shape) (values : List Value) :
    Entries String Value :=
  (shape.map (Matcher.qualified key)).zip values

def environment (selection : Selection)
    (function? : String → Option Matcher.Function) (values : List Value)
    (row : Row) : Matcher.Environment :=
  let fields := bindings selection.policyKey selection.policy (row.map .text)
    ++ bindings selection.requestKey selection.request values
  { value? := fun name => fields.lookup name, function? }

def emptyRow (selection : Selection) : Row :=
  selection.policy.map fun _ => ""

end Selection

def effectOf (shape : Shape) (row : Row) : Outcome :=
  match shape.idxOf? "eft" with
  | none => .allow
  | some index =>
      match row[index]? with
      | some "allow" => .allow
      | some "deny" => .deny
      | _ => .indeterminate

/-- The outcome of a row; a row whose evaluation fails has none. Only failures
that the evaluation does not report end the whole request. -/
def outcome? (matched : Answer Bool) (effect : Outcome) :
    Except Failure (Option Outcome) :=
  match matched with
  | .ok true => .ok (some effect)
  | .ok false => .ok (some .indeterminate)
  | .error (.fault (.eval _)) => .ok none
  | .error failure => .error failure

structure Walk where
  stream : EffectStream
  ruleErrors : Nat
  invocations : List Matcher.Invocation

def Walk.step (walk : Walk) (matcher : Matcher)
    (environment : Matcher.Environment) (effect : Outcome) :
    Except Failure Unit × Walk :=
  let met := { walk with
    invocations := walk.invocations ++ matcher.root.invocations environment }
  match outcome? (matcher.evaluate environment) effect with
  | .ok (some outcome) => (.ok (), { met with stream := met.stream.push outcome })
  | .ok none =>
      (.ok (), { met with
        stream := met.stream.push .indeterminate
        ruleErrors := met.ruleErrors + 1 })
  | .error failure => (.error failure, met)

def Walk.through (selection : Selection)
    (function? : String → Option Matcher.Function) (values : List Value)
    (walk : Walk) : List Row → Except Failure Unit × Walk
  | [] => (.ok (), walk)
  | row :: rows =>
      match walk.step selection.matcher
          (selection.environment function? values row)
          (effectOf selection.policy row) with
      | (.error failure, walk) => (.error failure, walk)
      | (.ok (), walk) =>
          if walk.stream.done then (.ok (), walk)
          else Walk.through selection function? values walk rows

/-- The walk over the rows of a policy, or over the empty row if there are none. -/
def walkRows (selection : Selection)
    (function? : String → Option Matcher.Function) (values : List Value)
    (rows : List Row) : Except Failure Unit × Walk :=
  if rows.isEmpty then
    (Walk.mk (.start selection.rule 1) 0 []).step selection.matcher
      (selection.environment function? values selection.emptyRow) .allow
  else
    (Walk.mk (.start selection.rule rows.length) 0 []).through selection function?
      values rows

def explained (rows : List Row) (stream : EffectStream) : List Row :=
  stream.explain.filterMap fun index => rows[index]?

def evaluate (enforcer : Enforcer) (selection : Selection) (values : List Value)
    (explain : Bool) : Answer Decision × Enforcer × List Matcher.Invocation :=
  let rows := enforcer.table.rows selection.policyKey
  let (ended, walk) := walkRows selection enforcer.function? values rows
  let counted := enforcer.record fun metrics =>
    walk.ruleErrors.repeat Metrics.recordRuleError metrics
  match ended with
  | .error failure => (.error failure, counted, walk.invocations)
  | .ok () =>
      (.ok {
        allowed := walk.stream.result
        explain := if explain then explained rows walk.stream else []
        cacheHit := false
        ruleErrors := walk.ruleErrors }, counted, walk.invocations)

def evaluateCached (enforcer : Enforcer) (selection : Selection)
    (values : List Value) (key : String) :
    Answer Decision × Enforcer × List Matcher.Invocation :=
  let (found, cache) := enforcer.cache.get key
  let asked := { enforcer with cache }.record fun metrics =>
    metrics.recordCacheLookup found.isSome
  match found with
  | some allowed =>
      (.ok { allowed, explain := [], cacheHit := true, ruleErrors := 0 }, asked, [])
  | none =>
      match asked.evaluate selection values false with
      | (.ok decision, after, invocations) =>
          (.ok decision,
            { after with cache := after.cache.put key decision.allowed },
            invocations)
      | failed => failed

def cacheKey? (enforcer : Enforcer) (context : EnforceContext)
    (values : List Value) (explain : Bool) : Option String :=
  if enforcer.switches.cacheEnabled && !explain then
    requestKey? context.key values
  else none

/-- Decides on a request. A request that asks for an explanation is always
evaluated. -/
def decide (enforcer : Enforcer) (context : EnforceContext) (values : List Value)
    (explain : Bool) : Answer Decision × Enforcer × List Matcher.Invocation :=
  match enforcer.select context values with
  | .error fault =>
      (.error (.enforce fault),
        enforcer.record (·.recordError Category.enforce.code), [])
  | .ok selection =>
      if !enforcer.switches.enabled then
        (.ok { allowed := true, explain := [], cacheHit := false, ruleErrors := 0 },
          enforcer, [])
      else
        let (answer, after, invocations) :=
          match enforcer.cacheKey? context values explain with
          | some key => enforcer.evaluateCached selection values key
          | none => enforcer.evaluate selection values explain
        match answer with
        | .ok decision =>
            (answer, after.record (·.recordDecision decision.allowed), invocations)
        | .error _ => (answer, after, invocations)

end Enforcer

end AccessControl
