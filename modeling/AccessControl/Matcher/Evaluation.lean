import AccessControl.Matcher.Compiled

namespace AccessControl.Matcher

abbrev Function := List Value → Answer Value

structure Environment where
  value? : String → Option Value
  function? : String → Option Function

/-- Classes of values that are never equal to, or ordered with, one another. -/
inductive Kind
  | truth
  | number
  | text
  | other
deriving DecidableEq, Repr

def kind : Value → Kind
  | .bool _ => .truth
  | .int _ | .float _ => .number
  | .text _ => .text
  | _ => .other

def areEqual (left right : Value) : Answer Bool :=
  if kind left ≠ kind right ∧ kind left ≠ .other ∧ kind right ≠ .other then
    .error (.eval (.unequalKinds left.typeName right.typeName))
  else .ok (left.equal right)

/-- The order of two texts, or of two numbers; undefined numbers have none. -/
def order (left right : Value) : Answer (Option Ordering) :=
  let refused : Failure := .eval (.unorderedKinds left.typeName right.typeName)
  match kind left, kind right with
  | .text, .text =>
      match left, right with
      | .text left, .text right => .ok (some (compare left right))
      | _, _ => .error refused
  | .number, .number =>
      match left.position?, right.position? with
      | some left, some right => .ok (some (left.compare right))
      | _, _ => .ok none
  | _, _ => .error refused

def occursIn (part : List Char) : List Char → Bool
  | [] => part.isEmpty
  | text@(_ :: rest) => part.isPrefixOf text || occursIn part rest

def contains (collection member : Value) : Answer Bool :=
  match collection with
  | .list items | .tuple items => .ok (Value.hasMember items member)
  | .set items =>
      match member with
      | .set _ => .ok false
      | member =>
          if member.hashable then .ok (Value.hasMember items member)
          else .error (.trap .unhashable)
  | .mapping entries =>
      if member.hashable then
        .ok (Value.hasMember (entries.map fun entry => .text entry.1) member)
      else .error (.trap .unhashable)
  | .text text =>
      match member with
      | .text part => .ok (occursIn part.toList text.toList)
      | member => .error (.eval (.notSubtext member.typeName))
  | other => .error (.eval (.notCollection other.typeName))

def holdsFor (comparison : Comparison) (left right : Value) : Answer Bool :=
  match comparison with
  | .equal => areEqual left right
  | .unequal => return !(← areEqual left right)
  | .within => contains right left
  | .outside => return !(← contains right left)
  | .less => return (← order left right).any (· == .lt)
  | .atMost => return (← order left right).any (· != .gt)
  | .greater => return (← order left right).any (· == .gt)
  | .atLeast => return (← order left right).any (· != .lt)

def requireTruth (place : String) : Value → Answer Bool
  | .bool value => .ok value
  | value => .error (.eval (.notBoolean place value.typeName))

def follow (field : String) (value : Value) : List String → Answer Value
  | [] => .ok value
  | name :: path =>
      match value.attribute? name with
      | some inner => follow field inner path
      | none => .error (.eval (.unknownAttribute field name))

/-- A failure inside a function is a failure of the call, unless the function
itself reports it as one of the evaluation. -/
def ofCall (name : String) : Answer Value → Answer Value
  | .ok value => .ok value
  | .error (.fault (.eval fault)) => .error (.eval fault)
  | .error _ => .error (.eval (.functionFailed name))

namespace Node

mutual
def evaluate (environment : Environment) : Node → Answer Value
  | .literal value => .ok value.value
  | .field reference =>
      match environment.value? reference.name with
      | some value => follow reference.name value reference.path
      | none => .error (.eval (.unboundField reference.name))
  | .call name arguments =>
      match environment.function? name with
      | some function => do
          ofCall name (function (← evaluateEach environment arguments))
      | none => .error (.eval (.unknownFunction name))
  | .all operands => return .bool (← evaluateAll environment operands)
  | .any operands => return .bool (← evaluateAny environment operands)
  | .not operand => do
      let truth ← requireTruth "'not'" (← evaluate environment operand)
      return .bool !truth
  | .compare comparison left right => do
      let left ← evaluate environment left
      let right ← evaluate environment right
      return .bool (← holdsFor comparison left right)
  | .sequence items => return .tuple (← evaluateEach environment items)

def evaluateEach (environment : Environment) : List Node → Answer (List Value)
  | [] => return []
  | node :: nodes => do
      let value ← evaluate environment node
      return value :: (← evaluateEach environment nodes)

/-- The conjunction of the operands; the first false one ends it. -/
def evaluateAll (environment : Environment) : List Node → Answer Bool
  | [] => return true
  | node :: nodes => do
      if ← requireTruth "'and'" (← evaluate environment node) then
        evaluateAll environment nodes
      else return false

/-- The disjunction of the operands; the first true one ends it. -/
def evaluateAny (environment : Environment) : List Node → Answer Bool
  | [] => return false
  | node :: nodes => do
      if ← requireTruth "'or'" (← evaluate environment node) then return true
      else evaluateAny environment nodes
end

end Node

def evaluate (matcher : Matcher) (environment : Environment) : Answer Bool := do
  match ← matcher.root.evaluate environment with
  | .bool value => return value
  | other => throw (.eval (.undecided matcher.text other.typeName))

end AccessControl.Matcher
