import AccessControl.Matcher.Evaluation

namespace AccessControl.Matcher

/-! The calls that an evaluation makes, in order, up to the place where it
fails. -/

structure Invocation where
  function : String
  arguments : List Value
deriving Repr

namespace Node

private def decides (environment : Environment) (node : Node) (value : Bool) :
    Bool :=
  match node.evaluate environment with
  | .ok (.bool found) => found == value
  | _ => false

private def succeeds (environment : Environment) (node : Node) : Bool :=
  match node.evaluate environment with
  | .ok _ => true
  | .error _ => false

mutual
def invocations (environment : Environment) : Node → List Invocation
  | .literal _ => []
  | .field _ => []
  | .call name arguments =>
      match environment.function? name with
      | none => []
      | some _ =>
          invocationsOfEach environment arguments ++
            match evaluateEach environment arguments with
            | .ok values => [⟨name, values⟩]
            | .error _ => []
  | .all operands => invocationsWhile environment true operands
  | .any operands => invocationsWhile environment false operands
  | .not operand => invocations environment operand
  | .compare _ left right =>
      invocations environment left ++
        if succeeds environment left then invocations environment right else []
  | .sequence items => invocationsOfEach environment items

def invocationsOfEach (environment : Environment) : List Node → List Invocation
  | [] => []
  | node :: nodes =>
      invocations environment node ++
        if succeeds environment node then invocationsOfEach environment nodes
        else []

/-- The calls of operands that are evaluated as long as they have the value. -/
def invocationsWhile (environment : Environment) (value : Bool) :
    List Node → List Invocation
  | [] => []
  | node :: nodes =>
      invocations environment node ++
        if decides environment node value then
          invocationsWhile environment value nodes
        else []
end

end Node

end AccessControl.Matcher
