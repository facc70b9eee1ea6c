import AccessControl.Proofs.Matcher.Operators

namespace AccessControl.Matcher

/-- Whether the evaluation of a list of nodes goes on after a value: always, or after this
truth value alone. -/
def GoesOn : Option Bool → Value → Prop
  | none, _ => True
  | some truth, value => value = .bool truth

namespace Node

mutual
/-- The evaluation of the node comes to such a test. -/
inductive Stumbles (environment : Environment) : Node → Prop
  | membership {comparison : Comparison} {left right : Node} {member collection : Value}
      (test : comparison.IsMembership) (first : left.evaluate environment = .ok member)
      (second : right.evaluate environment = .ok collection)
      (unhashed : Unhashed collection member) :
      Stumbles environment (.compare comparison left right)
  | left {comparison : Comparison} {left right : Node} (inner : Stumbles environment left) :
      Stumbles environment (.compare comparison left right)
  | right {comparison : Comparison} {left right : Node} {value : Value}
      (first : left.evaluate environment = .ok value)
      (inner : Stumbles environment right) :
      Stumbles environment (.compare comparison left right)
  | operand {operand : Node} (inner : Stumbles environment operand) :
      Stumbles environment (.not operand)
  | argument {name : String} {function : Function} {arguments : List Node}
      (known : environment.function? name = some function)
      (inner : StumblesAmong environment none arguments) :
      Stumbles environment (.call name arguments)
  | conjunct {operands : List Node} (inner : StumblesAmong environment (some true) operands) :
      Stumbles environment (.all operands)
  | disjunct {operands : List Node}
      (inner : StumblesAmong environment (some false) operands) :
      Stumbles environment (.any operands)
  | item {items : List Node} (inner : StumblesAmong environment none items) :
      Stumbles environment (.sequence items)

/-- One of the nodes comes to such a test, and the evaluation comes to that node. -/
inductive StumblesAmong (environment : Environment) : Option Bool → List Node → Prop
  | here {on : Option Bool} {node : Node} {nodes : List Node}
      (inner : Stumbles environment node) : StumblesAmong environment on (node :: nodes)
  | later {on : Option Bool} {node : Node} {nodes : List Node} {value : Value}
      (first : node.evaluate environment = .ok value) (goesOn : GoesOn on value)
      (inner : StumblesAmong environment on nodes) :
      StumblesAmong environment on (node :: nodes)
end

variable {environment : Environment}

mutual
theorem Stumbles.evaluate_eq : ∀ {node : Node}, node.Stumbles environment →
    node.evaluate environment = .error (.trap .unhashable)
  | _, .membership test first second unhashed => by
      rw [evaluate, first, second]
      change Bind.bind (holdsFor _ _ _) _ = _
      rw [holdsFor_of_unhashed test unhashed]
      rfl
  | _, .left inner => by
      rw [evaluate, inner.evaluate_eq]
      rfl
  | _, .right first inner => by
      rw [evaluate, first, inner.evaluate_eq]
      rfl
  | _, .operand inner => by
      rw [evaluate, inner.evaluate_eq]
      rfl
  | _, .argument known inner => by
      rw [evaluate, known, inner.evaluateEach_eq]
      rfl
  | _, .conjunct inner => by
      rw [evaluate, inner.evaluateAll_eq]
      rfl
  | _, .disjunct inner => by
      rw [evaluate, inner.evaluateAny_eq]
      rfl
  | _, .item inner => by
      rw [evaluate, inner.evaluateEach_eq]
      rfl

theorem StumblesAmong.evaluateEach_eq : ∀ {nodes : List Node},
    StumblesAmong environment none nodes →
      evaluateEach environment nodes = .error (.trap .unhashable)
  | _, .here inner => by
      rw [evaluateEach, inner.evaluate_eq]
      rfl
  | _, .later first _ inner => by
      rw [evaluateEach, first, inner.evaluateEach_eq]
      rfl

theorem StumblesAmong.evaluateAll_eq : ∀ {nodes : List Node},
    StumblesAmong environment (some true) nodes →
      evaluateAll environment nodes = .error (.trap .unhashable)
  | _, .here inner => by
      rw [evaluateAll, inner.evaluate_eq]
      rfl
  | _, .later first goesOn inner => by
      cases goesOn
      rw [evaluateAll, first]
      exact inner.evaluateAll_eq

theorem StumblesAmong.evaluateAny_eq : ∀ {nodes : List Node},
    StumblesAmong environment (some false) nodes →
      evaluateAny environment nodes = .error (.trap .unhashable)
  | _, .here inner => by
      rw [evaluateAny, inner.evaluate_eq]
      rfl
  | _, .later first goesOn inner => by
      cases goesOn
      rw [evaluateAny, first]
      exact inner.evaluateAny_eq
end

end Node

/-- The answer fails with faults of the evaluation alone, unless something is the case that
ends it without one. -/
def Confined {α : Type} (stumbles : Prop) (answer : Answer α) : Prop :=
  ∀ failure, answer = .error failure →
    (∃ fault, failure = .eval fault) ∨ failure = .trap .unhashable ∧ stumbles

section

variable {α β : Type} {stumbles further : Prop}

theorem confined_ok (value : α) : Confined stumbles (.ok value : Answer α) :=
  nofun

theorem confined_eval (fault : EvalFault) :
    Confined stumbles (.error (.eval fault) : Answer α) := by
  rintro _ ⟨⟩
  exact .inl ⟨fault, rfl⟩

theorem Confined.mono {answer : Answer α} (confined : Confined stumbles answer)
    (implies : stumbles → further) : Confined further answer :=
  fun failure failed => (confined failure failed).imp id (And.imp id implies)

theorem Confined.bind {first : Answer α} {next : α → Answer β}
    (confined : Confined stumbles first)
    (later : ∀ value, first = .ok value → Confined stumbles (next value)) :
    Confined stumbles (first >>= next) := by
  intro failure failed
  rcases Answer.bind_eq_error.mp failed with failed | ⟨value, done, failed⟩
  · exact confined failure failed
  · exact later value done failure failed

theorem Refusal.exists_eval {failure : Failure} (refusal : Refusal failure) :
    ∃ fault, failure = .eval fault := by
  cases refusal <;> exact ⟨_, rfl⟩

theorem confined_of_refusal {answer : Answer α}
    (refusal : ∀ {failure}, answer = .error failure → Refusal failure) :
    Confined stumbles answer :=
  fun _ failed => .inl (refusal failed).exists_eval

theorem confined_holdsFor (comparison : Comparison) (left right : Value) :
    Confined (comparison.IsMembership ∧ Unhashed right left)
      (holdsFor comparison left right) :=
  fun _ failed => (cause_of_holdsFor failed).imp Refusal.exists_eval id

theorem confined_ofCall (name : String) (answer : Answer Value) :
    Confined stumbles (ofCall name answer) := by
  unfold ofCall
  split
  · exact confined_ok _
  · exact confined_eval _
  · exact confined_eval _

theorem eq_of_requireTruth {place : String} {value : Value} {truth : Bool}
    (passed : requireTruth place value = .ok truth) : value = .bool truth := by
  cases value with
  | bool value =>
      cases passed
      rfl
  | _ => cases passed

end

namespace Node

mutual
theorem confined_evaluate {environment : Environment} : ∀ node : Node,
    Confined (node.Stumbles environment) (node.evaluate environment)
  | .literal value => by
      rw [evaluate]
      exact confined_ok _
  | .field reference => by
      rw [evaluate]
      split
      · exact confined_of_refusal refusal_of_follow
      · exact confined_eval _
  | .call name arguments => by
      rw [evaluate]
      split
      · next function known =>
          exact ((confined_evaluateEach arguments).mono (.argument known)).bind
            fun _ _ => confined_ofCall name _
      · exact confined_eval _
  | .all operands => by
      rw [evaluate]
      exact ((confined_evaluateAll operands).mono .conjunct).bind fun _ _ => confined_ok _
  | .any operands => by
      rw [evaluate]
      exact ((confined_evaluateAny operands).mono .disjunct).bind fun _ _ => confined_ok _
  | .not operand => by
      rw [evaluate]
      exact ((confined_evaluate operand).mono .operand).bind fun _ _ =>
        (confined_of_refusal refusal_of_requireTruth).bind fun _ _ => confined_ok _
  | .compare comparison first second => by
      rw [evaluate]
      refine ((confined_evaluate first).mono .left).bind fun left leftDone => ?_
      refine ((confined_evaluate second).mono (.right leftDone)).bind
        fun right rightDone => ?_
      exact ((confined_holdsFor comparison left right).mono fun ⟨test, unhashed⟩ =>
        .membership test leftDone rightDone unhashed).bind fun _ _ => confined_ok _
  | .sequence items => by
      rw [evaluate]
      exact ((confined_evaluateEach items).mono .item).bind fun _ _ => confined_ok _

theorem confined_evaluateEach {environment : Environment} : ∀ nodes : List Node,
    Confined (StumblesAmong environment none nodes) (evaluateEach environment nodes)
  | [] => by
      rw [evaluateEach]
      exact confined_ok _
  | node :: nodes => by
      rw [evaluateEach]
      exact ((confined_evaluate node).mono .here).bind fun _ done =>
        ((confined_evaluateEach nodes).mono (.later done trivial)).bind
          fun _ _ => confined_ok _

theorem confined_evaluateAll {environment : Environment} : ∀ nodes : List Node,
    Confined (StumblesAmong environment (some true) nodes) (evaluateAll environment nodes)
  | [] => by
      rw [evaluateAll]
      exact confined_ok _
  | node :: nodes => by
      rw [evaluateAll]
      refine ((confined_evaluate node).mono .here).bind fun value done =>
        (confined_of_refusal refusal_of_requireTruth).bind fun truth passed => ?_
      cases truth with
      | true => exact (confined_evaluateAll nodes).mono (.later done (eq_of_requireTruth passed))
      | false => exact confined_ok _

theorem confined_evaluateAny {environment : Environment} : ∀ nodes : List Node,
    Confined (StumblesAmong environment (some false) nodes) (evaluateAny environment nodes)
  | [] => by
      rw [evaluateAny]
      exact confined_ok _
  | node :: nodes => by
      rw [evaluateAny]
      refine ((confined_evaluate node).mono .here).bind fun value done =>
        (confined_of_refusal refusal_of_requireTruth).bind fun truth passed => ?_
      cases truth with
      | true => exact confined_ok _
      | false => exact (confined_evaluateAny nodes).mono (.later done (eq_of_requireTruth passed))
end

end Node

theorem evaluate_of_stumbles {matcher : Matcher} {environment : Environment}
    (stumbles : matcher.root.Stumbles environment) :
    matcher.evaluate environment = .error (.trap .unhashable) := by
  rw [evaluate, stumbles.evaluate_eq]
  rfl

theorem confined_evaluate (matcher : Matcher) (environment : Environment) :
    Confined (matcher.root.Stumbles environment) (matcher.evaluate environment) := by
  refine (Node.confined_evaluate matcher.root).bind fun value _ => ?_
  cases value with
  | bool value => exact confined_ok _
  | _ => exact confined_eval _

end AccessControl.Matcher
