import AccessControl.Proofs.Matcher.Operators

namespace AccessControl.Matcher

structure Environment.Agrees (left right : Environment) (fields functions : List String) :
    Prop where
  values : ∀ name ∈ fields, left.value? name = right.value? name
  functions : ∀ name ∈ functions, left.function? name = right.function? name

/-- The environment has a value or a function for every name. -/
structure Environment.Binds (environment : Environment) (fields functions : List String) :
    Prop where
  values : ∀ name ∈ fields, ∃ value, environment.value? name = some value
  functions : ∀ name ∈ functions, ∃ function, environment.function? name = some function

section

variable {left right : Environment} {fields moreFields functions moreFunctions : List String}

theorem Environment.Agrees.mono (agrees : left.Agrees right fields functions)
    (subset : moreFields ⊆ fields) (subsetFunctions : moreFunctions ⊆ functions) :
    left.Agrees right moreFields moreFunctions :=
  ⟨fun name member => agrees.values name (subset member),
    fun name member => agrees.functions name (subsetFunctions member)⟩

theorem Environment.Binds.mono (binds : left.Binds fields functions)
    (subset : moreFields ⊆ fields) (subsetFunctions : moreFunctions ⊆ functions) :
    left.Binds moreFields moreFunctions :=
  ⟨fun name member => binds.values name (subset member),
    fun name member => binds.functions name (subsetFunctions member)⟩

theorem Environment.Agrees.append :
    left.Agrees right (fields ++ moreFields) (functions ++ moreFunctions) ↔
      left.Agrees right fields functions ∧ left.Agrees right moreFields moreFunctions := by
  constructor
  · intro agrees
    exact ⟨agrees.mono (List.subset_append_left _ _) (List.subset_append_left _ _),
      agrees.mono (List.subset_append_right _ _) (List.subset_append_right _ _)⟩
  · rintro ⟨first, second⟩
    exact ⟨List.forall_mem_append.mpr ⟨first.values, second.values⟩,
      List.forall_mem_append.mpr ⟨first.functions, second.functions⟩⟩

theorem Environment.Binds.append :
    left.Binds (fields ++ moreFields) (functions ++ moreFunctions) ↔
      left.Binds fields functions ∧ left.Binds moreFields moreFunctions := by
  constructor
  · intro binds
    exact ⟨binds.mono (List.subset_append_left _ _) (List.subset_append_left _ _),
      binds.mono (List.subset_append_right _ _) (List.subset_append_right _ _)⟩
  · rintro ⟨first, second⟩
    exact ⟨List.forall_mem_append.mpr ⟨first.values, second.values⟩,
      List.forall_mem_append.mpr ⟨first.functions, second.functions⟩⟩

end

namespace Node

mutual
theorem evaluate_congr {left right : Environment} : ∀ node : Node,
    left.Agrees right node.fieldNames node.functionNames →
      node.evaluate left = node.evaluate right
  | .literal _, _ => by rw [evaluate, evaluate]
  | .field reference, agrees => by
      rw [evaluate, evaluate, agrees.values reference.name (List.mem_singleton.mpr rfl)]
  | .call name arguments, agrees => by
      have each := evaluateEach_congr arguments
        (agrees.mono (List.Subset.refl _) (List.subset_cons_self _ _))
      rw [evaluate, evaluate, agrees.functions name List.mem_cons_self, each]
  | .all operands, agrees => by
      rw [evaluate, evaluate, evaluateAll_congr operands agrees]
  | .any operands, agrees => by
      rw [evaluate, evaluate, evaluateAny_congr operands agrees]
  | .not operand, agrees => by
      rw [evaluate, evaluate, evaluate_congr operand agrees]
  | .compare _ first second, agrees => by
      obtain ⟨agreesFirst, agreesSecond⟩ := Environment.Agrees.append.mp agrees
      rw [evaluate, evaluate, evaluate_congr first agreesFirst,
        evaluate_congr second agreesSecond]
  | .sequence items, agrees => by
      rw [evaluate, evaluate, evaluateEach_congr items agrees]

theorem evaluateEach_congr {left right : Environment} : ∀ nodes : List Node,
    left.Agrees right (fieldNamesOf nodes) (functionNamesOf nodes) →
      evaluateEach left nodes = evaluateEach right nodes
  | [], _ => by rw [evaluateEach, evaluateEach]
  | node :: nodes, agrees => by
      obtain ⟨agreesFirst, agreesRest⟩ := Environment.Agrees.append.mp agrees
      rw [evaluateEach, evaluateEach, evaluate_congr node agreesFirst,
        evaluateEach_congr nodes agreesRest]

theorem evaluateAll_congr {left right : Environment} : ∀ nodes : List Node,
    left.Agrees right (fieldNamesOf nodes) (functionNamesOf nodes) →
      evaluateAll left nodes = evaluateAll right nodes
  | [], _ => by rw [evaluateAll, evaluateAll]
  | node :: nodes, agrees => by
      obtain ⟨agreesFirst, agreesRest⟩ := Environment.Agrees.append.mp agrees
      rw [evaluateAll, evaluateAll, evaluate_congr node agreesFirst,
        evaluateAll_congr nodes agreesRest]

theorem evaluateAny_congr {left right : Environment} : ∀ nodes : List Node,
    left.Agrees right (fieldNamesOf nodes) (functionNamesOf nodes) →
      evaluateAny left nodes = evaluateAny right nodes
  | [], _ => by rw [evaluateAny, evaluateAny]
  | node :: nodes, agrees => by
      obtain ⟨agreesFirst, agreesRest⟩ := Environment.Agrees.append.mp agrees
      rw [evaluateAny, evaluateAny, evaluate_congr node agreesFirst,
        evaluateAny_congr nodes agreesRest]
end

end Node

/-- A failure that tells of a name that is not bound. -/
inductive Unbound : Failure → Prop
  | field (name : String) : Unbound (.eval (.unboundField name))
  | function (name : String) : Unbound (.eval (.unknownFunction name))

/-- One of the functions fails in this way by itself. -/
def Environment.FailsIn (environment : Environment) (functions : List String)
    (failure : Failure) : Prop :=
  ∃ name ∈ functions, ∃ function arguments,
    environment.function? name = some function ∧ function arguments = .error failure

/-- No name that is not bound is met, unless one of the functions tells of it. -/
def Environment.Covers {α : Type} (environment : Environment) (functions : List String)
    (answer : Answer α) : Prop :=
  ∀ failure, answer = .error failure → Unbound failure →
    environment.FailsIn functions failure

section

variable {environment : Environment} {functions moreFunctions : List String} {α β : Type}

theorem Environment.covers_ok (value : α) : environment.Covers functions (.ok value) :=
  nofun

theorem Environment.Covers.mono {answer : Answer α}
    (covers : environment.Covers functions answer) (subset : functions ⊆ moreFunctions) :
    environment.Covers moreFunctions answer := by
  intro failure failed unbound
  obtain ⟨name, member, rest⟩ := covers failure failed unbound
  exact ⟨name, subset member, rest⟩

theorem Environment.Covers.bind {first : Answer α} {next : α → Answer β}
    (covers : environment.Covers functions first)
    (later : ∀ value, environment.Covers functions (next value)) :
    environment.Covers functions (first >>= next) := by
  cases first with
  | error failure =>
      intro other failed unbound
      cases failed
      exact covers failure rfl unbound
  | ok value => exact later value

theorem Environment.covers_error {failure : Failure} (bound : ¬Unbound failure) :
    environment.Covers functions (.error failure : Answer α) := by
  intro other failed unbound
  cases failed
  exact absurd unbound bound

theorem Refusal.not_unbound {failure : Failure} (refusal : Refusal failure) :
    ¬Unbound failure := by
  intro unbound
  cases unbound <;> cases refusal

theorem Environment.covers_of_refusal {answer : Answer α}
    (refusal : ∀ {failure}, answer = .error failure → Refusal failure) :
    environment.Covers functions answer :=
  fun _ failed unbound => absurd unbound (refusal failed).not_unbound

theorem covers_holdsFor (comparison : Comparison) (left right : Value) :
    environment.Covers functions (holdsFor comparison left right) := by
  intro failure failed unbound
  rcases cause_of_holdsFor failed with refusal | ⟨rfl, -⟩
  · exact absurd unbound refusal.not_unbound
  · cases unbound

theorem covers_call {name : String} {function : Function}
    (bound : environment.function? name = some function) (member : name ∈ functions)
    (arguments : List Value) :
    environment.Covers functions (ofCall name (function arguments)) := by
  cases called : function arguments with
  | ok value => exact Environment.covers_ok value
  | error failure =>
      intro other failed unbound
      unfold ofCall at failed
      split at failed
      · cases failed
      · next same =>
          cases failed
          cases same
          exact ⟨name, member, function, arguments, bound, called⟩
      · cases failed
        cases unbound

end

namespace Node

mutual
theorem covers_evaluate {environment : Environment} : ∀ node : Node,
    environment.Binds node.fieldNames node.functionNames →
      environment.Covers node.functionNames (node.evaluate environment)
  | .literal value, _ => by
      rw [evaluate]
      exact Environment.covers_ok _
  | .field reference, binds => by
      obtain ⟨value, bound⟩ := binds.values reference.name (List.mem_singleton.mpr rfl)
      rw [evaluate, bound]
      exact Environment.covers_of_refusal refusal_of_follow
  | .call name arguments, binds => by
      obtain ⟨function, bound⟩ := binds.functions name List.mem_cons_self
      have each := covers_evaluateEach arguments
        (binds.mono (List.Subset.refl _) (List.subset_cons_self _ _))
      rw [evaluate, bound]
      exact (each.mono (List.subset_cons_self _ _)).bind
        (covers_call bound List.mem_cons_self)
  | .all operands, binds => by
      rw [evaluate]
      exact (covers_evaluateAll operands binds).bind fun _ => Environment.covers_ok _
  | .any operands, binds => by
      rw [evaluate]
      exact (covers_evaluateAny operands binds).bind fun _ => Environment.covers_ok _
  | .not operand, binds => by
      rw [evaluate]
      exact (covers_evaluate operand binds).bind fun value =>
        (Environment.covers_of_refusal refusal_of_requireTruth).bind fun _ =>
          Environment.covers_ok _
  | .compare comparison first second, binds => by
      obtain ⟨bindsFirst, bindsSecond⟩ := Environment.Binds.append.mp binds
      rw [evaluate]
      exact ((covers_evaluate first bindsFirst).mono (List.subset_append_left _ _)).bind
        fun left => ((covers_evaluate second bindsSecond).mono
          (List.subset_append_right _ _)).bind fun right =>
            (covers_holdsFor comparison left right).bind fun _ => Environment.covers_ok _
  | .sequence items, binds => by
      rw [evaluate]
      exact (covers_evaluateEach items binds).bind fun _ => Environment.covers_ok _

theorem covers_evaluateEach {environment : Environment} : ∀ nodes : List Node,
    environment.Binds (fieldNamesOf nodes) (functionNamesOf nodes) →
      environment.Covers (functionNamesOf nodes) (evaluateEach environment nodes)
  | [], _ => by
      rw [evaluateEach]
      exact Environment.covers_ok _
  | node :: nodes, binds => by
      obtain ⟨bindsFirst, bindsRest⟩ := Environment.Binds.append.mp binds
      rw [evaluateEach]
      exact ((covers_evaluate node bindsFirst).mono (List.subset_append_left _ _)).bind
        fun _ => ((covers_evaluateEach nodes bindsRest).mono
          (List.subset_append_right _ _)).bind fun _ => Environment.covers_ok _

theorem covers_evaluateAll {environment : Environment} : ∀ nodes : List Node,
    environment.Binds (fieldNamesOf nodes) (functionNamesOf nodes) →
      environment.Covers (functionNamesOf nodes) (evaluateAll environment nodes)
  | [], _ => by
      rw [evaluateAll]
      exact Environment.covers_ok _
  | node :: nodes, binds => by
      obtain ⟨bindsFirst, bindsRest⟩ := Environment.Binds.append.mp binds
      rw [evaluateAll]
      refine ((covers_evaluate node bindsFirst).mono (List.subset_append_left _ _)).bind
        fun value => (Environment.covers_of_refusal refusal_of_requireTruth).bind
          fun truth => ?_
      cases truth with
      | true =>
          exact (covers_evaluateAll nodes bindsRest).mono (List.subset_append_right _ _)
      | false => exact Environment.covers_ok _

theorem covers_evaluateAny {environment : Environment} : ∀ nodes : List Node,
    environment.Binds (fieldNamesOf nodes) (functionNamesOf nodes) →
      environment.Covers (functionNamesOf nodes) (evaluateAny environment nodes)
  | [], _ => by
      rw [evaluateAny]
      exact Environment.covers_ok _
  | node :: nodes, binds => by
      obtain ⟨bindsFirst, bindsRest⟩ := Environment.Binds.append.mp binds
      rw [evaluateAny]
      refine ((covers_evaluate node bindsFirst).mono (List.subset_append_left _ _)).bind
        fun value => (Environment.covers_of_refusal refusal_of_requireTruth).bind
          fun truth => ?_
      cases truth with
      | true => exact Environment.covers_ok _
      | false =>
          exact (covers_evaluateAny nodes bindsRest).mono (List.subset_append_right _ _)
end

end Node

end AccessControl.Matcher
