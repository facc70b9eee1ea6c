import AccessControl.Proofs.Matcher.Grammar
import AccessControl.Proofs.Answer
import AccessControl.Matcher.Evaluation
import Mathlib.Tactic.Tauto

namespace AccessControl.Matcher

theorem mem_insertName {name other : String} {names : List String} :
    other ∈ insertName name names ↔ other = name ∨ other ∈ names := by
  induction names with
  | nil => simp [insertName]
  | cons first names ih =>
      rw [insertName]
      split
      · simp
      · split
        · next same => simp [same]
        · rw [List.mem_cons, ih, List.mem_cons]
          exact or_left_comm

theorem mem_sortedNames {names : List String} {name : String} :
    name ∈ sortedNames names ↔ name ∈ names := by
  induction names with
  | nil => exact Iff.rfl
  | cons first names ih =>
      rw [sortedNames, List.foldr_cons, mem_insertName, List.mem_cons]
      exact or_congr_right ih

def Comparison.symbols : List String :=
  ["==", "!=", "<", "<=", ">", ">=", "in", "not in"]

namespace Node

mutual
/-- Fields are fields of a request or of a policy, and there are several operands
where they are joined. Operators and literals are those of evaluation. -/
def WellFormed : Node → Prop
  | .literal value => kind value.value ≠ .other
  | .field reference => isShapeToken reference.shape = true
  | .call _ arguments => WellFormedEach arguments
  | .all operands => 2 ≤ operands.length ∧ WellFormedEach operands
  | .any operands => 2 ≤ operands.length ∧ WellFormedEach operands
  | .not operand => WellFormed operand
  | .compare comparison left right =>
      comparison.symbol ∈ Comparison.symbols ∧ WellFormed left ∧ WellFormed right
  | .sequence items => WellFormedEach items

def WellFormedEach : List Node → Prop
  | [] => True
  | node :: nodes => WellFormed node ∧ WellFormedEach nodes
end

end Node

theorem Literal.kind_ne_other (literal : Literal) : kind literal.value ≠ .other := by
  cases literal <;> exact nofun

theorem Comparison.symbol_mem (comparison : Comparison) :
    comparison.symbol ∈ symbols := by
  cases comparison <;> decide

structure References.Notes (met after : References) (fields functions : List String) :
    Prop where
  fields : ∀ name, name ∈ after.fields ↔ name ∈ met.fields ∨ name ∈ fields
  functions : ∀ name, name ∈ after.functions ↔ name ∈ met.functions ∨ name ∈ functions

theorem References.Notes.nothing (met : References) : met.Notes met [] [] :=
  ⟨by simp, by simp⟩

theorem References.notes_withField (met : References) (name : String) :
    met.Notes (met.withField name) [name] [] :=
  ⟨fun _ => by simp [withField, mem_insertName, or_comm], by simp [withField]⟩

theorem References.notes_withFunction (met : References) (name : String) :
    met.Notes (met.withFunction name) [] [name] :=
  ⟨by simp [withFunction], fun _ => by simp [withFunction, mem_insertName, or_comm]⟩

theorem References.Notes.trans {met between after : References}
    {fields moreFields functions moreFunctions : List String}
    (before : met.Notes between fields functions)
    (later : between.Notes after moreFields moreFunctions) :
    met.Notes after (fields ++ moreFields) (functions ++ moreFunctions) := by
  constructor
  · intro name
    rw [later.fields, before.fields, List.mem_append, or_assoc]
  · intro name
    rw [later.functions, before.functions, List.mem_append, or_assoc]

structure References.Knows (met : References) (fields functions : List String) : Prop where
  fields : fields ⊆ met.fields
  functions : functions ⊆ met.functions

theorem References.Notes.knows {met after : References} {fields functions : List String}
    (notes : met.Notes after fields functions) : after.Knows fields functions :=
  ⟨fun name member => (notes.fields name).mpr (.inr member),
    fun name member => (notes.functions name).mpr (.inr member)⟩

theorem References.Notes.again {met after : References}
    {fields moreFields functions moreFunctions : List String}
    (notes : met.Notes after fields functions)
    (known : met.Knows moreFields moreFunctions) :
    met.Notes after (moreFields ++ fields) (moreFunctions ++ functions) := by
  constructor
  · intro name
    have := @known.fields name
    rw [notes.fields, List.mem_append]
    tauto
  · intro name
    have := @known.functions name
    rw [notes.functions, List.mem_append]
    tauto

theorem References.Notes.repeated {met between after : References}
    {fields moreFields functions moreFunctions : List String}
    (before : met.Notes between fields functions)
    (later : between.Notes after (fields ++ moreFields) (functions ++ moreFunctions)) :
    met.Notes after (fields ++ moreFields) (functions ++ moreFunctions) := by
  constructor
  · intro name
    rw [later.fields, before.fields, List.mem_append]
    tauto
  · intro name
    rw [later.functions, before.functions, List.mem_append]
    tauto

namespace Lowered

theorem run_bind_eq_ok {α β : Type} {first : Lowered α} {next : α → Lowered β}
    {met after : References} {result : β} :
    (first >>= next).run met = .ok (result, after) ↔
      ∃ value between, first.run met = .ok (value, between) ∧
        (next value).run between = .ok (result, after) := by
  rw [StateT.run_bind]
  constructor
  · intro done
    obtain ⟨⟨value, between⟩, one, other⟩ := Answer.bind_eq_ok.mp done
    exact ⟨value, between, one, other⟩
  · rintro ⟨value, between, one, other⟩
    exact Answer.bind_eq_ok.mpr ⟨(value, between), one, other⟩

theorem run_pure_eq_ok {α : Type} {value result : α} {met after : References} :
    (pure value : Lowered α).run met = .ok (result, after) ↔
      value = result ∧ met = after := by
  rw [StateT.run_pure]
  constructor
  · intro done
    cases done
    exact ⟨rfl, rfl⟩
  · rintro ⟨rfl, rfl⟩
    rfl

/-- The step yields a well-formed tree and notes its names. -/
def Gathers (step : Lowered Node) : Prop :=
  ∀ ⦃met node after⦄, step.run met = .ok (node, after) →
    node.WellFormed ∧ met.Notes after node.fieldNames node.functionNames

def GathersEach (count : Nat) (step : Lowered (List Node)) : Prop :=
  ∀ ⦃met nodes after⦄, step.run met = .ok (nodes, after) →
    nodes.length = count ∧ Node.WellFormedEach nodes ∧
      met.Notes after (Node.fieldNamesOf nodes) (Node.functionNamesOf nodes)

theorem gathers_literal (literal : Literal) : Gathers (pure (.literal literal)) := by
  intro met node after done
  obtain ⟨rfl, rfl⟩ := run_pure_eq_ok.mp done
  exact ⟨literal.kind_ne_other, .nothing met⟩

theorem gathers_throw (flaw : Flaw) : Gathers (throw flaw) :=
  nofun

theorem GathersEach.map {count : Nat} {step : Lowered (List Node)}
    (gathers : GathersEach count step) {build : List Node → Node}
    (fields : ∀ nodes, (build nodes).fieldNames = Node.fieldNamesOf nodes)
    (functions : ∀ nodes, (build nodes).functionNames = Node.functionNamesOf nodes)
    (wellFormed : ∀ nodes, nodes.length = count → Node.WellFormedEach nodes →
      (build nodes).WellFormed) :
    Gathers (do return build (← step)) := by
  intro met node after done
  obtain ⟨nodes, between, one, built⟩ := run_bind_eq_ok.mp done
  obtain ⟨rfl, rfl⟩ := run_pure_eq_ok.mp built
  obtain ⟨length, each, notes⟩ := gathers one
  rw [fields, functions]
  exact ⟨wellFormed nodes length each, notes⟩

end Lowered

open Lowered

theorem gathers_token (token : Token) : Gathers token.lower := by
  unfold Token.lower
  split
  · exact gathers_literal _
  · exact gathers_literal _
  · exact gathers_throw _
  · exact gathers_literal _
  · exact gathers_throw _
  · exact gathers_throw _
  · exact gathers_throw _
  · exact gathers_literal _
  · exact gathers_literal _
  · exact gathers_throw _
  · split
    · exact gathers_literal _
    · exact gathers_literal _
    · exact gathers_throw _

theorem gathers_strings (phrase : Phrase) (parts : List Phrase) :
    Gathers (lowerStrings phrase parts) := by
  unfold lowerStrings
  split
  · exact gathers_literal _
  · split <;> exact gathers_throw _

theorem gathers_sign (phrase operator operand : Phrase) :
    Gathers (lowerSign phrase operator operand) := by
  unfold lowerSign
  split
  · split
    · exact gathers_literal _
    · exact gathers_literal _
    · exact gathers_throw _
  · exact gathers_throw _

theorem gathers_field (phrase : Phrase) : Gathers (lowerField phrase) := by
  unfold lowerField
  split
  · split
    · next isShape =>
        intro met node after done
        obtain ⟨_, between, noted, built⟩ := run_bind_eq_ok.mp done
        obtain ⟨rfl, rfl⟩ := run_pure_eq_ok.mp built
        cases noted
        exact ⟨isShape, met.notes_withField _⟩
    · exact gathers_throw _
  · exact gathers_throw _

theorem notes_calledName {phrase : Phrase} {arguments : List Phrase} {met after : References}
    {name : String} (called : (calledName phrase arguments).run met = .ok (name, after)) :
    met = after := by
  unfold calledName at called
  split at called
  · split at called
    · split at called
      · cases called
      · split at called
        · cases called
        · exact (run_pure_eq_ok.mp called).2
    · cases called
  · cases called

theorem notes_refuseComprehension {phrase : Phrase} {parts : List Phrase} {name : String}
    {met after : References}
    (passed : (refuseComprehension phrase parts name).run met = .ok ((), after)) :
    met = after := by
  unfold refuseComprehension at passed
  split at passed
  · cases passed
  · exact (run_pure_eq_ok.mp passed).2

theorem Lowered.Gathers.unlessComprehension {step : Lowered Node} (gathers : Gathers step)
    (phrase : Phrase) (parts : List Phrase) (name : String) :
    Gathers (do
      refuseComprehension phrase parts name
      step) := by
  intro met node after done
  obtain ⟨_, between, passed, rest⟩ := run_bind_eq_ok.mp done
  cases notes_refuseComprehension passed
  exact gathers rest

theorem gathers_call {step : Lowered (List Node)} {count : Nat}
    (gathers : GathersEach count step) (phrase call : Phrase) (arguments : List Phrase) :
    Gathers (do
      let name ← calledName phrase arguments
      noteFunction name
      refuseComprehension call arguments "GeneratorExp"
      return .call name (← step)) := by
  intro met node after done
  obtain ⟨name, between, called, done⟩ := run_bind_eq_ok.mp done
  cases notes_calledName called
  obtain ⟨_, noted, noting, done⟩ := run_bind_eq_ok.mp done
  cases noting
  obtain ⟨_, between, passed, done⟩ := run_bind_eq_ok.mp done
  cases notes_refuseComprehension passed
  obtain ⟨nodes, last, one, built⟩ := run_bind_eq_ok.mp done
  obtain ⟨rfl, rfl⟩ := run_pure_eq_ok.mp built
  obtain ⟨-, each, notes⟩ := gathers one
  exact ⟨each, (met.notes_withFunction name).trans notes⟩

/-- The links of a chain hold the names that follow its first operand, whose names are noted
already. -/
def GathersLinks (left : Node) (links : List Phrase) (step : Lowered (List Node)) : Prop :=
  ∀ ⦃met nodes after⦄, step.run met = .ok (nodes, after) → left.WellFormed →
    met.Knows left.fieldNames left.functionNames →
      Node.WellFormedEach nodes ∧
      met.Notes after (Node.fieldNamesOf nodes) (Node.functionNamesOf nodes) ∧
      ((∃ operator right others, links = operator :: right :: others) →
        ∃ comparison right others, nodes = .compare comparison left right :: others)

theorem gathersLinks_cons {left : Node} {phrase operator right : Phrase}
    {links : List Phrase} {comparison : Comparison}
    (gathersRight : Gathers right.lower)
    (gathersLinks : ∀ right, GathersLinks right links (lowerLinks phrase right links)) :
    GathersLinks left (operator :: right :: links) (do
      let right ← right.lower
      return .compare comparison left right :: (← lowerLinks phrase right links)) := by
  intro met nodes after done wellFormed known
  obtain ⟨node, between, one, done⟩ := run_bind_eq_ok.mp done
  obtain ⟨others, last, later, built⟩ := run_bind_eq_ok.mp done
  obtain ⟨rfl, rfl⟩ := run_pure_eq_ok.mp built
  obtain ⟨wellFormedRight, notesRight⟩ := gathersRight one
  obtain ⟨each, notes, -⟩ := gathersLinks node later wellFormedRight notesRight.knows
  have whole := (notesRight.trans notes).again known
  rw [← List.append_assoc, ← List.append_assoc] at whole
  exact ⟨⟨⟨comparison.symbol_mem, wellFormed, wellFormedRight⟩, each⟩, whole,
    fun _ => ⟨comparison, node, others, rfl⟩⟩

theorem Node.wellFormed_chain {nodes : List Node} (nonempty : nodes ≠ [])
    (each : WellFormedEach nodes) : (chain nodes).WellFormed := by
  match nodes, nonempty, each with
  | [only], _, each => exact each.1
  | first :: second :: rest, _, each => exact ⟨by simp, each⟩

theorem Node.fieldNames_chain (nodes : List Node) :
    (chain nodes).fieldNames = fieldNamesOf nodes := by
  match nodes with
  | [] => rfl
  | [only] => exact (List.append_nil _).symm
  | first :: second :: rest => rfl

theorem Node.functionNames_chain (nodes : List Node) :
    (chain nodes).functionNames = functionNamesOf nodes := by
  match nodes with
  | [] => rfl
  | [only] => exact (List.append_nil _).symm
  | first :: second :: rest => rfl

theorem gathers_comparison {phrase left : Phrase} {links : List Phrase}
    (gathersLeft : Gathers left.lower)
    (gathersLinks : ∀ left, GathersLinks left links (lowerLinks phrase left links))
    (linked : ∃ operator right others, links = operator :: right :: others) :
    Gathers (do return Node.chain (← lowerLinks phrase (← left.lower) links)) := by
  intro met node after done
  obtain ⟨first, between, one, done⟩ := run_bind_eq_ok.mp done
  obtain ⟨nodes, last, later, built⟩ := run_bind_eq_ok.mp done
  obtain ⟨rfl, rfl⟩ := run_pure_eq_ok.mp built
  obtain ⟨wellFormed, notesLeft⟩ := gathersLeft one
  obtain ⟨each, notes, head⟩ := gathersLinks first later wellFormed notesLeft.knows
  obtain ⟨comparison, right, others, rfl⟩ := head linked
  refine ⟨Node.wellFormed_chain (List.cons_ne_nil _ _) each, ?_⟩
  rw [Node.fieldNames_chain, Node.functionNames_chain]
  -- The first link repeats the names of its left side.
  simp only [Node.fieldNamesOf, Node.functionNamesOf, Node.fieldNames, Node.functionNames,
    List.append_assoc] at notes ⊢
  exact notesLeft.repeated notes

def operandCount (parts : List Phrase) : Nat :=
  (parts.filter fun part => !part.separates).length

theorem gathersEach_nil : GathersEach 0 (pure []) := by
  intro met nodes after done
  obtain ⟨rfl, rfl⟩ := run_pure_eq_ok.mp done
  exact ⟨rfl, trivial, .nothing met⟩

theorem Lowered.GathersEach.cons {count : Nat} {step : Lowered Node}
    {steps : Lowered (List Node)} (gathers : Gathers step)
    (gathersEach : GathersEach count steps) :
    GathersEach (count + 1) (do return (← step) :: (← steps)) := by
  intro met nodes after done
  obtain ⟨node, between, one, done⟩ := run_bind_eq_ok.mp done
  obtain ⟨others, last, later, built⟩ := run_bind_eq_ok.mp done
  obtain ⟨rfl, rfl⟩ := run_pure_eq_ok.mp built
  obtain ⟨wellFormed, notes⟩ := gathers one
  obtain ⟨length, each, more⟩ := gathersEach later
  exact ⟨congrArg (· + 1) length, ⟨wellFormed, each⟩, notes.trans more⟩

theorem Lowered.GathersEach.sequence {count : Nat} {step : Lowered (List Node)}
    (gathers : GathersEach count step) : Gathers (do return .sequence (← step)) :=
  gathers.map (fun _ => rfl) (fun _ => rfl) fun _ _ each => each

abbrev PhraseGathers (phrase : Phrase) : Prop :=
  phrase.Grammatical → Gathers phrase.lower

abbrev PrimaryGathers (phrase : Phrase) (parts : List Phrase) : Prop :=
  (∀ part ∈ parts, part.Grammatical) → Gathers (lowerPrimary phrase parts)

abbrev ItemsGather (parts : List Phrase) : Prop :=
  (∀ part ∈ parts, part.Grammatical) → GathersEach (operandCount parts) (lowerItems parts)

abbrev ChainGathers (phrase : Phrase) (left : Node) (links : List Phrase) : Prop :=
  (∀ link ∈ links, link.Grammatical) → GathersLinks left links (lowerLinks phrase left links)

theorem gathers_all : (∀ phrase, PhraseGathers phrase) ∧
    (∀ phrase parts, PrimaryGathers phrase parts) ∧ (∀ parts, ItemsGather parts) ∧
    ∀ phrase left links, ChainGathers phrase left links := by
  refine Phrase.lower.mutual_induct PhraseGathers PrimaryGathers ItemsGather ChainGathers
    ?leaf ?paren ?tuple ?bracket ?listing ?disjunction ?conjunction ?negation ?comparison
    ?strings ?sign ?primary ?refused ?call ?attribution ?further ?subscript ?noItem ?separator
    ?operand ?unlinkable ?link ?unlinked
  -- The phrase itself, form by form.
  case leaf =>
    intro token _
    rw [Phrase.lower]
    exact gathers_token token
  case paren =>
    intro opening inner closing ih grammatical
    rw [Phrase.lower]
    exact ih (grammatical.inner inner (by simp))
  case tuple =>
    intro parts several ih grammatical
    rw [Phrase.lower]
    · exact (ih grammatical.inner).sequence.unlessComprehension _ _ _
    · exact several
  case bracket =>
    intro parts ih grammatical
    rw [Phrase.lower]
    exact (ih grammatical.inner).sequence.unlessComprehension _ _ _
  case listing =>
    intro parts ih grammatical
    rw [Phrase.lower]
    exact (ih grammatical.inner).sequence
  case disjunction =>
    intro parts ih grammatical
    rw [Phrase.lower]
    exact (ih grammatical.inner).map (fun _ => rfl) (fun _ => rfl) fun nodes length each =>
      ⟨length ▸ grammatical.two_operands (.inl rfl), each⟩
  case conjunction =>
    intro parts ih grammatical
    rw [Phrase.lower]
    exact (ih grammatical.inner).map (fun _ => rfl) (fun _ => rfl) fun nodes length each =>
      ⟨length ▸ grammatical.two_operands (.inr rfl), each⟩
  case negation =>
    intro mark operand ih grammatical
    rw [Phrase.lower]
    intro met node after done
    obtain ⟨inner, between, one, built⟩ := run_bind_eq_ok.mp done
    obtain ⟨rfl, rfl⟩ := run_pure_eq_ok.mp built
    obtain ⟨wellFormed, notes⟩ := ih (grammatical.inner operand (by simp)) one
    exact ⟨wellFormed, notes⟩
  case comparison =>
    intro left links ihLeft ihLinks grammatical
    rw [Phrase.lower]
    refine gathers_comparison (ihLeft (grammatical.inner left List.mem_cons_self))
      (fun node => ihLinks node fun link member =>
        grammatical.inner link (List.mem_cons_of_mem left member)) grammatical.links
  case strings =>
    intro parts _
    rw [Phrase.lower]
    exact gathers_strings _ parts
  case sign =>
    intro operator operand _
    rw [Phrase.lower]
    exact gathers_sign _ operator operand
  case primary =>
    intro parts ih grammatical
    rw [Phrase.lower]
    exact ih grammatical.inner
  case refused =>
    intros
    intro _
    rw [Phrase.lower]
    · exact gathers_throw _
    all_goals assumption
  -- A primary, by its last suffix.
  case call =>
    intro phrase arguments ih grammatical
    rw [lowerPrimary]
    exact gathers_call (ih (grammatical _ List.mem_cons_self).inner) phrase _ arguments
  case attribution =>
    intro phrase parts _
    rw [lowerPrimary]
    exact gathers_field phrase
  case further =>
    intro phrase first part parts ih grammatical
    rw [lowerPrimary]
    exact ih fun other member => grammatical other (List.mem_cons_of_mem first member)
  case subscript =>
    intros
    intro _
    rw [lowerPrimary]
    · exact gathers_throw _
    all_goals assumption
  -- Items among what separates them.
  case noItem =>
    intro _
    rw [lowerItems]
    exact gathersEach_nil
  case separator =>
    intro part parts separates ih grammatical
    rw [lowerItems, if_pos separates, operandCount,
      List.filter_cons_of_neg (by simpa using separates)]
    exact ih fun other member => grammatical other (List.mem_cons_of_mem part member)
  case operand =>
    intro part parts operand ihPart ih grammatical
    rw [lowerItems, if_neg operand, operandCount, List.filter_cons_of_pos (by simpa using operand)]
    exact (ih fun other member => grammatical other (List.mem_cons_of_mem part member)).cons
      (ihPart (grammatical part List.mem_cons_self))
  -- The links of a chain.
  case unlinkable =>
    intro phrase left operator right links name refused _
    rw [lowerLinks]
    simp only [refused]
    exact nofun
  case link =>
    intro phrase left operator right links comparison allowed ihRight ihLinks grammatical
    rw [lowerLinks]
    simp only [allowed]
    exact gathersLinks_cons
      (ihRight (grammatical right (List.mem_cons_of_mem operator List.mem_cons_self)))
      fun node => ihLinks node fun link member =>
        grammatical link (List.mem_cons_of_mem operator (List.mem_cons_of_mem right member))
  case unlinked =>
    intro links phrase left few _
    rw [lowerLinks]
    · intro met nodes after done _ _
      obtain ⟨rfl, rfl⟩ := run_pure_eq_ok.mp done
      exact ⟨trivial, .nothing met, fun ⟨operator, right, others, whole⟩ =>
        (few operator right others whole).elim⟩
    · exact few

end AccessControl.Matcher
