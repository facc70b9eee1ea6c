import AccessControl.Matcher.Lowering

namespace AccessControl.Matcher

/-! What the reading of a text can yield: phrases that have the shapes of their
forms. So operands stand apart from what separates them, and operators have an
operand on either side. -/

/-- The phrases that a pattern can take from some tokens. Looking ahead takes
none. -/
inductive Yields : Peg → List Phrase → Prop
  | empty : Yields .empty []
  | token {accepted : TokenClass} {token : Token}
      (accepts : accepted.accepts token.lexeme = true) :
      Yields (.token accepted) [.leaf token]
  | form {form : Form} {parts : List Phrase} (yields : Yields form.pattern parts) :
      Yields (.form form) [Phrase.ofParts form parts]
  | both {first second : Peg} {front back : List Phrase}
      (one : Yields first front) (other : Yields second back) :
      Yields (.both first second) (front ++ back)
  | first {first second : Peg} {parts : List Phrase} (yields : Yields first parts) :
      Yields (.either first second) parts
  | second {first second : Peg} {parts : List Phrase} (yields : Yields second parts) :
      Yields (.either first second) parts
  | none {item : Peg} : Yields (.many item) []
  | more {item : Peg} {front back : List Phrase}
      (one : Yields item front) (others : Yields (.many item) back) :
      Yields (.many item) (front ++ back)
  | ahead {item : Peg} : Yields (.ahead item) []
  | notAhead {item : Peg} : Yields (.notAhead item) []

theorem yields_of_take? {fuel : Nat} {peg : Peg} {tokens rest : List Token}
    {parts : List Phrase} (taken : peg.take? fuel tokens = some (parts, rest)) :
    Yields peg parts := by
  induction fuel generalizing peg tokens rest parts with
  | zero => cases taken
  | succ fuel ih =>
      cases peg with
      | empty =>
          cases taken
          exact .empty
      | token accepted =>
          cases tokens with
          | nil => cases taken
          | cons next others =>
              simp only [Peg.take?, Option.ite_none_right_eq_some, Option.some.injEq,
                Prod.mk.injEq] at taken
              obtain ⟨accepts, rfl, -⟩ := taken
              exact .token accepts
      | form form =>
          simp only [Peg.take?, Option.map_eq_some_iff, Prod.mk.injEq] at taken
          obtain ⟨⟨inner, left⟩, found, rfl, -⟩ := taken
          exact .form (ih found)
      | both first second =>
          rw [Peg.take?] at taken
          split at taken
          · next found =>
              simp only [Option.map_eq_some_iff, Prod.mk.injEq] at taken
              obtain ⟨⟨back, left⟩, later, rfl, -⟩ := taken
              exact .both (ih found) (ih later)
          · cases taken
      | either first second =>
          rw [Peg.take?] at taken
          split at taken
          · next found =>
              cases taken
              exact .first (ih found)
          · exact .second (ih taken)
      | many item =>
          rw [Peg.take?] at taken
          split at taken
          · next found =>
              simp only [Option.map_eq_some_iff, Prod.mk.injEq] at taken
              obtain ⟨⟨back, left⟩, later, rfl, -⟩ := taken
              exact .more (ih found) (ih later)
          · cases taken
            exact .none
      | ahead item =>
          simp only [Peg.take?, Option.map_eq_some_iff, Prod.mk.injEq] at taken
          obtain ⟨_, -, rfl, -⟩ := taken
          exact .ahead
      | notAhead item =>
          rw [Peg.take?] at taken
          split at taken
          · cases taken
          · cases taken
            exact .notAhead

/-- Every form in the phrase was read by its pattern. A single part stands for
itself, unless its form must not be lost. -/
inductive Phrase.Grammatical : Phrase → Prop
  | leaf (token : Token) : Grammatical (.leaf token)
  | node {form : Form} {parts : List Phrase} (yields : Yields form.pattern parts)
      (compound : form = .yielding ∨ ∀ only, parts ≠ [only])
      (inner : ∀ part ∈ parts, Grammatical part) : Grammatical (.node form parts)

theorem Phrase.grammatical_ofParts {form : Form} {parts : List Phrase}
    (yields : Yields form.pattern parts) (inner : ∀ part ∈ parts, part.Grammatical) :
    (ofParts form parts).Grammatical := by
  unfold ofParts
  split
  · exact .node yields (.inl rfl) inner
  · exact inner _ List.mem_cons_self
  · next notYielding several => exact .node yields (.inr several) inner

theorem Yields.grammatical {peg : Peg} {parts : List Phrase} (yields : Yields peg parts) :
    ∀ part ∈ parts, part.Grammatical := by
  induction yields with
  | token =>
      intro part member
      rw [List.mem_singleton.mp member]
      exact .leaf _
  | form yields ih =>
      intro part member
      rw [List.mem_singleton.mp member]
      exact Phrase.grammatical_ofParts yields ih
  | both _ _ first second => exact fun part member =>
      (List.mem_append.mp member).elim (first part) (second part)
  | more _ _ item others => exact fun part member =>
      (List.mem_append.mp member).elim (item part) (others part)
  | first _ ih | second _ ih => exact ih
  | empty | none | ahead | notAhead => exact fun part member => by cases member

theorem grammatical_of_phrase? {text : String} {phrase : Phrase}
    (read : phrase? text = some phrase) : phrase.Grammatical := by
  obtain ⟨tokens, -, read⟩ := Option.bind_eq_some_iff.mp read
  unfold Form.phrase? at read
  split at read
  · next only taken =>
      cases read
      exact (yields_of_take? taken).grammatical _ List.mem_cons_self
  · cases read

namespace Peg

/-- Whether the pattern may take nothing. -/
def nullable : Peg → Bool
  | .empty | .many _ | .ahead _ | .notAhead _ => true
  | .token _ | .form _ => false
  | .both first second => nullable first && nullable second
  | .either first second => nullable first || nullable second

end Peg

def TokenClass.separates : TokenClass → Bool
  | .mark expected => ["(", ")", "[", "]", ","].contains expected
  | .word expected => expected == "and" || expected == "or"
  | _ => false

namespace Peg

/-- Whether the pattern may take a separator and nothing else, where forms are
taken to be no separators. -/
def separates : Peg → Bool
  | .token accepted => accepted.separates
  | .both first second =>
      (separates first && nullable second) || (nullable first && separates second)
  | .either first second => separates first || separates second
  | .many item => separates item
  | .empty | .form _ | .ahead _ | .notAhead _ => false

end Peg

theorem Form.separates_pattern (form : Form) : form.pattern.separates = false := by
  cases form <;> decide

theorem Yields.nullable {peg : Peg} {parts : List Phrase} (yields : Yields peg parts)
    (nothing : parts = []) : peg.nullable = true := by
  induction yields with
  | token | form => cases nothing
  | both _ _ first second =>
      obtain ⟨front, back⟩ := List.append_eq_nil_iff.mp nothing
      rw [Peg.nullable, first front, second back, Bool.and_self]
  | first _ ih => rw [Peg.nullable, ih nothing, Bool.true_or]
  | second _ ih => rw [Peg.nullable, ih nothing, Bool.or_true]
  | empty | none | more | ahead | notAhead => rfl

theorem TokenClass.separates_of_accepts {accepted : TokenClass} {token : Token}
    (accepts : accepted.accepts token.lexeme = true)
    (separates : (Phrase.leaf token).separates = true) : accepted.separates = true := by
  obtain ⟨lexeme, column⟩ := token
  cases lexeme with
  | mark found =>
      cases accepted with
      | mark expected =>
          rw [TokenClass.accepts, beq_iff_eq] at accepts
          rw [accepts]
          exact separates
      | _ => cases accepts
  | word found =>
      cases accepted with
      | word expected =>
          rw [TokenClass.accepts, beq_iff_eq] at accepts
          rw [accepts]
          exact separates
      | name =>
          rw [Phrase.separates, Bool.or_eq_true, beq_iff_eq, beq_iff_eq] at separates
          rcases separates with rfl | rfl <;> cases accepts
      | _ => cases accepts
  | _ => cases separates

theorem Yields.separates {peg : Peg} {parts : List Phrase} (yields : Yields peg parts)
    {only : Phrase} (single : parts = [only]) (separates : only.separates = true) :
    peg.separates = true := by
  induction yields generalizing only with
  | empty | none | ahead | notAhead => cases single
  | token accepts =>
      cases single
      exact TokenClass.separates_of_accepts accepts separates
  | @form form inner yields ih =>
      cases single
      -- A phrase that keeps its form is no separator; one that loses it is its only part.
      unfold Phrase.ofParts at separates
      split at separates
      · cases separates
      · next lone =>
          rw [form.separates_pattern] at ih
          cases ih rfl separates
      · cases separates
  | @both first second front back yieldsFirst yieldsSecond ihFirst ihSecond =>
      rw [Peg.separates]
      rcases List.append_eq_singleton_iff.mp single with ⟨nothing, lone⟩ | ⟨lone, nothing⟩
      · rw [yieldsFirst.nullable nothing, ihSecond lone separates, Bool.and_self, Bool.or_true]
      · rw [yieldsSecond.nullable nothing, ihFirst lone separates, Bool.and_self, Bool.true_or]
  | first _ ih => rw [Peg.separates, ih single separates, Bool.true_or]
  | second _ ih => rw [Peg.separates, ih single separates, Bool.or_true]
  | @more item front back yieldsItem _ ihItem ihOthers =>
      rcases List.append_eq_singleton_iff.mp single with ⟨-, lone⟩ | ⟨lone, -⟩
      · exact ihOthers lone separates
      · exact ihItem lone separates

theorem Yields.separates_form {form : Form} {part : Phrase}
    (yields : Yields (.form form) [part]) : part.separates = false := by
  rw [← Bool.not_eq_true]
  intro separates
  cases yields.separates rfl separates

namespace Peg

/-- Whether the pattern takes exactly one phrase. -/
def lone : Peg → Bool
  | .token _ | .form _ => true
  | .either first second => lone first && lone second
  | _ => false

end Peg

theorem Yields.of_lone {peg : Peg} {parts : List Phrase} (yields : Yields peg parts)
    (isLone : peg.lone = true) : ∃ only, parts = [only] := by
  induction yields with
  | token | form => exact ⟨_, rfl⟩
  | first _ ih =>
      rw [Peg.lone, Bool.and_eq_true] at isLone
      exact ih isLone.1
  | second _ ih =>
      rw [Peg.lone, Bool.and_eq_true] at isLone
      exact ih isLone.2
  | _ => cases isLone

theorem Yields.infixed {operand : Form} {operators : List Peg} {parts : List Phrase}
    (yields : Yields (.infixed operand operators) parts)
    (isLone : (Peg.oneOf operators).lone = true) (several : ∀ only, parts ≠ [only]) :
    ∃ left operator right others, parts = left :: operator :: right :: others ∧
      left.separates = false ∧ right.separates = false := by
  cases yields with
  | both first second =>
      cases first with
      | @form _ inner yieldsLeft =>
          cases second with
          | none => exact absurd rfl (several _)
          | @more _ front back item others =>
              cases item with
              | both yieldsOperator yieldsRight =>
                  obtain ⟨operator, rfl⟩ := yieldsOperator.of_lone isLone
                  obtain ⟨right, rfl⟩ := yieldsRight.of_lone rfl
                  exact ⟨_, operator, right, back, rfl, (Yields.form yieldsLeft).separates_form,
                    yieldsRight.separates_form⟩

theorem Phrase.Grammatical.two_operands {form : Form} {parts : List Phrase}
    (grammatical : (Phrase.node form parts).Grammatical)
    (isForm : form = .disjunction ∨ form = .conjunction) :
    2 ≤ (parts.filter fun part => !part.separates).length := by
  cases grammatical with
  | node yields compound inner =>
      have shaped : ∃ left operator right others, parts = left :: operator :: right :: others ∧
          left.separates = false ∧ right.separates = false := by
        rcases isForm with rfl | rfl
        · exact yields.infixed rfl (compound.resolve_left (by decide))
        · exact yields.infixed rfl (compound.resolve_left (by decide))
      obtain ⟨left, operator, right, others, rfl, first, second⟩ := shaped
      simp only [List.filter_cons, first, second]
      cases operator.separates <;> simp

theorem Phrase.Grammatical.links {left : Phrase} {links : List Phrase}
    (grammatical : (Phrase.node .comparison (left :: links)).Grammatical) :
    ∃ operator right others, links = operator :: right :: others := by
  cases grammatical with
  | node yields compound inner =>
      obtain ⟨_, operator, right, others, whole, -⟩ :=
        yields.infixed rfl (compound.resolve_left (by decide))
      cases whole
      exact ⟨operator, right, others, rfl⟩

theorem Phrase.Grammatical.inner {form : Form} {parts : List Phrase}
    (grammatical : (Phrase.node form parts).Grammatical) :
    ∀ part ∈ parts, part.Grammatical := by
  cases grammatical with
  | node yields compound inner => exact inner

end AccessControl.Matcher
