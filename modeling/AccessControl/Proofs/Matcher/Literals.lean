import AccessControl.Proofs.Matcher.Adjacency
import AccessControl.Proofs.Matcher.Lowering
import AccessControl.Proofs.Matcher.Margins

namespace AccessControl.Matcher

namespace Node

mutual
/-- The texts that are literals of the tree, from left to right. -/
def texts : Node → List String
  | .literal (.text value) => [value]
  | .literal _ => []
  | .field _ => []
  | .call _ arguments => textsOf arguments
  | .all operands => textsOf operands
  | .any operands => textsOf operands
  | .not operand => texts operand
  | .compare _ left right => texts left ++ texts right
  | .sequence items => textsOf items

def textsOf : List Node → List String
  | [] => []
  | node :: nodes => texts node ++ textsOf nodes
end

theorem texts_chain (nodes : List Node) : (chain nodes).texts = textsOf nodes := by
  match nodes with
  | [] => rfl
  | [only] => exact (List.append_nil _).symm
  | first :: second :: rest => rfl

end Node

namespace Peg

def quiet : Peg → Bool
  | .token accepted => accepted != .text
  | .form shape => shape = .absence || shape = .difference || shape = .attribution
  | .both first second => quiet first && quiet second
  | .either first second => quiet first && quiet second
  | .many item => quiet item
  | .empty | .ahead _ | .notAhead _ => true

end Peg

theorem Form.quiet_pattern {form : Form} (quiet : (Peg.form form).quiet = true) :
    form.pattern.quiet = true ∧ form ≠ .strings := by
  revert quiet
  cases form <;> decide

theorem Yields.quiet {peg : Peg} {phrases : List Phrase} (yields : Yields peg phrases)
    (quiet : peg.quiet = true) : Phrase.textsOf phrases = [] := by
  induction yields with
  | @token accepted token accepts =>
      obtain ⟨lexeme, column⟩ := token
      cases lexeme with
      | text value =>
          rw [TokenClass.eq_text_of_accepts accepts rfl] at quiet
          cases quiet
      | _ => rfl
  | form yields ih =>
      obtain ⟨quiet, noStrings⟩ := Form.quiet_pattern quiet
      rw [Phrase.textsOf, Phrase.texts_ofParts noStrings, ih quiet]
      rfl
  | both _ _ first second =>
      obtain ⟨ofFirst, ofSecond⟩ := Bool.and_eq_true_iff.mp quiet
      rw [Phrase.textsOf_append, first ofFirst, second ofSecond, List.append_nil]
  | more _ _ item others => rw [Phrase.textsOf_append, item quiet, others quiet, List.append_nil]
  | first _ ih => exact ih (Bool.and_eq_true_iff.mp quiet).1
  | second _ ih => exact ih (Bool.and_eq_true_iff.mp quiet).2
  | empty | none | ahead | notAhead => rfl

theorem Phrase.texts_node {form : Form} (noStrings : form ≠ .strings) (parts : List Phrase) :
    (Phrase.node form parts).texts = textsOf parts := by
  rw [texts]
  exact noStrings

theorem Phrase.Grammatical.yields {form : Form} {parts : List Phrase}
    (grammatical : (Phrase.node form parts).Grammatical) : Yields form.pattern parts := by
  cases grammatical with
  | node yields compound inner => exact yields

theorem Phrase.Grammatical.texts_attribution {parts : List Phrase}
    (grammatical : (Phrase.node .attribution parts).Grammatical) :
    (Phrase.node .attribution parts).texts = [] :=
  (texts_node (by decide) parts).trans (grammatical.yields.quiet (by decide))

theorem Phrase.Grammatical.texts_paren {opening inner closing : Phrase}
    (grammatical : (Phrase.node .paren [opening, inner, closing]).Grammatical) :
    (Phrase.node .paren [opening, inner, closing]).texts = inner.texts := by
  have yields := grammatical.yields
  generalize whole : [opening, inner, closing] = parts at yields
  cases yields with
  | both first rest =>
      cases rest with
      | @both _ _ middle _ second last =>
          have quietFirst := first.quiet rfl
          have quietLast := last.quiet rfl
          obtain ⟨begin_, rfl⟩ := first.of_lone rfl
          obtain ⟨end_, rfl⟩ := last.of_lone rfl
          obtain ⟨rfl, same⟩ := List.cons.inj whole
          have ends : [inner] ++ [closing] = middle ++ [end_] := same
          obtain ⟨rfl, same⟩ := List.append_inj' ends rfl
          cases same
          simp only [textsOf, List.append_nil] at quietFirst quietLast
          rw [texts_node (by decide)]
          simp [textsOf, quietFirst, quietLast]

theorem Phrase.Grammatical.texts_negation {mark operand : Phrase}
    (grammatical : (Phrase.node .negation [mark, operand]).Grammatical) :
    (Phrase.node .negation [mark, operand]).texts = operand.texts := by
  have yields := grammatical.yields
  generalize whole : [mark, operand] = parts at yields
  cases yields with
  | first yields =>
      cases yields with
      | both first last =>
          have quiet := first.quiet rfl
          obtain ⟨word, rfl⟩ := first.of_lone rfl
          cases whole
          simp only [textsOf, List.append_nil] at quiet
          rw [texts_node (by decide)]
          simp [textsOf, quiet]
  | second yields =>
      obtain ⟨only, rfl⟩ := yields.of_lone rfl
      cases whole

theorem Phrase.Grammatical.texts_ungrouped {phrase : Phrase} (grammatical : phrase.Grammatical) :
    phrase.ungrouped.texts = phrase.texts := by
  induction phrase using ungrouped.induct with
  | case1 opening inner closing ih =>
      rw [ungrouped, ih (grammatical.inner inner (by simp)), grammatical.texts_paren]
  | case2 phrase single =>
      rw [ungrouped]
      exact single

theorem Phrase.Grammatical.texts_suffix {suffix : Phrase} (grammatical : suffix.Grammatical)
    {name : String} (isAttribute : suffix.attribute? = some name) : suffix.texts = [] := by
  unfold attribute? at isAttribute
  split at isAttribute
  · exact grammatical.texts_attribution
  · cases isAttribute

theorem Phrase.texts_suffixes {suffixes : List Phrase} {names : List String}
    (grammatical : ∀ suffix ∈ suffixes, suffix.Grammatical)
    (areAttributes : suffixes.mapM attribute? = some names) : textsOf suffixes = [] := by
  induction suffixes generalizing names with
  | nil => rfl
  | cons suffix suffixes ih =>
      obtain ⟨first, others⟩ := List.forall_mem_cons.mp grammatical
      rw [List.mapM_cons] at areAttributes
      obtain ⟨name, isAttribute, later⟩ := Option.bind_eq_some_iff.mp areAttributes
      obtain ⟨names, areAttributes, -⟩ := Option.bind_eq_some_iff.mp later
      rw [textsOf, first.texts_suffix isAttribute, ih others areAttributes]
      rfl

theorem Phrase.Grammatical.texts_path {phrase : Phrase} (grammatical : phrase.Grammatical)
    {path : String × List String} (isPath : phrase.path? = some path) : phrase.texts = [] := by
  induction phrase using path?.induct generalizing path with
  | case1 | case2 => rfl
  | case3 opening inner closing ih =>
      rw [path?] at isPath
      rw [grammatical.texts_paren, ih (grammatical.inner inner (by simp)) isPath]
  | case4 base suffixes name front attributes areAttributes isBase ih =>
      have inner := grammatical.inner
      rw [texts_node (by decide), textsOf, ih (inner base List.mem_cons_self) isBase,
        texts_suffixes (fun suffix member => inner suffix (List.mem_cons_of_mem base member))
          areAttributes]
      rfl
  | case5 base suffixes other ih =>
      rw [path?] at isPath
      split at isPath
      · next isBase areAttributes => exact (other _ _ _ isBase areAttributes).elim
      · cases isPath
  | case6 phrase noWord noParen noPrimary =>
      rw [path?] at isPath
      · cases isPath
      · exact noWord
      · exact noParen
      · exact noPrimary

theorem Phrase.Grammatical.texts_name {phrase : Phrase} (grammatical : phrase.Grammatical)
    {name : String} (isName : phrase.name? = some name) : phrase.texts = [] := by
  rw [← grammatical.texts_ungrouped]
  unfold name? at isName
  split at isName
  · next same =>
      rw [same]
      rfl
  · cases isName

theorem Phrase.texts_of_separates {part : Phrase} (separates : part.separates = true) :
    part.texts = [] := by
  unfold Phrase.separates at separates
  split at separates
  · rfl
  · rfl
  · cases separates

theorem Phrase.texts_of_isMark {phrase : Phrase} {mark : String}
    (isMark : phrase.isMark mark = true) : phrase.texts = [] := by
  cases phrase with
  | leaf token =>
      obtain ⟨lexeme, column⟩ := token
      cases lexeme with
      | text value => cases isMark
      | _ => rfl
  | node => cases isMark

namespace Lowered

/-- The tree that the step yields has the texts. -/
def Keeps (texts : List String) (step : Lowered Node) : Prop :=
  ∀ ⦃met node after⦄, step.run met = .ok (node, after) →
    ∀ value, value ∈ node.texts ↔ value ∈ texts

def KeepsEach (texts : List String) (step : Lowered (List Node)) : Prop :=
  ∀ ⦃met nodes after⦄, step.run met = .ok (nodes, after) →
    ∀ value, value ∈ Node.textsOf nodes ↔ value ∈ texts

theorem keeps_throw (texts : List String) (flaw : Flaw) : Keeps texts (throw flaw) :=
  nofun

theorem keeps_pure {texts : List String} {node : Node} (same : node.texts = texts) :
    Keeps texts (pure node) := by
  intro met found after done
  obtain ⟨rfl, rfl⟩ := run_pure_eq_ok.mp done
  exact fun value => by rw [same]

theorem Keeps.map {texts : List String} {step : Lowered Node} (keeps : Keeps texts step)
    {build : Node → Node} (same : ∀ node, (build node).texts = node.texts) :
    Keeps texts (do return build (← step)) := by
  intro met node after done
  obtain ⟨inner, between, one, built⟩ := run_bind_eq_ok.mp done
  obtain ⟨rfl, rfl⟩ := run_pure_eq_ok.mp built
  rw [same]
  exact keeps one

theorem KeepsEach.map {texts : List String} {step : Lowered (List Node)}
    (keeps : KeepsEach texts step) {build : List Node → Node}
    (same : ∀ nodes, (build nodes).texts = Node.textsOf nodes) :
    Keeps texts (do return build (← step)) := by
  intro met node after done
  obtain ⟨nodes, between, one, built⟩ := run_bind_eq_ok.mp done
  obtain ⟨rfl, rfl⟩ := run_pure_eq_ok.mp built
  rw [same]
  exact keeps one

end Lowered

open Lowered

theorem texts_leaf (token : Token) :
    (Phrase.leaf token).texts = match token.lexeme with
      | .text value => [value]
      | _ => [] := by
  obtain ⟨lexeme, column⟩ := token
  cases lexeme <;> rfl

theorem keeps_token (token : Token) : Keeps (Phrase.leaf token).texts token.lower := by
  have ofLiteral : ∀ {lexeme : Lexeme} {literal : Literal}, token.lexeme = lexeme →
      ((Node.literal literal).texts = match lexeme with
        | .text value => [value]
        | _ => []) → Keeps (Phrase.leaf token).texts (pure (.literal literal)) := by
    intro lexeme literal isLexeme same
    refine keeps_pure ?_
    rw [texts_leaf, isLexeme, same]
  unfold Token.lower
  split
  · next isNumeral => exact ofLiteral isNumeral rfl
  · next isNumeral => exact ofLiteral isNumeral rfl
  · exact keeps_throw _ _
  · next isText => exact ofLiteral isText rfl
  · exact keeps_throw _ _
  · exact keeps_throw _ _
  · exact keeps_throw _ _
  · next isWord => exact ofLiteral isWord rfl
  · next isWord => exact ofLiteral isWord rfl
  · exact keeps_throw _ _
  · next isWord =>
      split
      · exact ofLiteral isWord rfl
      · exact ofLiteral isWord rfl
      · exact keeps_throw _ _

theorem keeps_strings (phrase : Phrase) (parts : List Phrase) :
    Keeps (Phrase.node .strings parts).texts (lowerStrings phrase parts) := by
  unfold lowerStrings
  rw [Phrase.texts]
  split
  · next value joined => exact keeps_pure (by rw [joined]; rfl)
  · split <;> exact keeps_throw _ _

theorem keeps_sign {operator operand : Phrase}
    (grammatical : (Phrase.node .sign [operator, operand]).Grammatical) (phrase : Phrase) :
    Keeps (Phrase.node .sign [operator, operand]).texts (lowerSign phrase operator operand) := by
  unfold lowerSign
  split
  · next isMark =>
      have ofOperand := (grammatical.inner operand (by simp)).texts_ungrouped
      rw [Phrase.texts_node (by decide), Phrase.textsOf, Phrase.textsOf,
        Phrase.texts_of_isMark isMark, ← ofOperand]
      split
      · next isNumeral => exact keeps_pure (by rw [isNumeral]; rfl)
      · next isNumeral => exact keeps_pure (by rw [isNumeral]; rfl)
      · exact keeps_throw _ _
  · exact keeps_throw _ _

theorem keeps_field {phrase : Phrase} (grammatical : phrase.Grammatical) :
    Keeps phrase.texts (lowerField phrase) := by
  unfold lowerField
  split
  · next isPath =>
      rw [grammatical.texts_path isPath]
      split
      · intro met node after done
        obtain ⟨_, between, -, built⟩ := run_bind_eq_ok.mp done
        obtain ⟨rfl, -⟩ := run_pure_eq_ok.mp built
        exact fun value => Iff.rfl
      · exact keeps_throw _ _
  · exact keeps_throw _ _

theorem callee_of_calledName {phrase : Phrase} {arguments : List Phrase}
    {met after : References} {name : String}
    (called : (calledName phrase arguments).run met = .ok (name, after)) :
    ∃ callee call, phrase = .node .primary [callee, call] ∧ callee.name? = some name := by
  unfold calledName at called
  split at called
  · split at called
    · next isName =>
        split at called
        · cases called
        · split at called
          · cases called
          · exact ⟨_, _, rfl, (run_pure_eq_ok.mp called).1 ▸ isName⟩
    · cases called
  · cases called

theorem Lowered.Keeps.unlessComprehension {texts : List String} {step : Lowered Node}
    (keeps : Keeps texts step) (phrase : Phrase) (parts : List Phrase) (name : String) :
    Keeps texts (do
      refuseComprehension phrase parts name
      step) := by
  intro met node after done
  obtain ⟨_, between, -, rest⟩ := run_bind_eq_ok.mp done
  exact keeps rest

theorem keeps_call {step : Lowered (List Node)} {arguments parts : List Phrase}
    (keeps : KeepsEach (Phrase.textsOf arguments) step)
    (grammatical : (Phrase.node .primary parts).Grammatical)
    (last : [Phrase.node .call arguments] <:+ parts) :
    Keeps (Phrase.node .primary parts).texts (do
      let name ← calledName (.node .primary parts) arguments
      noteFunction name
      refuseComprehension (.node .call arguments) arguments "GeneratorExp"
      return .call name (← step)) := by
  intro met node after done
  obtain ⟨name, between, called, done⟩ := run_bind_eq_ok.mp done
  obtain ⟨_, noted, -, done⟩ := run_bind_eq_ok.mp done
  obtain ⟨_, passed, -, done⟩ := run_bind_eq_ok.mp done
  obtain ⟨nodes, final, one, built⟩ := run_bind_eq_ok.mp done
  obtain ⟨rfl, -⟩ := run_pure_eq_ok.mp built
  obtain ⟨callee, call, same, isName⟩ := callee_of_calledName called
  cases same
  obtain ⟨front, whole⟩ := last
  have ends : front ++ [Phrase.node .call arguments] = [callee] ++ [call] := whole
  obtain ⟨-, same⟩ := List.append_inj' ends rfl
  cases same
  have ofCallee := (grammatical.inner callee List.mem_cons_self).texts_name isName
  rw [Phrase.texts_node (by decide), Phrase.textsOf, Phrase.textsOf, ofCallee,
    Phrase.texts_node (by decide)]
  simpa [Node.texts, Phrase.textsOf] using keeps one

/-- The texts of a chain are those of its first operand and of what it is compared with. -/
def KeepsLinks (left : Node) (links : List Phrase) (step : Lowered (List Node)) : Prop :=
  ∀ ⦃met nodes after⦄, step.run met = .ok (nodes, after) →
    links = [] ∧ nodes = [] ∨
      ∀ value, value ∈ Node.textsOf nodes ↔ value ∈ left.texts ∨ value ∈ Phrase.textsOf links

theorem keepsLinks_cons {left : Node} {phrase operator right : Phrase} {links : List Phrase}
    {comparison : Comparison} (ofOperator : operator.texts = [])
    (keepsRight : Keeps right.texts right.lower)
    (keepsLinks : ∀ right, KeepsLinks right links (lowerLinks phrase right links)) :
    KeepsLinks left (operator :: right :: links) (do
      let right ← right.lower
      return .compare comparison left right :: (← lowerLinks phrase right links)) := by
  intro met nodes after done
  obtain ⟨node, between, one, done⟩ := run_bind_eq_ok.mp done
  obtain ⟨others, last, later, built⟩ := run_bind_eq_ok.mp done
  obtain ⟨rfl, -⟩ := run_pure_eq_ok.mp built
  refine .inr fun value => ?_
  have ofRight := keepsRight one value
  simp only [Node.textsOf, Node.texts, Phrase.textsOf, ofOperator, List.nil_append,
    List.mem_append]
  rcases keepsLinks node later with ⟨rfl, rfl⟩ | ofLinks
  · simp [Node.textsOf, Phrase.textsOf, ofRight]
  · -- the right side is the left side of the next link
    rw [ofLinks value, ofRight]
    tauto

theorem keeps_comparison {phrase left : Phrase} {links : List Phrase}
    (keepsLeft : Keeps left.texts left.lower)
    (keepsLinks : ∀ node, KeepsLinks node links (lowerLinks phrase node links))
    (linked : links ≠ []) :
    Keeps (left.texts ++ Phrase.textsOf links)
      (do return Node.chain (← lowerLinks phrase (← left.lower) links)) := by
  intro met node after done
  obtain ⟨first, between, one, done⟩ := run_bind_eq_ok.mp done
  obtain ⟨nodes, last, later, built⟩ := run_bind_eq_ok.mp done
  obtain ⟨rfl, -⟩ := run_pure_eq_ok.mp built
  rcases keepsLinks first later with ⟨unlinked, -⟩ | ofLinks
  · exact absurd unlinked linked
  · intro value
    rw [Node.texts_chain, ofLinks value, keepsLeft one value, List.mem_append]

/-- Operators without literals and right sides, by turns. -/
inductive LinkedQuietly : List Phrase → Prop
  | nil : LinkedQuietly []
  | cons {operator right : Phrase} {links : List Phrase} (ofOperator : operator.texts = [])
      (others : LinkedQuietly links) : LinkedQuietly (operator :: right :: links)

theorem Yields.linkedQuietly {operators : Peg} {operand : Form} {links : List Phrase}
    (yields : Yields (.many (.both operators (.form operand))) links)
    (isLone : operators.lone = true) (quiet : operators.quiet = true) : LinkedQuietly links := by
  generalize isMany : Peg.many (.both operators (.form operand)) = peg at yields
  induction yields with
  | none => exact .nil
  | more one _ _ ih =>
      cases isMany
      cases one with
      | both first second =>
          have ofOperator := first.quiet quiet
          obtain ⟨operator, rfl⟩ := first.of_lone isLone
          obtain ⟨right, rfl⟩ := second.of_lone rfl
          rw [Phrase.textsOf, Phrase.textsOf, List.append_nil] at ofOperator
          exact .cons ofOperator (ih rfl)
  | _ => cases isMany

theorem Phrase.Grammatical.linkedQuietly {left : Phrase} {links : List Phrase}
    (grammatical : (Phrase.node .comparison (left :: links)).Grammatical) :
    LinkedQuietly links := by
  have yields := grammatical.yields
  generalize whole : left :: links = parts at yields
  cases yields with
  | both first others =>
      obtain ⟨only, rfl⟩ := first.of_lone rfl
      cases whole
      exact others.linkedQuietly rfl (by decide)

theorem Lowered.KeepsEach.cons {part : Phrase} {texts : List String} {steps : Lowered (List Node)}
    (keeps : Keeps part.texts part.lower) (keepsEach : KeepsEach texts steps) :
    KeepsEach (part.texts ++ texts) (do return (← part.lower) :: (← steps)) := by
  intro met nodes after done
  obtain ⟨node, between, one, done⟩ := run_bind_eq_ok.mp done
  obtain ⟨others, last, later, built⟩ := run_bind_eq_ok.mp done
  obtain ⟨rfl, -⟩ := run_pure_eq_ok.mp built
  intro value
  rw [Node.textsOf, List.mem_append, List.mem_append, keeps one value, keepsEach later value]

abbrev PhraseKeeps (phrase : Phrase) : Prop :=
  phrase.Grammatical → Keeps phrase.texts phrase.lower

/-- The parts of a primary from one of them on. -/
abbrev PrimaryKeeps (phrase : Phrase) (parts : List Phrase) : Prop :=
  phrase.Grammatical → (∃ all, phrase = .node .primary all ∧ parts <:+ all) →
    Keeps phrase.texts (lowerPrimary phrase parts)

abbrev ItemsKeep (parts : List Phrase) : Prop :=
  (∀ part ∈ parts, part.Grammatical) → KeepsEach (Phrase.textsOf parts) (lowerItems parts)

abbrev ChainKeeps (phrase : Phrase) (left : Node) (links : List Phrase) : Prop :=
  (∀ link ∈ links, link.Grammatical) → LinkedQuietly links →
    KeepsLinks left links (lowerLinks phrase left links)

theorem keeps_all : (∀ phrase, PhraseKeeps phrase) ∧
    (∀ phrase parts, PrimaryKeeps phrase parts) ∧ (∀ parts, ItemsKeep parts) ∧
    ∀ phrase left links, ChainKeeps phrase left links := by
  refine Phrase.lower.mutual_induct PhraseKeeps PrimaryKeeps ItemsKeep ChainKeeps
    ?leaf ?paren ?tuple ?bracket ?listing ?disjunction ?conjunction ?negation ?comparison
    ?strings ?sign ?primary ?refused ?call ?attribution ?further ?subscript ?noItem ?separator
    ?operand ?unlinkable ?link ?unlinked
  -- The phrase itself, form by form.
  case leaf =>
    intro token _
    rw [Phrase.lower]
    exact keeps_token token
  case paren =>
    intro opening inner closing ih grammatical
    rw [Phrase.lower, grammatical.texts_paren]
    exact ih (grammatical.inner inner (by simp))
  case tuple =>
    intro parts several ih grammatical
    rw [Phrase.lower, Phrase.texts_node (by decide)]
    · exact ((ih grammatical.inner).map fun _ => rfl).unlessComprehension _ _ _
    · exact several
  case bracket =>
    intro parts ih grammatical
    rw [Phrase.lower, Phrase.texts_node (by decide)]
    exact ((ih grammatical.inner).map fun _ => rfl).unlessComprehension _ _ _
  case listing | disjunction | conjunction =>
    intro parts ih grammatical
    rw [Phrase.lower, Phrase.texts_node (by decide)]
    exact (ih grammatical.inner).map fun _ => rfl
  case negation =>
    intro mark operand ih grammatical
    rw [Phrase.lower, grammatical.texts_negation]
    exact (ih (grammatical.inner operand (by simp))).map fun _ => rfl
  case comparison =>
    intro left links ihLeft ihLinks grammatical
    rw [Phrase.lower, Phrase.texts_node (by decide), Phrase.textsOf]
    refine keeps_comparison (ihLeft (grammatical.inner left List.mem_cons_self))
      (fun node => ihLinks node (fun link member =>
        grammatical.inner link (List.mem_cons_of_mem left member)) grammatical.linkedQuietly) ?_
    obtain ⟨operator, right, others, rfl⟩ := grammatical.links
    exact List.cons_ne_nil _ _
  case strings =>
    intro parts _
    rw [Phrase.lower]
    exact keeps_strings _ parts
  case sign =>
    intro operator operand grammatical
    rw [Phrase.lower]
    exact keeps_sign grammatical _
  case primary =>
    intro parts ih grammatical
    rw [Phrase.lower]
    exact ih grammatical ⟨parts, rfl, List.suffix_refl parts⟩
  case refused =>
    intros
    intro _
    rw [Phrase.lower]
    · exact keeps_throw _ _
    all_goals assumption
  -- A primary, by its last suffix.
  case call =>
    rintro _ arguments ih grammatical ⟨all, rfl, last⟩
    rw [lowerPrimary]
    have inner := grammatical.inner _ (last.mem List.mem_cons_self)
    exact keeps_call (ih inner.inner) grammatical last
  case attribution =>
    intro phrase parts grammatical _
    rw [lowerPrimary]
    exact keeps_field grammatical
  case further =>
    rintro phrase first part parts ih grammatical ⟨all, whole, last⟩
    rw [lowerPrimary]
    exact ih grammatical ⟨all, whole, (List.suffix_cons first _).trans last⟩
  case subscript =>
    intros
    intro _ _
    rw [lowerPrimary]
    · exact keeps_throw _ _
    all_goals assumption
  -- Items among what separates them.
  case noItem =>
    intro _ met nodes after done
    rw [lowerItems] at done
    obtain ⟨rfl, -⟩ := run_pure_eq_ok.mp done
    exact fun value => Iff.rfl
  case separator =>
    intro part parts separates ih grammatical
    rw [lowerItems, if_pos separates, Phrase.textsOf, Phrase.texts_of_separates separates]
    exact ih fun other member => grammatical other (List.mem_cons_of_mem part member)
  case operand =>
    intro part parts operand ihPart ih grammatical
    rw [lowerItems, if_neg operand, Phrase.textsOf]
    exact (ih fun other member => grammatical other (List.mem_cons_of_mem part member)).cons
      (ihPart (grammatical part List.mem_cons_self))
  -- The links of a chain.
  case unlinkable =>
    intro phrase left operator right links name refused _ _
    rw [lowerLinks]
    simp only [refused]
    intro met nodes after done
    cases done
  case link =>
    intro phrase left operator right links comparison allowed ihRight ihLinks grammatical linked
    rw [lowerLinks]
    simp only [allowed]
    cases linked with
    | cons ofOperator others =>
        exact keepsLinks_cons ofOperator
          (ihRight (grammatical right (List.mem_cons_of_mem operator List.mem_cons_self)))
          fun node => ihLinks node (fun link member => grammatical link
            (List.mem_cons_of_mem operator (List.mem_cons_of_mem right member))) others
  case unlinked =>
    intro links phrase left few _ linked
    cases linked with
    | nil =>
        rw [lowerLinks]
        · intro met nodes after done
          obtain ⟨rfl, -⟩ := run_pure_eq_ok.mp done
          exact .inl ⟨rfl, rfl⟩
        · intro _ _ _ empty
          cases empty
    | cons => exact (few _ _ _ rfl).elim

namespace Sample

/-- Signs in literals of several kinds and outside of them, and an escape. -/
def quoting : String :=
  "(r.sub == '''a && b''' || r.obj in [\"it's\" r' \\!', u'\\u0078']) && !(r.act == \"\") # or"

theorem read_quoting : ∃ root used, read quoting = .ok (root, used) :=
  ⟨.all [.any
      [.compare .equal (.field ⟨"r", "sub", []⟩) (.literal (.text "a && b")),
        .compare .within (.field ⟨"r", "obj", []⟩)
          (.sequence [.literal (.text "it's \\!"), .literal (.text "x")])],
      .not (.compare .equal (.field ⟨"r", "act", []⟩) (.literal (.text "")))],
    ⟨["r.act", "r.obj", "r.sub"], []⟩, Answer.eq_ok_of_gives (by decide +kernel)⟩

theorem quotedCodes_quoting : Legible quoting ∧ Spelled quoting ∧
    quotedCodes quoting = ["a && b", "it's \\!", "x", ""].map codePoints := by
  decide +kernel

end Sample

end AccessControl.Matcher
