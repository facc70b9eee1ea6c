import AccessControl.Proofs.Matcher.Grammar
import AccessControl.Proofs.Matcher.Quotation

namespace AccessControl.Matcher

namespace Phrase

mutual
/-- The texts of the literals in a phrase, where adjacent ones are one. -/
def texts : Phrase → List String
  | .leaf ⟨.text value, _⟩ => [value]
  | .leaf _ => []
  | .node .strings parts => (joinedText? parts).toList
  | .node _ parts => textsOf parts

def textsOf : List Phrase → List String
  | [] => []
  | part :: parts => texts part ++ textsOf parts
end

@[simp] theorem textsOf_append (first second : List Phrase) :
    textsOf (first ++ second) = textsOf first ++ textsOf second := by
  induction first with
  | nil => rfl
  | cons part parts ih => rw [List.cons_append, textsOf, ih, textsOf, List.append_assoc]

theorem texts_ofParts {form : Form} (noStrings : form ≠ .strings) (parts : List Phrase) :
    (ofParts form parts).texts = textsOf parts := by
  unfold ofParts
  split
  · rw [texts]
    exact nofun
  · exact (List.append_nil _).symm
  · rw [texts]
    exact noStrings

def parts (phrases : List Phrase) : List (Part String) :=
  (tokensOf phrases).map (·.lexeme.part)

theorem parts_append (first second : List Phrase) :
    parts (first ++ second) = parts first ++ parts second := by
  simp [parts]

end Phrase

def Part.isText : Part String → Bool
  | .text _ => true
  | _ => false

def Form.startsText : Form → Bool
  | .attribution | .call | .subscript | .absence | .difference | .clause => false
  | _ => true

def Form.endsText : Form → Bool
  | .absence | .difference => false
  | _ => true

namespace Peg

def startsText : Peg → Bool
  | .token accepted => accepted == .text
  | .form shape => shape.startsText
  | .both first second => startsText first || nullable first && startsText second
  | .either first second => startsText first || startsText second
  | .many item => startsText item
  | .empty | .ahead _ | .notAhead _ => false

def endsText : Peg → Bool
  | .token accepted => accepted == .text
  | .form shape => shape.endsText
  | .both first second => endsText second || nullable second && endsText first
  | .either first second => endsText first || endsText second
  | .many item => endsText item
  | .empty | .ahead _ | .notAhead _ => false

/-- The pattern takes no literals that are adjacent, but within a form. -/
def apart : Peg → Bool
  | .both first second =>
      apart first && apart second && !(endsText first && startsText second)
  | .either first second => apart first && apart second
  | .many item => apart item && !(endsText item && startsText item)
  | .empty | .token _ | .form _ | .ahead _ | .notAhead _ => true

end Peg

theorem Form.nullable_pattern (form : Form) : form.pattern.nullable = false := by
  cases form <;> decide

theorem Form.apart_pattern {form : Form} (noStrings : form ≠ .strings) :
    form.pattern.apart = true ∧ (form.pattern.startsText = true → form.startsText = true) ∧
      (form.pattern.endsText = true → form.endsText = true) := by
  revert noStrings
  cases form <;> decide

theorem joinedTexts_append {parts later : List (Part String)} (noGap : .gap ∉ parts)
    (noGapLater : .gap ∉ later) (before? : Option (Option String))
    (apart : (parts.getLast?.map Part.isText).getD before?.isSome = true →
      later.head?.any Part.isText = false) :
    joinedTexts before? (parts ++ later) = joinedTexts before? parts ++ joinedTexts none later := by
  induction parts generalizing before? with
  | nil =>
      cases before? with
      | none => rfl
      | some before =>
          cases later with
          | nil => exact (List.append_nil _).symm
          | cons part later =>
              cases part with
              | text value? => cases apart rfl
              | gap => exact absurd List.mem_cons_self noGapLater
              | other => rfl
  | cons part parts ih =>
      have inner : (parts.getLast?.map Part.isText).getD part.isText = true →
          later.head?.any Part.isText = false := by
        intro ends
        refine apart ?_
        rw [List.getLast?_cons, Option.map_some, Option.getD_some]
        cases last : parts.getLast? <;> simpa [last] using ends
      have others : .gap ∉ parts := fun member => noGap (List.mem_cons_of_mem part member)
      cases part with
      | text value? => exact ih others _ inner
      | gap => exact absurd List.mem_cons_self noGap
      | other => rw [List.cons_append, joinedTexts, ih others none inner, joinedTexts,
          List.append_assoc]

theorem Phrase.gap_not_mem_parts (phrases : List Phrase) : .gap ∉ parts phrases := by
  intro member
  obtain ⟨token, -, same⟩ := List.mem_map.mp member
  obtain ⟨lexeme, column⟩ := token
  cases lexeme <;> cases same

structure Peg.Sound (peg : Peg) (phrases : List Phrase) : Prop where
  nullable : Phrase.parts phrases = [] → peg.nullable = true
  starts : (Phrase.parts phrases).head?.any Part.isText = true → peg.startsText = true
  ends : (Phrase.parts phrases).getLast?.any Part.isText = true → peg.endsText = true
  texts : peg.apart = true → joinedTexts none (Phrase.parts phrases) = Phrase.textsOf phrases

namespace Peg.Sound

theorem nothing {peg : Peg} (nullable : peg.nullable = true) : peg.Sound [] :=
  ⟨fun _ => nullable, nofun, nofun, fun _ => rfl⟩

variable {first second item : Peg} {front back : List Phrase}

theorem append {whole : Peg} (sound : first.Sound front) (later : second.Sound back)
    (nullable : first.nullable = true → second.nullable = true → whole.nullable = true)
    (starts : (first.startsText || first.nullable && second.startsText) = true →
      whole.startsText = true)
    (ends : (second.endsText || second.nullable && first.endsText) = true →
      whole.endsText = true)
    (apart : whole.apart = true → first.apart = true ∧ second.apart = true ∧
      (first.endsText && second.startsText) = false) :
    whole.Sound (front ++ back) := by
  constructor
  · rw [Phrase.parts_append, List.append_eq_nil_iff]
    exact fun nothing => nullable (sound.nullable nothing.1) (later.nullable nothing.2)
  · rw [Phrase.parts_append]
    intro isText
    apply starts
    cases first : Phrase.parts front with
    | nil =>
        rw [first, List.nil_append] at isText
        rw [sound.nullable first, later.starts isText, Bool.true_and, Bool.or_true]
    | cons part others =>
        have inFront : (Phrase.parts front).head?.any Part.isText = true := by
          rwa [first] at isText ⊢
        rw [sound.starts inFront, Bool.true_or]
  · rw [Phrase.parts_append]
    intro isText
    apply ends
    by_cases nothing : Phrase.parts back = []
    · rw [nothing, List.append_nil] at isText
      rw [later.nullable nothing, sound.ends isText, Bool.true_and, Bool.or_true]
    · have inBack : (Phrase.parts back).getLast?.any Part.isText = true := by
        rw [List.getLast?_append] at isText
        cases last : (Phrase.parts back).getLast? with
        | none => exact absurd (List.getLast?_eq_none_iff.mp last) nothing
        | some part => rwa [last] at isText
      rw [later.ends inBack, Bool.true_or]
  · intro separate
    obtain ⟨ofFirst, ofSecond, unmet⟩ := apart separate
    rw [Phrase.parts_append, joinedTexts_append (Phrase.gap_not_mem_parts front)
      (Phrase.gap_not_mem_parts back) none, sound.texts ofFirst, later.texts ofSecond,
      Phrase.textsOf_append]
    intro isLast
    rw [← Bool.not_eq_true]
    intro isFirst
    have ends := sound.ends (by cases last : (Phrase.parts front).getLast? <;> simp_all)
    rw [ends, later.starts isFirst] at unmet
    cases unmet

theorem both (sound : first.Sound front) (later : second.Sound back) :
    (Peg.both first second).Sound (front ++ back) := by
  refine sound.append later ?_ id id ?_
  · intro empty alsoNone
    rw [Peg.nullable, empty, alsoNone, Bool.and_self]
  · intro apart
    simpa only [Peg.apart, Bool.and_eq_true, Bool.not_eq_true', and_assoc] using apart

theorem more (sound : item.Sound front) (later : (Peg.many item).Sound back) :
    (Peg.many item).Sound (front ++ back) := by
  refine sound.append later (fun _ _ => rfl) ?_ ?_ ?_
  · simp only [Peg.startsText, Bool.or_eq_true, Bool.and_eq_true]
    exact fun starts => starts.elim id And.right
  · simp only [Peg.endsText, Bool.or_eq_true, Bool.and_eq_true]
    exact fun ends => ends.elim id And.right
  · intro apart
    have inner := apart
    simp only [Peg.apart, Bool.and_eq_true, Bool.not_eq_true'] at inner
    exact ⟨inner.1, apart, inner.2⟩

end Peg.Sound

theorem Yields.leaves {accepted : TokenClass} {phrases : List Phrase}
    (yields : Yields (.many (.token accepted)) phrases) :
    ∃ tokens : List Token, phrases = tokens.map .leaf ∧
      ∀ token ∈ tokens, accepted.accepts token.lexeme = true := by
  generalize isMany : Peg.many (.token accepted) = peg at yields
  induction yields with
  | none => exact ⟨[], rfl, nofun⟩
  | more one _ _ ih =>
      cases isMany
      obtain ⟨tokens, rfl, all⟩ := ih rfl
      cases one with
      | token accepts => exact ⟨_ :: tokens, rfl, List.forall_mem_cons.mpr ⟨accepts, all⟩⟩
  | _ => cases isMany

theorem Yields.someLeaves {accepted : TokenClass} {phrases : List Phrase}
    (yields : Yields (.atLeastOne (.token accepted)) phrases) :
    ∃ (token : Token) (tokens : List Token), phrases = (token :: tokens).map .leaf ∧
      ∀ next ∈ token :: tokens, accepted.accepts next.lexeme = true := by
  cases yields with
  | both one others =>
      cases one with
      | token accepts =>
          obtain ⟨tokens, rfl, all⟩ := others.leaves
          exact ⟨_, tokens, rfl, List.forall_mem_cons.mpr ⟨accepts, all⟩⟩

theorem Phrase.parts_leaves (tokens : List Token) :
    parts (tokens.map .leaf) = tokens.map (·.lexeme.part) := by
  induction tokens with
  | nil => rfl
  | cons token tokens ih => exact congrArg (token.lexeme.part :: ·) ih

theorem Phrase.parts_ofParts (form : Form) (phrases : List Phrase) :
    parts [ofParts form phrases] = parts phrases := by
  simp [parts, tokensOf, tokens_ofParts]

theorem Phrase.texts_strings (token : Token) (tokens : List Token) :
    (ofParts .strings ((token :: tokens).map .leaf)).texts =
      (joinedText? ((token :: tokens).map .leaf)).toList := by
  cases tokens with
  | nil =>
      obtain ⟨lexeme, column⟩ := token
      cases lexeme <;> simp [ofParts, texts, joinedText?]
  | cons next tokens => rfl

/-- Adjacent literals are one text, with those that come before them. -/
theorem joinedTexts_leaves {tokens : List Token}
    (all : ∀ token ∈ tokens, TokenClass.text.accepts token.lexeme = true) (before? : Option String) :
    joinedTexts (some before?) (tokens.map (·.lexeme.part)) =
      (joinedValue? (some before?) (Phrase.joinedText? (tokens.map .leaf))).toList := by
  induction tokens generalizing before? with
  | nil => cases before? <;> simp [joinedValue?, Phrase.joinedText?, joinedTexts]
  | cons token tokens ih =>
      obtain ⟨first, others⟩ := List.forall_mem_cons.mp all
      obtain ⟨lexeme, column⟩ := token
      cases lexeme with
      | text value =>
          refine (ih others _).trans ?_
          simp only [List.map_cons, Phrase.joinedText?]
          cases before? <;> cases Phrase.joinedText? (tokens.map .leaf) <;>
            simp [joinedValue?, String.append_assoc]
      | template embedded =>
          refine (ih others _).trans ?_
          cases before? <;> rfl
      | _ => cases first

theorem joinedTexts_bytes {tokens : List Token}
    (all : ∀ token ∈ tokens, TokenClass.bytes.accepts token.lexeme = true) :
    joinedTexts none (tokens.map (·.lexeme.part)) = [] := by
  induction tokens with
  | nil => rfl
  | cons token tokens ih =>
      obtain ⟨first, others⟩ := List.forall_mem_cons.mp all
      obtain ⟨lexeme, column⟩ := token
      cases lexeme with
      | bytes value => exact ih others
      | _ => cases first

theorem Peg.Sound.strings {phrases : List Phrase}
    (yields : Yields Form.strings.pattern phrases) :
    (Peg.form .strings).Sound [Phrase.ofParts .strings phrases] := by
  obtain ⟨token, tokens, rfl, texts⟩ : ∃ (token : Token) (tokens : List Token),
      phrases = (token :: tokens).map .leaf ∧
        joinedTexts none ((token :: tokens).map (·.lexeme.part)) =
          (Phrase.joinedText? phrases).toList := by
    cases yields with
    | first yields =>
        obtain ⟨⟨lexeme, column⟩, tokens, rfl, all⟩ := yields.someLeaves
        obtain ⟨first, others⟩ := List.forall_mem_cons.mp all
        refine ⟨_, tokens, rfl, ?_⟩
        cases lexeme with
        | text value =>
            refine (joinedTexts_leaves others (some value)).trans ?_
            simp only [List.map_cons, Phrase.joinedText?]
            cases Phrase.joinedText? (tokens.map .leaf) <;> rfl
        | template embedded => exact joinedTexts_leaves others none
        | _ => cases first
    | second yields =>
        obtain ⟨⟨lexeme, column⟩, tokens, rfl, all⟩ := yields.someLeaves
        refine ⟨_, tokens, rfl, ?_⟩
        rw [joinedTexts_bytes all]
        cases lexeme with
        | bytes value => rfl
        | _ => cases all _ List.mem_cons_self
  have isParts := (Phrase.parts_ofParts .strings ((token :: tokens).map .leaf)).trans
    (Phrase.parts_leaves (token :: tokens))
  refine ⟨fun nothing => ?_, fun _ => rfl, fun _ => rfl, fun _ => ?_⟩
  · rw [isParts] at nothing
    cases nothing
  · rw [isParts, texts, Phrase.textsOf, Phrase.texts_strings]
    exact (List.append_nil _).symm

theorem TokenClass.eq_text_of_accepts {accepted : TokenClass} {lexeme : Lexeme}
    (accepts : accepted.accepts lexeme = true) (isText : lexeme.part.isText = true) :
    accepted = .text := by
  cases lexeme with
  | text | template =>
      cases accepted with
      | text => rfl
      | _ => cases accepts
  | _ => cases isText

theorem Peg.Sound.token {accepted : TokenClass} {token : Token}
    (accepts : accepted.accepts token.lexeme = true) :
    (Peg.token accepted).Sound [.leaf token] := by
  have isText : token.lexeme.part.isText = true → (accepted == .text) = true := by
    rw [beq_iff_eq]
    exact TokenClass.eq_text_of_accepts accepts
  refine ⟨nofun, isText, isText, fun _ => ?_⟩
  obtain ⟨lexeme, column⟩ := token
  cases lexeme <;> rfl

theorem Peg.Sound.first {first : Peg} {phrases : List Phrase} (sound : first.Sound phrases)
    (second : Peg) : (Peg.either first second).Sound phrases := by
  refine ⟨fun nothing => ?_, fun isText => ?_, fun isText => ?_, fun apart => ?_⟩
  · rw [Peg.nullable, sound.nullable nothing, Bool.true_or]
  · rw [Peg.startsText, sound.starts isText, Bool.true_or]
  · rw [Peg.endsText, sound.ends isText, Bool.true_or]
  · rw [Peg.apart, Bool.and_eq_true] at apart
    exact sound.texts apart.1

theorem Peg.Sound.second {second : Peg} {phrases : List Phrase} (sound : second.Sound phrases)
    (first : Peg) : (Peg.either first second).Sound phrases := by
  refine ⟨fun nothing => ?_, fun isText => ?_, fun isText => ?_, fun apart => ?_⟩
  · rw [Peg.nullable, sound.nullable nothing, Bool.or_true]
  · rw [Peg.startsText, sound.starts isText, Bool.or_true]
  · rw [Peg.endsText, sound.ends isText, Bool.or_true]
  · rw [Peg.apart, Bool.and_eq_true] at apart
    exact sound.texts apart.2

theorem Yields.sound {peg : Peg} {phrases : List Phrase} (yields : Yields peg phrases) :
    peg.Sound phrases := by
  induction yields with
  | token accepts => exact .token accepts
  | @form form phrases yields ih =>
      by_cases isStrings : form = .strings
      · subst isStrings
        exact .strings yields
      · obtain ⟨apart, starts, ends⟩ := Form.apart_pattern isStrings
        refine ⟨?_, ?_, ?_, ?_⟩
        · rw [Phrase.parts_ofParts]
          intro nothing
          cases (ih.nullable nothing).symm.trans form.nullable_pattern
        · rw [Phrase.parts_ofParts]
          exact fun isText => starts (ih.starts isText)
        · rw [Phrase.parts_ofParts]
          exact fun isText => ends (ih.ends isText)
        · intro _
          rw [Phrase.parts_ofParts, ih.texts apart, Phrase.textsOf, Phrase.texts_ofParts isStrings]
          exact (List.append_nil _).symm
  | both _ _ first second => exact first.both second
  | more _ _ item others => exact item.more others
  | first _ ih => exact ih.first _
  | second _ ih => exact ih.second _
  | empty | none | ahead | notAhead => exact .nothing rfl

theorem tokensOf_of_take? {fuel : Nat} {peg : Peg} {tokens rest : List Token}
    {phrases : List Phrase} (taken : peg.take? fuel tokens = some (phrases, rest)) :
    tokens = Phrase.tokensOf phrases ++ rest := by
  induction fuel generalizing peg tokens rest phrases with
  | zero => cases taken
  | succ fuel ih =>
      cases peg with
      | empty =>
          cases taken
          rfl
      | token accepted =>
          cases tokens with
          | nil => cases taken
          | cons next others =>
              simp only [Peg.take?, Option.ite_none_right_eq_some, Option.some.injEq,
                Prod.mk.injEq] at taken
              obtain ⟨-, rfl, rfl⟩ := taken
              rfl
      | form form =>
          simp only [Peg.take?, Option.map_eq_some_iff, Prod.mk.injEq] at taken
          obtain ⟨⟨inner, left⟩, found, rfl, rfl⟩ := taken
          simpa [Phrase.tokensOf, Phrase.tokens_ofParts] using ih found
      | both first second =>
          rw [Peg.take?] at taken
          split at taken
          · next found =>
              simp only [Option.map_eq_some_iff, Prod.mk.injEq] at taken
              obtain ⟨⟨back, left⟩, later, rfl, rfl⟩ := taken
              rw [ih found, ih later, Phrase.tokensOf_append, List.append_assoc]
          · cases taken
      | either first second =>
          rw [Peg.take?] at taken
          split at taken
          · next found =>
              cases taken
              exact ih found
          · exact ih taken
      | many item =>
          rw [Peg.take?] at taken
          split at taken
          · next found =>
              simp only [Option.map_eq_some_iff, Prod.mk.injEq] at taken
              obtain ⟨⟨back, left⟩, later, rfl, rfl⟩ := taken
              rw [ih found, ih later, Phrase.tokensOf_append, List.append_assoc]
          · cases taken
            rfl
      | ahead item =>
          simp only [Peg.take?, Option.map_eq_some_iff, Prod.mk.injEq] at taken
          obtain ⟨_, -, rfl, rfl⟩ := taken
          rfl
      | notAhead item =>
          rw [Peg.take?] at taken
          split at taken
          · cases taken
          · cases taken
            rfl

theorem tokens?_of_soundTokens? {fuel : Nat} {text : String} {tokens : List Token}
    (found : soundTokens? fuel text = some tokens) : tokens? text = some tokens := by
  cases fuel with
  | zero => cases found
  | succ fuel =>
      obtain ⟨_, isTokens, found⟩ := Option.bind_eq_some_iff.mp found
      obtain ⟨-, same⟩ := Option.ite_none_right_eq_some.mp found
      rw [isTokens, Option.some.inj same]

theorem texts_of_phrase? {text : String} {phrase : Phrase} (found : phrase? text = some phrase) :
    ∃ tokens, tokens? text = some tokens ∧
      joinedTexts none (tokens.map (·.lexeme.part)) = phrase.texts := by
  obtain ⟨tokens, sound, found⟩ := Option.bind_eq_some_iff.mp found
  refine ⟨tokens, tokens?_of_soundTokens? sound, ?_⟩
  unfold Form.phrase? at found
  split at found
  · next only taken =>
      cases found
      have texts := (yields_of_take? taken).sound.texts rfl
      rw [tokensOf_of_take? taken, List.append_nil]
      exact texts.trans (List.append_nil _)
  · cases found

end AccessControl.Matcher
