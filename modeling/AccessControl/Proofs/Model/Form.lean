import AccessControl.Proofs.Matcher.References
import AccessControl.Proofs.Model.Keys
import AccessControl.Proofs.Model.Spelling

namespace AccessControl.Model

open Text

structure HasShape (value : Value) (shape : Shape) : Prop where
  tokens : sectionTokens? value = some shape
  some : shape ≠ []
  names : ∀ token ∈ shape, isFieldName token = true
  distinct : shape.Nodup

def HasScope (value : Value) : Prop :=
  sectionTokens? value = some ["_", "_"] ∨ sectionTokens? value = some ["_", "_", "_"]

def HasEffect (value : Value) : Prop :=
  ∃ (text : String) (rule : EffectRule), value = .text text ∧
    EffectRule.canonical rule.text = EffectRule.canonical text

structure Declares (definition : List (Value × Value)) (suffix : String)
    (request policy : Shape) : Prop where
  request : ∃ value, (.text (Section.request.key suffix), value) ∈ definition ∧
    HasShape value request
  policy : ∃ value, (.text (Section.policy.key suffix), value) ∈ definition ∧
    HasShape value policy

def fieldsOf (suffix : String) (request policy : Shape) : List String :=
  request.map (Matcher.qualified (Section.request.key suffix)) ++
    policy.map (Matcher.qualified (Section.policy.key suffix))

/-- A matcher can be read, and names only the fields of the request and the policy that
have its number. -/
def HasMatcher (definition : List (Value × Value)) (suffix : String) (value : Value) : Prop :=
  ∃ text root used request policy, value = .text text ∧
    Matcher.read text = .ok (root, used) ∧ Declares definition suffix request policy ∧
    root.fieldNames ⊆ fieldsOf suffix request policy

def Accepts (definition : List (Value × Value)) : Section → String → Value → Prop
  | .request, _, value => ∃ shape, HasShape value shape
  | .policy, _, value => ∃ shape, HasShape value shape
  | .role, _, value => HasScope value
  | .effect, _, value => HasEffect value
  | .matcher, suffix, value => HasMatcher definition suffix value

def AcceptsPart (endings : List String) (definition : List (Value × Value))
    (part : Value × Value) : Prop :=
  ∃ kind suffix, KeyOf endings kind suffix part.1 ∧ Accepts definition kind suffix part.2

structure WellFormed (endings : List String) (definition : List (Value × Value)) : Prop where
  parts : ∀ part ∈ definition, AcceptsPart endings definition part
  required : ∀ kind ∈ Section.required, ∃ value, (.text (kind.key ""), value) ∈ definition

/-- A matcher that would see its fields, is not empty, and cannot be read. -/
def Unreadable (endings : List String) (definition : List (Value × Value))
    (part : Value × Value) (cause : CompileFault) : Prop :=
  ∃ suffix text request policy, KeyOf endings .matcher suffix part.1 ∧ part.2 = .text text ∧
    allBlank text = false ∧ Matcher.read text = .error (.compile cause) ∧
    Declares definition suffix request policy

/-- The failures that a definition explains: a model fault by a section that is missing or
by a part that is wrong in some other way than as a matcher that cannot be read, and a
compile fault by such a matcher. -/
inductive Explains (endings : List String) (definition : List (Value × Value)) : Failure → Prop
  | missing {kind : Section} (required : kind ∈ Section.required)
      (absent : ∀ value, (.text (kind.key ""), value) ∉ definition) :
      Explains endings definition (.model (.missingSection (kind.key "") kind.name))
  | part {part : Value × Value} (fault : ModelFault) (inside : part ∈ definition)
      (refused : ¬ AcceptsPart endings definition part)
      (readable : ∀ cause, ¬ Unreadable endings definition part cause) :
      Explains endings definition (.model fault)
  | unreadable {part : Value × Value} {cause : CompileFault} (inside : part ∈ definition)
      (unreadable : Unreadable endings definition part cause) :
      Explains endings definition (.compile cause)

theorem fieldFault?_eq_none {key : String} {seen tokens : List String} :
    fieldFault? key seen tokens = none ↔
      (∀ token ∈ tokens, isFieldName token = true) ∧ tokens.Nodup ∧
        ∀ token ∈ tokens, token ∉ seen := by
  induction tokens generalizing seen with
  | nil => simp [fieldFault?]
  | cons token tokens ih =>
      rw [fieldFault?, List.forall_mem_cons, List.nodup_cons, List.forall_mem_cons]
      by_cases isName : isFieldName token = true
      · by_cases again : token ∈ seen
        · simp [isName, again]
        · have apart : (∀ other ∈ tokens, other ∉ token :: seen) ↔
              token ∉ tokens ∧ ∀ other ∈ tokens, other ∉ seen := by
            simp only [List.mem_cons, not_or, forall_and]
            exact and_congr_left' ⟨fun others member => others token member rfl,
              fun apart other member same => apart (same ▸ member)⟩
          simp only [isName, Bool.not_true, Bool.false_eq_true, if_false, List.contains_iff_mem,
            again, ih, apart, true_and, not_false_eq_true]
          tauto
      · simp [isName]

theorem shape_read_iff {key : String} {value : Value} {shape : Shape} :
    Shape.read key value = .ok shape ↔ HasShape value shape := by
  rw [Shape.read_eq_ok, sectionTokens_eq_ok, fieldFault?_eq_none]
  constructor
  · rintro ⟨⟨tokens, read, -⟩, names, distinct, -⟩
    exact ⟨tokens, read, names, distinct⟩
  · rintro ⟨tokens, read, names, distinct⟩
    have noName : isFieldName "" = false := rfl
    refine ⟨⟨tokens, read, fun empty => ?_⟩, names, distinct, fun _ _ => List.not_mem_nil⟩
    have isName := names "" empty
    rw [noName] at isName
    cases isName

theorem exists_scope_iff {key : String} {value : Value} :
    (∃ scope, RoleScope.read key value = .ok scope) ↔ HasScope value := by
  have filled : ∀ scope : RoleScope, List.replicate scope.arity RoleScope.placeholder ≠ [] ∧
      "" ∉ List.replicate scope.arity RoleScope.placeholder := by
    intro scope
    cases scope <;> decide
  simp only [RoleScope.read_eq_ok, sectionTokens_eq_ok]
  constructor
  · rintro ⟨scope, tokens, -⟩
    cases scope with
    | everywhere => exact .inl tokens
    | inDomain => exact .inr tokens
  · rintro (tokens | tokens)
    · exact ⟨.everywhere, tokens, filled .everywhere⟩
    · exact ⟨.inDomain, tokens, filled .inDomain⟩

theorem exists_ofText?_iff {text : String} :
    (∃ rule, EffectRule.ofText? text = some rule) ↔
      ∃ rule : EffectRule, EffectRule.canonical rule.text = EffectRule.canonical text := by
  have whole : ∀ rule : EffectRule, rule ∈ EffectRule.all := by
    intro rule
    cases rule <;> decide
  rw [← Option.isSome_iff_exists, EffectRule.ofText?, List.find?_isSome]
  simp [whole]

theorem exists_effect_iff {entry : Entry} :
    (∃ effect, readEffect entry = .ok effect) ↔ HasEffect entry.definition := by
  simp only [readEffect_eq_ok, EffectRule.resolve_eq_ok]
  constructor
  · rintro ⟨effect, text, spelled, resolved, -⟩
    obtain ⟨rule, same⟩ := exists_ofText?_iff.mp ⟨_, resolved⟩
    exact ⟨text, rule, spelled, same⟩
  · rintro ⟨text, rule, spelled, same⟩
    obtain ⟨found, resolved⟩ := exists_ofText?_iff.mpr ⟨rule, same⟩
    exact ⟨⟨trimmed text, found⟩, text, spelled, resolved, rfl⟩

theorem readEffect_error {entry : Entry} {failure : Failure}
    (refused : readEffect entry = .error failure) : ∃ fault, failure = .model fault := by
  unfold readEffect at refused
  split at refused
  · split at refused <;> cases refused
    exact ⟨_, rfl⟩
  · cases refused
    exact ⟨_, rfl⟩

theorem read_error {text : String} {failure : Failure}
    (refused : Matcher.read text = .error failure) : ∃ cause, failure = .compile cause := by
  unfold Matcher.read at refused
  simp only at refused
  split at refused
  · cases refused
    exact ⟨_, rfl⟩
  · rcases Answer.bind_eq_error.mp refused with unspelled | ⟨spelled, -, refused⟩
    · obtain ⟨cause, -, rfl⟩ := Answer.mapError_eq_error.mp unspelled
      exact ⟨cause, rfl⟩
    · split at refused
      · cases refused
        exact ⟨_, rfl⟩
      · split at refused
        · cases refused
          exact ⟨_, rfl⟩
        · obtain ⟨cause, -, rfl⟩ := Answer.mapError_eq_error.mp refused
          exact ⟨_, rfl⟩

theorem readMatcher_error {requests policies : List (String × Shape)} {entry : Entry}
    {failure : Failure} (refused : readMatcher requests policies entry = .error failure) :
    (∃ text known cause, failure = .compile cause ∧ entry.definition = .text text ∧
      allBlank text = false ∧
      pairedFields requests policies entry.key entry.place.suffix = .ok known ∧
      Matcher.read text = .error (.compile cause)) ∨
    (∃ fault, failure = .model fault) ∧ ∀ text known, entry.definition = .text text →
      allBlank text = false →
      pairedFields requests policies entry.key entry.place.suffix = .ok known →
      ∃ root used, Matcher.read text = .ok (root, used) ∧ ¬ used.fields ⊆ known := by
  unfold readMatcher at refused
  split at refused
  · next text spelled =>
      simp only [spelled, Value.text.injEq]
      split at refused
      · next blank =>
          cases refused
          refine .inr ⟨⟨_, rfl⟩, ?_⟩
          rintro _ known rfl visible
          rw [blank] at visible
          cases visible
      · next visible =>
          rcases Answer.bind_eq_error.mp refused with unpaired | ⟨known, paired, refused⟩
          · obtain ⟨cause, unpaired, rfl⟩ := Answer.mapError_eq_error.mp unpaired
            refine .inr ⟨⟨_, rfl⟩, ?_⟩
            rintro _ known rfl - paired
            rw [paired] at unpaired
            cases unpaired
          · rw [Answer.mapError_eq_ok] at paired
            rcases Answer.bind_eq_error.mp refused with unread | ⟨⟨root, used⟩, parsed, refused⟩
            · obtain ⟨cause, rfl⟩ := read_error unread
              exact .inl ⟨text, known, cause, rfl, rfl, by simpa using visible, paired, unread⟩
            · simp only at refused
              split at refused
              · next unknown =>
                  cases refused
                  refine .inr ⟨⟨_, rfl⟩, ?_⟩
                  rintro _ other rfl - again
                  rw [paired] at again
                  cases again
                  refine ⟨root, used, parsed, fun all => ?_⟩
                  have allKnown : Matcher.unknownNames used.fields (some known) = [] :=
                    Matcher.unknownNames_eq_nil.mpr fun _ same => by cases same; exact all
                  rw [Matcher.unknownNames] at allKnown
                  rw [allKnown] at unknown
                  cases unknown
              · cases refused
  · next noText =>
      cases refused
      exact .inr ⟨⟨_, rfl⟩, fun text known spelled => absurd spelled (noText text)⟩

end AccessControl.Model
