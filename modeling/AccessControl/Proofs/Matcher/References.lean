import AccessControl.Proofs.Matcher.Evaluation
import AccessControl.Proofs.Matcher.Lowering
import AccessControl.Proofs.Matcher.Spelling

namespace AccessControl.Matcher

structure References.Of (used : References) (root : Node) : Prop where
  fields : ∀ name, name ∈ used.fields ↔ name ∈ root.fieldNames
  functions : ∀ name, name ∈ used.functions ↔ name ∈ root.functionNames

section

variable {text : String} {root : Node} {used : References}

theorem References.Of.fields_subset (names : used.Of root) (known : List String) :
    used.fields ⊆ known ↔ root.fieldNames ⊆ known :=
  forall_congr' fun name => imp_congr_left (names.fields name)

theorem References.Of.functions_subset (names : used.Of root) (known : List String) :
    used.functions ⊆ known ↔ root.functionNames ⊆ known :=
  forall_congr' fun name => imp_congr_left (names.functions name)

theorem of_read (reading : read text = .ok (root, used)) :
    root.WellFormed ∧ used.Of root := by
  obtain ⟨-, spelled, -, -, phrase, found, lowered⟩ := read_eq_ok.mp reading
  obtain ⟨wellFormed, notes⟩ := gathers_all.1 phrase (grammatical_of_phrase? found) lowered
  refine ⟨wellFormed, fun name => ?_, fun name => ?_⟩
  · rw [notes.fields]
    exact or_iff_right List.not_mem_nil
  · rw [notes.functions]
    exact or_iff_right List.not_mem_nil

theorem unknownNames_eq_nil {names : List String} {known? : Option (List String)} :
    unknownNames names known? = [] ↔ ∀ known ∈ known?, names ⊆ known := by
  cases known? with
  | none => exact ⟨fun _ => nofun, fun _ => rfl⟩
  | some known =>
      rw [unknownNames, List.filter_eq_nil_iff]
      simp only [Bool.not_eq_true, Bool.not_eq_false', List.contains_iff_mem,
        Option.mem_some_iff, forall_eq']
      exact Iff.rfl

theorem compile_eq_ok {fields? functions? : Option (List String)} {matcher : Matcher} :
    compile text fields? functions? = .ok matcher ↔
      ∃ root used, read text = .ok (root, used) ∧
        unknownNames used.fields fields? = [] ∧
        unknownNames used.functions functions? = [] ∧
        matcher = ⟨text, root, used.fields, used.functions⟩ := by
  unfold compile
  constructor
  · intro compiled
    obtain ⟨⟨root, used⟩, reading, compiled⟩ := Answer.bind_eq_ok.mp compiled
    simp only at compiled
    split at compiled
    · cases compiled
    · next known =>
        split at compiled
        · cases compiled
        · next knownFunctions =>
            cases compiled
            exact ⟨root, used, reading, by simpa using known, by simpa using knownFunctions,
              rfl⟩
  · rintro ⟨root, used, reading, known, knownFunctions, rfl⟩
    refine Answer.bind_eq_ok.mpr ⟨(root, used), reading, ?_⟩
    simp only [known, knownFunctions]
    rfl

end

/-- A matcher whose names were checked against the known ones; without a list its own
names are known. Where all known names are bound, evaluation meets no other name,
and only the matcher's own names count for its result. -/
structure Checked (matcher : Matcher) (fields? functions? : Option (List String)) :
    Prop where
  covers : ∀ environment : Environment,
    environment.Binds (fields?.getD matcher.fields) (functions?.getD matcher.functions) →
      environment.Covers matcher.functions (matcher.evaluate environment)
  congr : ∀ left right : Environment, left.Agrees right matcher.fields matcher.functions →
    matcher.evaluate left = matcher.evaluate right

theorem covers_evaluate (matcher : Matcher) {environment : Environment}
    (binds : environment.Binds matcher.root.fieldNames matcher.root.functionNames) :
    environment.Covers matcher.root.functionNames (matcher.evaluate environment) := by
  refine (Node.covers_evaluate matcher.root binds).bind fun value => ?_
  cases value with
  | bool value => exact Environment.covers_ok value
  | _ => exact Environment.covers_error nofun

theorem subset_getD {names : List String} {known? : Option (List String)}
    (known : unknownNames names known? = []) : names ⊆ known?.getD names := by
  cases known? with
  | none => exact List.Subset.refl names
  | some list => exact unknownNames_eq_nil.mp known list rfl

theorem checked_of_compile {text : String} {fields? functions? : Option (List String)}
    {matcher : Matcher} (compiled : compile text fields? functions? = .ok matcher) :
    matcher.Checked fields? functions? := by
  obtain ⟨root, used, reading, known, knownFunctions, rfl⟩ := compile_eq_ok.mp compiled
  obtain ⟨-, names⟩ := of_read reading
  have fields : root.fieldNames ⊆ used.fields := fun name => (names.fields name).mpr
  have functions : root.functionNames ⊆ used.functions :=
    fun name => (names.functions name).mpr
  constructor
  · intro environment binds
    have own := binds.mono (List.Subset.trans fields (subset_getD known))
      (List.Subset.trans functions (subset_getD knownFunctions))
    exact (covers_evaluate ⟨text, root, used.fields, used.functions⟩ own).mono functions
  · intro left right agrees
    exact congrArg (· >>= _) (Node.evaluate_congr root (agrees.mono fields functions))

/-- The tree that is read from a text is well formed, and the names noted with it are
those that occur in it. The text is compiled if and only if all of them are known,
and what it is compiled to asks for no others. -/
theorem compile_checks_references (text : String) (fields? functions? : Option (List String)) :
    (∀ root used, read text = .ok (root, used) →
      root.WellFormed ∧ used.Of root ∧
      (compile text fields? functions? = .ok ⟨text, root, used.fields, used.functions⟩ ↔
        (∀ known ∈ fields?, root.fieldNames ⊆ known) ∧
        ∀ known ∈ functions?, root.functionNames ⊆ known)) ∧
    ∀ matcher, compile text fields? functions? = .ok matcher →
      read text = .ok (matcher.root, ⟨matcher.fields, matcher.functions⟩) ∧
      matcher.Checked fields? functions? := by
  constructor
  · intro root used reading
    obtain ⟨wellFormed, names⟩ := of_read reading
    refine ⟨wellFormed, names, ?_⟩
    simp only [← names.fields_subset, ← names.functions_subset, ← unknownNames_eq_nil]
    constructor
    · intro compiled
      obtain ⟨_, _, again, known, knownFunctions, -⟩ := compile_eq_ok.mp compiled
      cases reading.symm.trans again
      exact ⟨known, knownFunctions⟩
    · rintro ⟨known, knownFunctions⟩
      exact compile_eq_ok.mpr ⟨root, used, reading, known, knownFunctions, rfl⟩
  · intro matcher compiled
    obtain ⟨root, used, reading, -, -, rfl⟩ := compile_eq_ok.mp compiled
    exact ⟨reading, checked_of_compile compiled⟩

namespace Sample

def chained : Matcher :=
  { text := "r.sub.age < 3 <= p.age && g(r.sub, 'staff')"
    root := .all
      [.all
        [.compare .less (.field ⟨"r", "sub", ["age"]⟩) (.literal (.int 3)),
          .compare .atMost (.literal (.int 3)) (.field ⟨"p", "age", []⟩)],
        .call "g" [.field ⟨"r", "sub", []⟩, .literal (.text "staff")]]
    fields := ["p.age", "r.sub"]
    functions := ["g"] }

def knownFields : List String := ["r.sub", "r.obj", "p.age"]

def knownFunctions : List String := ["keyMatch", "g"]

def permissive : Environment where
  value? _ := some (.mapping [("age", .int 2)])
  function? _ := some fun _ => .ok (.bool true)

theorem compile_chained :
    compile chained.text (some knownFields) (some knownFunctions) = .ok chained :=
  Answer.eq_ok_of_gives (by decide +kernel)

theorem compile_checks_references_chained :
    chained.root.WellFormed ∧ chained.Checked (some knownFields) (some knownFunctions) ∧
      permissive.Binds knownFields knownFunctions ∧
      permissive.Covers ["g"] (chained.evaluate permissive) := by
  have checks := compile_checks_references chained.text (some knownFields)
    (some knownFunctions)
  obtain ⟨reading, checked⟩ := checks.2 chained compile_chained
  have binds : permissive.Binds knownFields knownFunctions :=
    ⟨fun _ _ => ⟨_, rfl⟩, fun _ _ => ⟨_, rfl⟩⟩
  exact ⟨(checks.1 chained.root _ reading).1, checked, binds,
    checked.covers permissive binds⟩

end Sample

end AccessControl.Matcher
