import AccessControl.Proofs.Model.Form

namespace AccessControl.Model

open Text

theorem entries_error {definition : List (Value × Value)} {fault : ModelFault}
    (refused : entries definition = .error fault) :
    ∃ part ∈ definition, ∀ kind suffix, ¬ KeyOf keyEndings kind suffix part.1 := by
  induction definition with
  | nil => cases refused
  | cons first rest ih =>
      obtain ⟨key, value⟩ := first
      unfold entries at refused
      split at refused
      · next text =>
          split at refused
          · rcases Answer.bind_eq_error.mp refused with later | ⟨_, -, whole⟩
            · obtain ⟨part, inside, unknown⟩ := ih later
              exact ⟨part, List.mem_cons_of_mem _ inside, unknown⟩
            · cases whole
          · next unread =>
              refine ⟨_, List.mem_cons_self, fun kind suffix isKey => ?_⟩
              rw [ofText?_eq_some.mpr isKey] at unread
              cases unread
      · next noText =>
          refine ⟨_, List.mem_cons_self, fun kind suffix isKey => ?_⟩
          obtain ⟨ending, -, same⟩ := isKey.spelled
          exact noText _ same

theorem checkRequired_error {found : List Entry} {kinds : List Section} {fault : ModelFault}
    (refused : checkRequired found kinds = .error fault) :
    ∃ kind ∈ kinds, kind.key "" ∉ found.map (·.key) ∧
      fault = .missingSection (kind.key "") kind.name := by
  induction kinds with
  | nil => cases refused
  | cons kind kinds ih =>
      rw [checkRequired] at refused
      split at refused
      · obtain ⟨other, later, absent⟩ := ih refused
        exact ⟨other, List.mem_cons_of_mem _ later, absent⟩
      · next absent =>
          cases refused
          refine ⟨kind, List.mem_cons_self, fun member => absent ?_, rfl⟩
          simpa [List.any_eq_true] using member

theorem readKind_error {α : Type} {found : List Entry} {kind : Section}
    {read : Entry → Answer α} {failure : Failure}
    (refused : readKind found kind read = .error failure) :
    ∃ entry ∈ found, entry.place.kind = kind ∧ read entry = .error failure := by
  obtain ⟨entry, inside, wrong⟩ := Answer.mapM_eq_error refused
  obtain ⟨listed, isKind⟩ := List.mem_filter.mp inside
  rcases Answer.bind_eq_error.mp wrong with first | ⟨_, -, whole⟩
  · exact ⟨entry, listed, beq_iff_eq.mp isKind, first⟩
  · cases whole

section

variable {definition : List (Value × Value)} {found : List Entry}
  (parts : List.Forall₂ Entry.Of definition found)

include parts

theorem keyOf_place {entry : Entry} (inside : entry ∈ found) :
    KeyOf keyEndings entry.place.kind entry.place.suffix (.text entry.key) :=
  ofText?_eq_some.mp (places_of_entries parts entry inside)

theorem mem_iff_entry {key : String} {value : Value} :
    (.text key, value) ∈ definition ↔
      ∃ entry ∈ found, entry.key = key ∧ entry.definition = value := by
  constructor
  · intro member
    obtain ⟨entry, inside, part⟩ := Answer.exists_right parts member
    have same : Value.text key = .text entry.key := part.key
    cases same
    exact ⟨entry, inside, rfl, part.definition.symm⟩
  · rintro ⟨entry, inside, rfl, rfl⟩
    obtain ⟨part, member, read⟩ := Answer.exists_left parts inside
    rwa [← read.key, ← read.definition]

theorem lookup_shapes_iff (apart : Apart definition) {kind : Section} {suffix : String}
    (digits : ∀ digit ∈ suffix.toList, isDecimal digit = true) {shapes : List (String × Shape)}
    (done : readKind found kind (fun entry =>
      (Shape.read entry.key entry.definition).mapError .model) = .ok shapes) {shape : Shape} :
    shapes.lookup (kind.key suffix) = some shape ↔
      ∃ value, (.text (kind.key suffix), value) ∈ definition ∧ HasShape value shape := by
  have all := readKind_eq_ok.mp done
  have isKey : KeyOf keyEndings kind suffix (.text (kind.key suffix)) :=
    ⟨digits, "", List.mem_cons_self, by rw [String.append_empty]⟩
  constructor
  · intro declared
    obtain ⟨entry, listed, same, read⟩ :=
      Answer.exists_left all (Entries.mem_of_lookup declared)
    exact ⟨entry.definition, (mem_iff_entry parts).mpr
      ⟨entry, (List.mem_filter.mp listed).1, same.symm, rfl⟩,
      shape_read_iff.mp (Answer.mapError_eq_ok.mp read)⟩
  · rintro ⟨value, member, hasShape⟩
    obtain ⟨entry, inside, same, rfl⟩ := (mem_iff_entry parts).mp member
    have place := keyOf_place parts inside
    rw [same] at place
    have listed : entry ∈ found.filter (·.place.kind == kind) :=
      List.mem_filter.mpr ⟨inside, beq_iff_eq.mpr (place.eq isKey).1⟩
    obtain ⟨result, member, sameKey, read⟩ := Answer.exists_right all listed
    have nodup : (Entries.keys shapes).Nodup := by
      rw [keys_of_readKind done]
      exact (nodup_keys_of_entries parts apart).sublist (List.filter_sublist.map _)
    rw [Answer.mapError_eq_ok, shape_read_iff.mpr hasShape] at read
    cases read
    rw [← same, ← sameKey]
    exact Entries.lookup_of_mem nodup member

variable {requests policies : List (String × Shape)}
  (requestsDone : readKind found .request (fun entry =>
    (Shape.read entry.key entry.definition).mapError .model) = .ok requests)
  (policiesDone : readKind found .policy (fun entry =>
    (Shape.read entry.key entry.definition).mapError .model) = .ok policies)

include requestsDone policiesDone

theorem pairedFields_iff (apart : Apart definition) {entry : Entry} (inside : entry ∈ found)
    {known : List String} :
    pairedFields requests policies entry.key entry.place.suffix = .ok known ↔
      ∃ request policy, Declares definition entry.place.suffix request policy ∧
        known = fieldsOf entry.place.suffix request policy := by
  have digits := (keyOf_place parts inside).digits
  simp only [pairedFields_eq_ok, lookup_shapes_iff parts apart digits requestsDone,
    lookup_shapes_iff parts apart digits policiesDone]
  constructor
  · rintro ⟨request, policy, hasRequest, hasPolicy, same⟩
    exact ⟨request, policy, ⟨hasRequest, hasPolicy⟩, same⟩
  · rintro ⟨request, policy, declares, same⟩
    exact ⟨request, policy, declares.request, declares.policy, same⟩

theorem exists_matcher_iff (apart : Apart definition) {entry : Entry} (inside : entry ∈ found) :
    (∃ text, readMatcher requests policies entry = .ok text) ↔
      HasMatcher definition entry.place.suffix entry.definition := by
  simp only [readMatcher_eq_ok, pairedFields_iff parts requestsDone policiesDone apart inside]
  constructor
  · rintro ⟨-, text, known, root, used, spelled, -, ⟨request, policy, declares, rfl⟩, parsed,
      all, -⟩
    exact ⟨text, root, used, request, policy, spelled, parsed, declares,
      ((Matcher.of_read parsed).2.fields_subset _).mp all⟩
  · rintro ⟨text, root, used, request, policy, spelled, parsed, declares, all⟩
    exact ⟨trimmed text, text, _, root, used, spelled, (Matcher.read_eq_ok.mp parsed).1,
      ⟨request, policy, declares, rfl⟩, parsed,
      ((Matcher.of_read parsed).2.fields_subset _).mpr all, rfl⟩

end

section

variable {definition : List (Value × Value)} (apart : Apart definition)

include apart

theorem wellFormed_of_load {model : Model} (loaded : load definition = .ok model) :
    WellFormed keyEndings definition := by
  obtain ⟨found, parts, loads⟩ := load_eq_ok.mp loaded
  refine ⟨fun part member => ?_, fun kind required => ?_⟩
  · obtain ⟨entry, inside, read⟩ := Answer.exists_right parts member
    refine ⟨entry.place.kind, entry.place.suffix, read.key ▸ keyOf_place parts inside, ?_⟩
    rw [read.definition]
    have result : ∀ {α : Type} {reader : Entry → Answer α} {results : List (String × α)},
        readKind found entry.place.kind reader = .ok results →
          ∃ value, reader entry = .ok value := by
      intro α reader results done
      obtain ⟨result, -, -, read⟩ := Answer.exists_right (readKind_eq_ok.mp done)
        (List.mem_filter.mpr ⟨inside, beq_self_eq_true _⟩)
      exact ⟨result.2, read⟩
    cases kind : entry.place.kind with
    | request =>
        obtain ⟨shape, read⟩ := result (kind ▸ loads.requests)
        exact ⟨shape, shape_read_iff.mp (Answer.mapError_eq_ok.mp read)⟩
    | policy =>
        obtain ⟨shape, read⟩ := result (kind ▸ loads.policies)
        exact ⟨shape, shape_read_iff.mp (Answer.mapError_eq_ok.mp read)⟩
    | role =>
        obtain ⟨scope, read⟩ := result (kind ▸ loads.roles)
        exact exists_scope_iff.mp ⟨scope, Answer.mapError_eq_ok.mp read⟩
    | effect => exact exists_effect_iff.mp (result (kind ▸ loads.effects))
    | matcher =>
        exact (exists_matcher_iff parts loads.requests loads.policies apart inside).mp
          (result (kind ▸ loads.matchers))
  · obtain ⟨entry, inside, same⟩ :=
      List.mem_map.mp (checkRequired_eq_ok.mp loads.required kind required)
    exact ⟨entry.definition, (mem_iff_entry parts).mpr ⟨entry, inside, same, rfl⟩⟩

end

section

variable {definition : List (Value × Value)} {found : List Entry}
  (parts : List.Forall₂ Entry.Of definition found)

include parts

theorem explains_entry {entry : Entry} (inside : entry ∈ found) (fault : ModelFault)
    (refused : ¬ Accepts definition entry.place.kind entry.place.suffix entry.definition)
    (readable : entry.place.kind = .matcher → ∀ text cause request policy,
      entry.definition = .text text → allBlank text = false →
      Matcher.read text = .error (.compile cause) →
      ¬ Declares definition entry.place.suffix request policy) :
    Explains keyEndings definition (.model fault) := by
  obtain ⟨part, member, read⟩ := Answer.exists_left parts inside
  have place := keyOf_place parts inside
  rw [← read.key] at place
  rw [← read.definition] at refused readable
  refine .part fault member ?_ ?_
  · rintro ⟨kind, suffix, isKey, accepts⟩
    obtain ⟨rfl, rfl⟩ := isKey.eq place
    exact refused accepts
  · rintro cause ⟨suffix, text, request, policy, isKey, spelled, visible, unread, declares⟩
    obtain ⟨isMatcher, rfl⟩ := isKey.eq place
    exact readable isMatcher.symm text cause request policy spelled visible unread declares

variable {failure : Failure}

theorem explains_readKind {α : Type} {kind : Section} {reader : Entry → Answer α}
    (refused : readKind found kind reader = .error failure) (other : kind ≠ .matcher)
    (reads : ∀ entry : Entry, Accepts definition kind entry.place.suffix entry.definition →
      ∃ result, reader entry = .ok result)
    (faults : ∀ entry failure, reader entry = .error failure →
      ∃ fault, failure = .model fault) :
    Explains keyEndings definition failure := by
  obtain ⟨entry, inside, rfl, wrong⟩ := readKind_error refused
  obtain ⟨fault, rfl⟩ := faults entry failure wrong
  refine explains_entry parts inside fault (fun accepts => ?_) fun isMatcher =>
    absurd isMatcher other
  obtain ⟨result, read⟩ := reads entry accepts
  rw [read] at wrong
  cases wrong

theorem explains_matchers (apart : Apart definition) {requests policies : List (String × Shape)}
    (requestsDone : readKind found .request (fun entry =>
      (Shape.read entry.key entry.definition).mapError .model) = .ok requests)
    (policiesDone : readKind found .policy (fun entry =>
      (Shape.read entry.key entry.definition).mapError .model) = .ok policies)
    (refused : readKind found .matcher (readMatcher requests policies) = .error failure) :
    Explains keyEndings definition failure := by
  obtain ⟨entry, inside, isKind, wrong⟩ := readKind_error refused
  have paired := @pairedFields_iff _ _ parts _ _ requestsDone policiesDone apart _ inside
  rcases readMatcher_error wrong with
    ⟨text, known, cause, rfl, spelled, visible, declared, unread⟩ | ⟨⟨fault, rfl⟩, readable⟩
  · obtain ⟨request, policy, declares, -⟩ := paired.mp declared
    obtain ⟨part, member, read⟩ := Answer.exists_left parts inside
    refine .unreadable member ⟨entry.place.suffix, text, request, policy, ?_,
      read.definition.trans spelled, visible, unread, declares⟩
    rw [read.key, ← isKind]
    exact keyOf_place parts inside
  · refine explains_entry parts inside fault ?_ ?_
    · rw [isKind]
      intro hasMatcher
      obtain ⟨text, read⟩ :=
        (exists_matcher_iff parts requestsDone policiesDone apart inside).mpr hasMatcher
      rw [read] at wrong
      cases wrong
    · intro _ text cause request policy spelled visible unread declares
      obtain ⟨root, used, parsed, -⟩ :=
        readable text _ spelled visible (paired.mpr ⟨request, policy, declares, rfl⟩)
      rw [parsed] at unread
      cases unread

end

theorem model_of_mapError {α : Type} {read : Except ModelFault α} {failure : Failure}
    (refused : read.mapError Failure.model = .error failure) :
    ∃ fault, failure = .model fault := by
  obtain ⟨fault, -, same⟩ := Answer.mapError_eq_error.mp refused
  exact ⟨fault, same.symm⟩

theorem explains_of_load {definition : List (Value × Value)} (apart : Apart definition)
    {failure : Failure} (refused : load definition = .error failure) :
    Explains keyEndings definition failure := by
  have shapes : ∀ entry : Entry, (∃ shape, HasShape entry.definition shape) → ∃ shape,
      (Shape.read entry.key entry.definition).mapError Failure.model = .ok shape := by
    rintro entry ⟨shape, hasShape⟩
    exact ⟨shape, Answer.mapError_eq_ok.mpr (shape_read_iff.mpr hasShape)⟩
  rcases Answer.bind_eq_error.mp refused with unknown | ⟨found, entriesDone, refused⟩
  · obtain ⟨fault, noEntries, rfl⟩ := Answer.mapError_eq_error.mp unknown
    obtain ⟨part, inside, noKey⟩ := entries_error noEntries
    refine .part fault inside ?_ ?_
    · rintro ⟨kind, suffix, isKey, -⟩
      exact noKey kind suffix isKey
    · rintro cause ⟨suffix, _, _, _, isKey, -⟩
      exact noKey .matcher suffix isKey
  have parts := entries_eq_ok.mp (Answer.mapError_eq_ok.mp entriesDone)
  rcases Answer.bind_eq_error.mp refused with missing | ⟨-, -, refused⟩
  · obtain ⟨fault, unfilled, rfl⟩ := Answer.mapError_eq_error.mp missing
    obtain ⟨kind, required, absent, rfl⟩ := checkRequired_error unfilled
    refine .missing required fun value member => absent ?_
    obtain ⟨entry, inside, same, -⟩ := (mem_iff_entry parts).mp member
    exact List.mem_map.mpr ⟨entry, inside, same⟩
  rcases Answer.bind_eq_error.mp refused with wrong | ⟨requests, requestsDone, refused⟩
  · exact explains_readKind parts wrong nofun shapes fun _ _ => model_of_mapError
  rcases Answer.bind_eq_error.mp refused with wrong | ⟨policies, policiesDone, refused⟩
  · exact explains_readKind parts wrong nofun shapes fun _ _ => model_of_mapError
  rcases Answer.bind_eq_error.mp refused with wrong | ⟨roles, -, refused⟩
  · refine explains_readKind parts wrong nofun (fun entry hasScope => ?_)
      fun _ _ => model_of_mapError
    obtain ⟨scope, read⟩ := exists_scope_iff.mpr hasScope
    exact ⟨scope, Answer.mapError_eq_ok.mpr read⟩
  rcases Answer.bind_eq_error.mp refused with wrong | ⟨effects, -, refused⟩
  · exact explains_readKind parts wrong nofun (fun _ => exists_effect_iff.mpr)
      fun _ _ => readEffect_error
  rcases Answer.bind_eq_error.mp refused with wrong | ⟨matchers, -, whole⟩
  · exact explains_matchers parts apart requestsDone policiesDone wrong
  · cases whole

section

variable {definition : List (Value × Value)}

theorem WellFormed.not_explains {failure : Failure} (wellFormed : WellFormed keyEndings definition)
    (explains : Explains keyEndings definition failure) : False := by
  cases explains with
  | missing required absent =>
      obtain ⟨value, member⟩ := wellFormed.required _ required
      exact absent value member
  | part fault inside refused readable => exact refused (wellFormed.parts _ inside)
  | unreadable inside unreadable =>
      obtain ⟨suffix, text, -, -, isKey, spelled, -, unread, -⟩ := unreadable
      obtain ⟨kind, another, isKeyToo, accepts⟩ := wellFormed.parts _ inside
      obtain ⟨rfl, rfl⟩ := isKey.eq isKeyToo
      obtain ⟨_, root, used, -, -, spelledToo, parsed, -⟩ := accepts
      rw [spelled] at spelledToo
      cases spelledToo
      rw [parsed] at unread
      cases unread

/-- A line break is the last character of the key. -/
def Broken (key : Value) : Prop :=
  ∃ text, key = .text (text ++ "
")

theorem unbroken_of_not_mem {key : String} (clean : '\n' ∉ key.toList) : ¬ Broken (.text key) := by
  rintro ⟨text, same⟩
  cases same
  rw [String.toList_append] at clean
  exact clean (List.mem_append_right _ List.mem_cons_self)

theorem KeyOf.unbroken_iff {kind : Section} {suffix : String} {key : Value} :
    KeyOf [""] kind suffix key ↔ KeyOf keyEndings kind suffix key ∧ ¬ Broken key := by
  constructor
  · rintro ⟨digits, ending, member, rfl⟩
    obtain rfl := List.mem_singleton.mp member
    refine ⟨⟨digits, "", List.mem_cons_self, rfl⟩, ?_⟩
    rintro ⟨text, same⟩
    rw [String.append_empty, Value.text.injEq, ← String.toList_inj, String.toList_append,
      toList_sectionKey] at same
    have last : '
' ∈ kind.letter :: suffix.toList := by
      rw [same]
      exact List.mem_append_right _ List.mem_cons_self
    rcases List.mem_cons.mp last with isLetter | inside
    · cases kind <;> cases isLetter
    · exact absurd (digits _ inside) (by decide)
  · rintro ⟨⟨digits, ending, member, rfl⟩, unbroken⟩
    rcases List.mem_cons.mp member with rfl | second
    · exact ⟨digits, "", List.mem_cons_self, rfl⟩
    · obtain rfl := List.mem_singleton.mp second
      exact absurd ⟨_, rfl⟩ unbroken

theorem wellFormed_unbroken_iff :
    WellFormed [""] definition ↔
      WellFormed keyEndings definition ∧ ∀ part ∈ definition, ¬ Broken part.1 := by
  constructor
  · rintro ⟨parts, required⟩
    refine ⟨⟨fun part member => ?_, required⟩, fun part member => ?_⟩
    · obtain ⟨kind, suffix, isKey, accepts⟩ := parts part member
      exact ⟨kind, suffix, (KeyOf.unbroken_iff.mp isKey).1, accepts⟩
    · obtain ⟨kind, suffix, isKey, -⟩ := parts part member
      exact (KeyOf.unbroken_iff.mp isKey).2
  · rintro ⟨⟨parts, required⟩, unbroken⟩
    refine ⟨fun part member => ?_, required⟩
    obtain ⟨kind, suffix, isKey, accepts⟩ := parts part member
    exact ⟨kind, suffix, KeyOf.unbroken_iff.mpr ⟨isKey, unbroken part member⟩, accepts⟩

end

namespace Sample

def plainParts (key : String) : List (Value × Value) :=
  [(.text "r", .text "sub"), (.text "p", .text "sub"), (.text key, .text "sub"),
    (.text "e", .text "some(where (p.eft == allow))"), (.text "m", .text "r.sub == p.sub")]

def plain (key : String) : Model :=
  { requests := [("r", ["sub"])]
    policies := [("p", ["sub"]), (key, ["sub"])]
    roles := []
    effects := [("e", ⟨"some(where (p.eft == allow))", .allowOverride⟩)]
    matchers := [("m", "r.sub == p.sub")] }

theorem load_plainParts :
    load (plainParts "p2") = .ok (plain "p2") ∧ load (plainParts "p\n") = .ok (plain "p\n") :=
  ⟨Answer.eq_ok_of_gives (by decide +kernel), Answer.eq_ok_of_gives (by decide +kernel)⟩

end Sample

end AccessControl.Model
