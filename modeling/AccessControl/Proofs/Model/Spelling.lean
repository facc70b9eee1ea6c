import AccessControl.Model.Basic
import AccessControl.Proofs.Matcher.References
import AccessControl.Proofs.Text.Parts

namespace AccessControl

open Text

namespace EffectRule

theorem afterNumberedField?_eq_none {joined : Bool} {first : Char}
    (other : ¬ (first = 'p' ∧ joined = false)) (rest : List Char) :
    afterNumberedField? joined (first :: rest) = none := by
  unfold afterNumberedField?
  split
  · next same =>
      cases same
      exact absurd ⟨rfl, rfl⟩ other
  · rfl

section

variable {blank : Char} (isBlank : isBlank blank = true)

include isBlank

theorem not_mem_effectField : blank ∉ effectField := by
  intro member
  have visible : effectField.all (fun mark => !Text.isBlank mark) = true := by decide
  have absent := List.all_eq_true.mp visible blank member
  rw [isBlank] at absent
  cases absent

theorem isPrefixOf_effectField_append_blank (text : List Char) :
    effectField.isPrefixOf (text ++ [blank]) = effectField.isPrefixOf text := by
  rw [Bool.eq_iff_iff, List.isPrefixOf_iff_prefix, List.isPrefixOf_iff_prefix,
    List.prefix_concat_iff]
  refine or_iff_right fun same => not_mem_effectField isBlank ?_
  rw [same]
  exact List.mem_concat_self

theorem takeWhile_isDecimal_append_blank (text : List Char) :
    (text ++ [blank]).takeWhile isDecimal = text.takeWhile isDecimal := by
  rw [List.takeWhile_append]
  split
  · next all =>
      rw [List.takeWhile_cons_of_neg (by simp [isDecimal_of_blank isBlank]), List.append_nil]
      exact ((List.takeWhile_prefix isDecimal).eq_of_length all).symm
  · rfl

theorem head?_append_blank (text : List Char) :
    (text ++ [blank]).head?.any isWord = text.head?.any isWord := by
  cases text with
  | nil => exact isWord_of_blank isBlank
  | cons first rest => rfl

theorem afterNumberedField?_append_blank (joined : Bool) (text : List Char) :
    afterNumberedField? joined (text ++ [blank]) =
      (afterNumberedField? joined text).map (· ++ [blank]) := by
  have ne : blank ≠ 'p' := ne_of_blank isBlank (by decide)
  cases text with
  | nil =>
      rw [List.nil_append, afterNumberedField?_eq_none fun field => ne field.1]
      cases joined <;> rfl
  | cons first rest =>
      by_cases field : first = 'p' ∧ joined = false
      · obtain ⟨rfl, rfl⟩ := field
        have short : (rest.takeWhile isDecimal).length ≤ rest.length :=
          (List.takeWhile_prefix isDecimal).length_le
        simp only [List.cons_append, afterNumberedField?,
          takeWhile_isDecimal_append_blank isBlank, List.drop_append_of_le_length short,
          isPrefixOf_effectField_append_blank isBlank]
        generalize rest.drop (rest.takeWhile isDecimal).length = after
        by_cases begins : effectField.isPrefixOf after = true
        · have long := (List.isPrefixOf_iff_prefix.mp begins).length_le
          rw [List.drop_append_of_le_length long, head?_append_blank isBlank]
          split <;> rfl
        · simp [begins]
      · rw [List.cons_append, afterNumberedField?_eq_none field,
          afterNumberedField?_eq_none field]
        rfl

end

theorem unnumbered_of_some {joined : Bool} {first : Char} {rest after : List Char}
    (found : afterNumberedField? joined (first :: rest) = some after) :
    unnumbered joined (first :: rest) = 'p' :: effectField ++ unnumbered true after := by
  rw [unnumbered]
  split
  · next other again =>
      rw [found] at again
      cases again
      rfl
  · next absent =>
      rw [found] at absent
      cases absent

theorem unnumbered_of_none {joined : Bool} {first : Char} {rest : List Char}
    (absent : afterNumberedField? joined (first :: rest) = none) :
    unnumbered joined (first :: rest) = first :: unnumbered (isWord first) rest := by
  rw [unnumbered]
  split
  · next other found =>
      rw [absent] at found
      cases found
  · rfl

section

variable {blank : Char} (isBlank : isBlank blank = true)

include isBlank

theorem unnumbered_cons_blank (joined : Bool) (text : List Char) :
    unnumbered joined (blank :: text) = blank :: unnumbered false text := by
  have ne : blank ≠ 'p' := ne_of_blank isBlank (by decide)
  rw [unnumbered_of_none (afterNumberedField?_eq_none (fun field => ne field.1) text),
    isWord_of_blank isBlank]

theorem unnumbered_append_blank (joined : Bool) (text : List Char) :
    unnumbered joined (text ++ [blank]) = unnumbered joined text ++ [blank] := by
  induction joined, text using unnumbered.induct with
  | case1 joined =>
      rw [List.nil_append, unnumbered_cons_blank isBlank, unnumbered, unnumbered]
      rfl
  | case2 joined first rest after found ih =>
      have foundToo := afterNumberedField?_append_blank isBlank joined (first :: rest)
      rw [found, List.cons_append] at foundToo
      rw [unnumbered_of_some found, List.cons_append, unnumbered_of_some foundToo, ih,
        List.append_assoc]
  | case3 joined first rest none ih =>
      have noneToo := afterNumberedField?_append_blank isBlank joined (first :: rest)
      rw [none, List.cons_append] at noneToo
      rw [unnumbered_of_none none, List.cons_append, unnumbered_of_none noneToo, ih]
      rfl

end

theorem unnumbered_blanks_append {before : List Char} (blanks : Blanks before)
    (text : List Char) :
    unnumbered false (before ++ text) = before ++ unnumbered false text := by
  induction before with
  | nil => rfl
  | cons blank before ih =>
      obtain ⟨isBlank, blanks⟩ := List.forall_mem_cons.mp blanks
      rw [List.cons_append, unnumbered_cons_blank isBlank, ih blanks]
      rfl

theorem unnumbered_append_blanks {after : List Char} (blanks : Blanks after)
    (joined : Bool) (text : List Char) :
    unnumbered joined (text ++ after) = unnumbered joined text ++ after := by
  induction after generalizing text with
  | nil => simp
  | cons blank after ih =>
      obtain ⟨isBlank, blanks⟩ := List.forall_mem_cons.mp blanks
      rw [List.append_cons, ih blanks, unnumbered_append_blank isBlank, ← List.append_cons]

theorem filter_blanks {text : List Char} (blanks : Blanks text) :
    text.filter (fun character => !isBlank character) = [] := by
  rw [List.filter_eq_nil_iff]
  intro character member
  simp [blanks character member]

theorem canonical_of_padded {text part : String} (padded : Padded text.toList part.toList) :
    canonical part = canonical text := by
  obtain ⟨before, after, blanksBefore, blanksAfter, same⟩ := padded
  rw [canonical, canonical, same, unnumbered_blanks_append blanksBefore,
    unnumbered_append_blanks blanksAfter, List.filter_append, List.filter_append,
    filter_blanks blanksBefore, filter_blanks blanksAfter, List.nil_append, List.append_nil]

theorem resolve_eq_ok {text : String} {rule : EffectRule} :
    resolve (some text) = .ok rule ↔ ofText? text = some rule := by
  unfold resolve
  rw [Option.getD_some]
  cases ofText? text <;> simp

theorem resolve_of_padded {text part : String} (padded : Padded text.toList part.toList)
    {rule : EffectRule} : resolve (some part) = .ok rule ↔ resolve (some text) = .ok rule := by
  rw [resolve_eq_ok, resolve_eq_ok, ofText?, ofText?, canonical_of_padded padded]

end EffectRule

namespace Model

theorem readEffect_eq_ok {entry : Entry} {effect : EffectSection} :
    readEffect entry = .ok effect ↔
      ∃ text, entry.definition = .text text ∧
        EffectRule.resolve (some text) = .ok effect.rule ∧ effect.text = trimmed text := by
  unfold readEffect
  split
  · next text spelled =>
      rw [spelled]
      simp only [Value.text.injEq, exists_eq_left']
      cases EffectRule.resolve (some text) with
      | error fault => simp
      | ok rule =>
          obtain ⟨effectText, effectRule⟩ := effect
          simp [and_comm, eq_comm]
  · next noText =>
      refine iff_of_false (by simp) ?_
      rintro ⟨text, spelled, -⟩
      exact absurd spelled (noText text)

theorem readMatcher_eq_ok {requests policies : List (String × Shape)} {entry : Entry}
    {result : String} :
    readMatcher requests policies entry = .ok result ↔
      ∃ text known root used, entry.definition = .text text ∧ allBlank text = false ∧
        pairedFields requests policies entry.key entry.place.suffix = .ok known ∧
        Matcher.read text = .ok (root, used) ∧ used.fields ⊆ known ∧ result = trimmed text := by
  unfold readMatcher
  constructor
  · intro reading
    split at reading
    · next text spelled =>
        split at reading
        · cases reading
        · next visible =>
            obtain ⟨known, paired, reading⟩ := Answer.bind_eq_ok.mp reading
            obtain ⟨⟨root, used⟩, parsed, reading⟩ := Answer.bind_eq_ok.mp reading
            simp only at reading
            split at reading
            · cases reading
            · next all =>
                cases reading
                have allKnown : Matcher.unknownNames used.fields (some known) = [] := by
                  rw [Bool.not_eq_true', Bool.not_eq_false, List.isEmpty_iff] at all
                  exact all
                exact ⟨text, known, root, used, spelled, by simpa using visible,
                  Answer.mapError_eq_ok.mp paired, parsed,
                  Matcher.unknownNames_eq_nil.mp allKnown known rfl, rfl⟩
    · cases reading
  · rintro ⟨text, known, root, used, spelled, visible, paired, parsed, all, rfl⟩
    rw [spelled]
    simp only [visible]
    refine Answer.bind_eq_ok.mpr ⟨known, Answer.mapError_eq_ok.mpr paired,
      Answer.bind_eq_ok.mpr ⟨(root, used), parsed, ?_⟩⟩
    have allKnown : used.fields.filter (fun name => !known.contains name) = [] :=
      @Matcher.unknownNames_eq_nil _ (some known) |>.mpr fun _ same => by
        cases same
        exact all
    simp only [allKnown]
    rfl

end Model

/-- The definition lists the tokens, or joins them with commas and white space around
them. -/
inductive Spells : List String → Value → Prop
  | list (items : List Value) : Spells (items.map Value.display) (.list items)
  | tuple (items : List Value) : Spells (items.map Value.display) (.tuple items)
  | text {tokens parts : List String}
      (padded : List.Forall₂ (fun token part => Padded token.toList part.toList) tokens parts) :
      Spells tokens (.text (",".intercalate parts))

def NoComma (token : String) : Prop :=
  ',' ∉ token.toList

theorem sectionTokens_eq_ok {key : String} {definition : Value} {tokens : List String} :
    sectionTokens key definition = .ok tokens ↔
      sectionTokens? definition = some tokens ∧ tokens ≠ [] ∧ "" ∉ tokens := by
  unfold sectionTokens
  cases sectionTokens? definition with
  | none => simp
  | some found =>
      have filled : (found.isEmpty || found.any (·.isEmpty)) = true ↔
          ¬ (found ≠ [] ∧ "" ∉ found) := by
        simp [← or_iff_not_imp_left]
      simp only [Option.some.injEq, filled]
      split
      · next empty =>
          simp only [reduceCtorEq, false_iff]
          rintro ⟨rfl, full⟩
          exact empty full
      · next full =>
          rw [not_not] at full
          simp only [Except.ok.injEq]
          constructor
          · rintro rfl
            exact ⟨rfl, full⟩
          · exact And.left

theorem map_trim_of_padded {tokens parts : List String}
    (padded : List.Forall₂ (fun token part => Padded token.toList part.toList) tokens parts) :
    parts.map (fun part => String.ofList (trim part.toList)) = tokens.map trimmed := by
  induction padded with
  | nil => rfl
  | cons first _ ih => rw [List.map_cons, List.map_cons, ih, first.trim_eq, trimmed]

theorem noComma_of_padded {tokens parts : List String}
    (padded : List.Forall₂ (fun token part => Padded token.toList part.toList) tokens parts)
    (commas : ∀ token ∈ tokens, NoComma token) : ∀ part ∈ parts, NoComma part := by
  induction padded with
  | nil => exact commas
  | cons first _ ih =>
      obtain ⟨here, later⟩ := List.forall_mem_cons.mp commas
      exact List.forall_mem_cons.mpr
        ⟨mt (first.mem_iff (by decide)).mp here, ih later⟩

theorem sectionTokens?_text {tokens parts : List String}
    (padded : List.Forall₂ (fun token part => Padded token.toList part.toList) tokens parts)
    (nonempty : tokens ≠ []) (commas : ∀ token ∈ tokens, NoComma token) :
    sectionTokens? (.text (",".intercalate parts)) = some (tokens.map trimmed) := by
  cases padded with
  | nil => exact absurd rfl nonempty
  | @cons token part tokens parts first rest =>
      have noComma : ∀ text ∈ (part :: parts).map String.toList, ',' ∉ text :=
        List.forall_mem_map.mpr (noComma_of_padded (.cons first rest) commas)
      rw [List.map_cons] at noComma
      have whole : ",".toList = [','] := rfl
      rw [sectionTokens?, String.toList_intercalate, whole, List.map_cons,
        splitAt_intercalate noComma, ← List.map_cons (f := String.toList), List.map_map]
      exact congrArg _ (map_trim_of_padded (.cons first rest))

theorem sectionTokens?_of_spells {tokens : List String} {definition : Value}
    (spells : Spells tokens definition) (nonempty : tokens ≠ [])
    (commas : definition.isText = true → ∀ token ∈ tokens, NoComma token) :
    sectionTokens? definition = some (tokens.map trimmed) := by
  cases spells with
  | list items => rw [sectionTokens?, List.map_map]; rfl
  | tuple items => rw [sectionTokens?, List.map_map]; rfl
  | text padded => exact sectionTokens?_text padded nonempty (commas rfl)

/-- Two definitions list or join the same tokens. Those of a text have no commas within. -/
def Respells (definition other : Value) : Prop :=
  ∃ tokens, Spells tokens definition ∧ Spells tokens other ∧
    (definition.isText = true → ∀ token ∈ tokens, NoComma token)

section

variable {key : String} {definition other : Value} {tokens read : List String}

theorem Spells.ne_nil (spells : Spells tokens definition)
    (reading : sectionTokens key definition = .ok read) : tokens ≠ [] := by
  obtain ⟨found, nonempty, full⟩ := sectionTokens_eq_ok.mp reading
  rintro rfl
  generalize noNames : ([] : List String) = names at spells
  cases spells with
  | list items | tuple items =>
      cases List.map_eq_nil_iff.mp noNames.symm
      cases found
      exact nonempty rfl
  | text padded =>
      subst noNames
      cases padded
      cases found
      exact full (List.mem_singleton_self _)

theorem sectionTokens_of_respells (respells : Respells definition other)
    (reading : sectionTokens key definition = .ok read)
    (commas : ∀ token ∈ read, NoComma token) : sectionTokens key other = .ok read := by
  obtain ⟨tokens, spells, spellsToo, within⟩ := respells
  have nonempty := spells.ne_nil reading
  obtain ⟨found, filled⟩ := sectionTokens_eq_ok.mp reading
  rw [sectionTokens?_of_spells spells nonempty within] at found
  cases found
  have separate : ∀ token ∈ tokens, NoComma token := by
    intro token member
    have trimmedFree := commas _ (List.mem_map_of_mem member)
    rw [NoComma, trimmed, String.toList_ofList] at trimmedFree
    exact mt ((padded_trim token.toList).mem_iff (by decide)).mp trimmedFree
  exact sectionTokens_eq_ok.mpr
    ⟨sectionTokens?_of_spells spellsToo nonempty fun _ => separate, filled⟩

theorem trimmed_of_sectionTokens? (reading : sectionTokens? definition = some read) :
    ∀ token ∈ read, trimmed token = token := by
  have trims : ∀ text : List Char, trimmed (String.ofList (trim text)) =
      String.ofList (trim text) := by
    intro text
    rw [trimmed, String.toList_ofList, trim_trim]
  unfold sectionTokens? at reading
  split at reading
  · cases reading
    exact List.forall_mem_map.mpr fun text _ => trims text
  · cases reading
    exact List.forall_mem_map.mpr fun item _ => trims _
  · cases reading
    exact List.forall_mem_map.mpr fun item _ => trims _
  · cases reading

theorem append_intercalate (separator start first : String) (rest : List String) :
    separator.intercalate ((start ++ first) :: rest) =
      start ++ separator.intercalate (first :: rest) := by
  cases rest with
  | nil => rw [String.intercalate_singleton, String.intercalate_singleton]
  | cons next rest =>
      rw [String.intercalate_cons_cons, String.intercalate_cons_cons]
      simp only [String.append_assoc]

theorem intercalate_comma_space (first : String) (rest : List String) :
    ", ".intercalate (first :: rest) = ",".intercalate (first :: rest.map (" " ++ ·)) := by
  induction rest generalizing first with
  | nil => rw [List.map_nil, String.intercalate_singleton, String.intercalate_singleton]
  | cons next rest ih =>
      have mark : ", " = "," ++ " " := rfl
      rw [List.map_cons, String.intercalate_cons_cons, String.intercalate_cons_cons,
        append_intercalate, ih, mark]
      simp only [String.append_assoc]

theorem sectionTokens_joined (reading : sectionTokens key definition = .ok read)
    (commas : ∀ token ∈ read, NoComma token) :
    sectionTokens key (.text (", ".intercalate read)) = .ok read := by
  obtain ⟨found, nonempty, full⟩ := sectionTokens_eq_ok.mp reading
  obtain ⟨first, rest, rfl⟩ := List.exists_cons_of_ne_nil nonempty
  have padded : List.Forall₂ (fun token part => Padded token.toList part.toList)
      (first :: rest) (first :: rest.map (" " ++ ·)) := by
    refine .cons (padded_self _) (List.forall₂_map_right_iff.mpr (List.forall₂_same.mpr ?_))
    intro token _
    rw [String.toList_append]
    exact padded_cons (by decide) _
  rw [intercalate_comma_space, sectionTokens_eq_ok, sectionTokens?_text padded nonempty commas]
  have same : (first :: rest).map trimmed = first :: rest :=
    List.map_congr_left (trimmed_of_sectionTokens? found) |>.trans (List.map_id _)
  exact ⟨congrArg _ same, nonempty, full⟩

theorem noComma_of_isFieldName {token : String} (isName : isFieldName token = true) :
    NoComma token := by
  have start : isIdentifierStart ',' = false := by decide
  have part : isIdentifierPart ',' = false := by decide
  simp only [isFieldName, isIdentifier, Bool.and_eq_true] at isName
  intro member
  split at isName
  · next empty =>
      rw [empty] at member
      cases member
  · next first rest spelled =>
      obtain ⟨isStart, areParts⟩ := Bool.and_eq_true_iff.mp isName.1
      rw [spelled] at member
      rcases List.mem_cons.mp member with rfl | later
      · rw [start] at isStart
        cases isStart
      · have isPart := List.all_eq_true.mp areParts _ later
        rw [part] at isPart
        cases isPart

theorem isFieldName_of_fieldFault? {seen : List String}
    (faultless : fieldFault? key seen tokens = none) : ∀ token ∈ tokens, isFieldName token = true := by
  induction tokens generalizing seen with
  | nil => nofun
  | cons token tokens ih =>
      rw [fieldFault?] at faultless
      split at faultless
      · cases faultless
      · next isName =>
          split at faultless
          · cases faultless
          · exact List.forall_mem_cons.mpr ⟨by simpa using isName, ih faultless⟩

theorem Shape.read_eq_ok {shape : Shape} :
    Shape.read key definition = .ok shape ↔
      sectionTokens key definition = .ok shape ∧ fieldFault? key [] shape = none := by
  unfold Shape.read
  constructor
  · intro reading
    obtain ⟨tokens, found, reading⟩ := Answer.bind_eq_ok.mp reading
    split at reading
    · cases reading
    · next faultless =>
        cases reading
        exact ⟨found, faultless⟩
  · rintro ⟨found, faultless⟩
    refine Answer.bind_eq_ok.mpr ⟨shape, found, ?_⟩
    rw [faultless]
    rfl

theorem RoleScope.read_eq_ok {scope : RoleScope} :
    RoleScope.read key definition = .ok scope ↔
      sectionTokens key definition = .ok (List.replicate scope.arity placeholder) := by
  unfold RoleScope.read
  constructor
  · intro reading
    obtain ⟨tokens, found, reading⟩ := Answer.bind_eq_ok.mp reading
    simp only at reading
    by_cases other : (tokens.any (· != placeholder)) = true
    · rw [if_pos other] at reading
      cases reading
    · rw [if_neg other] at reading
      have all : ∀ token ∈ tokens, token = placeholder := by simpa using other
      have same : tokens = List.replicate tokens.length placeholder :=
        List.eq_replicate_iff.mpr ⟨rfl, all⟩
      rw [found, same]
      split at reading
      · next two =>
          cases reading
          rw [two]
          rfl
      · next three =>
          cases reading
          rw [three]
          rfl
      · cases reading
  · intro found
    refine Answer.bind_eq_ok.mpr ⟨_, found, ?_⟩
    cases scope <;> rfl

theorem Shape.noComma {shape : Shape} (faultless : fieldFault? key [] shape = none) :
    ∀ token ∈ shape, NoComma token :=
  fun token member => noComma_of_isFieldName (isFieldName_of_fieldFault? faultless token member)

theorem RoleScope.noComma (scope : RoleScope) :
    ∀ token ∈ List.replicate scope.arity placeholder, NoComma token := by
  intro token member
  rw [List.eq_of_mem_replicate member]
  exact noComma_of_isFieldName (by decide)

theorem Shape.read_of_respells {shape : Shape} (respells : Respells definition other)
    (reading : Shape.read key definition = .ok shape) : Shape.read key other = .ok shape := by
  obtain ⟨found, faultless⟩ := Shape.read_eq_ok.mp reading
  exact Shape.read_eq_ok.mpr
    ⟨sectionTokens_of_respells respells found (Shape.noComma faultless), faultless⟩

theorem Shape.read_joined {shape : Shape} (reading : Shape.read key definition = .ok shape) :
    Shape.read key (.text (", ".intercalate shape)) = .ok shape := by
  obtain ⟨found, faultless⟩ := Shape.read_eq_ok.mp reading
  exact Shape.read_eq_ok.mpr ⟨sectionTokens_joined found (Shape.noComma faultless), faultless⟩

theorem RoleScope.read_of_respells {scope : RoleScope} (respells : Respells definition other)
    (reading : RoleScope.read key definition = .ok scope) :
    RoleScope.read key other = .ok scope :=
  RoleScope.read_eq_ok.mpr
    (sectionTokens_of_respells respells (RoleScope.read_eq_ok.mp reading) scope.noComma)

theorem RoleScope.read_joined {scope : RoleScope}
    (reading : RoleScope.read key definition = .ok scope) :
    RoleScope.read key (.text (", ".intercalate
      (List.replicate scope.arity placeholder))) = .ok scope :=
  RoleScope.read_eq_ok.mpr
    (sectionTokens_joined (RoleScope.read_eq_ok.mp reading) scope.noComma)

end

namespace Model

theorem padded_trimmed (text : String) : Padded (trimmed text).toList text.toList := by
  rw [trimmed, String.toList_ofList]
  exact padded_trim _

theorem readEffect_trimmed {entry : Entry} {effect : EffectSection}
    (reading : readEffect entry = .ok effect) :
    readEffect { entry with definition := .text effect.text } = .ok effect := by
  obtain ⟨text, -, resolved, same⟩ := readEffect_eq_ok.mp reading
  refine readEffect_eq_ok.mpr ⟨effect.text, rfl, ?_, ?_⟩
  · rw [same]
    exact (EffectRule.resolve_of_padded (padded_trimmed text)).mp resolved
  · rw [same, trimmed_trimmed]

theorem readMatcher_trimmed {requests policies : List (String × Shape)} {entry : Entry}
    {result : String} (reading : readMatcher requests policies entry = .ok result) :
    readMatcher requests policies { entry with definition := .text result } = .ok result := by
  obtain ⟨text, known, root, used, -, visible, paired, parsed, all, rfl⟩ :=
    readMatcher_eq_ok.mp reading
  refine readMatcher_eq_ok.mpr ⟨_, known, root, used, rfl, ?_, paired, ?_, all, ?_⟩
  · rw [Bool.eq_false_iff, ne_eq, allBlank_iff] at visible ⊢
    exact fun blanks => visible ((padded_trimmed text).blanks_iff.mpr blanks)
  · exact (Matcher.read_of_padded (padded_trimmed text)).mp parsed
  · exact (trimmed_trimmed text).symm

end Model

end AccessControl
