import AccessControl.Proofs.Model.Keys
import AccessControl.Proofs.Model.Spelling

namespace AccessControl.Model

open Text

def TakesTokens (key : String) : Prop :=
  IsKeyOf .request key ∨ IsKeyOf .policy key ∨ IsKeyOf .role key

theorem TakesTokens.kind_ne {key : String} (takes : TakesTokens key) {place : SectionKey}
    (read : SectionKey.ofText? key = some place) :
    place.kind ≠ .effect ∧ place.kind ≠ .matcher := by
  have kinds : ∀ {kind}, IsKeyOf kind key → place.kind = kind := by
    rintro kind ⟨suffix, again⟩
    rw [read] at again
    exact congrArg SectionKey.kind (Option.some.inj again)
  rcases takes with isKey | isKey | isKey <;> rw [kinds isKey] <;> exact ⟨nofun, nofun⟩

/-- A part with the same key and the same definition, or one that spells the same tokens. -/
structure Respelled (part other : Value × Value) : Prop where
  key : other.1 = part.1
  definition : other.2 = part.2 ∨
    (∃ key, part.1 = .text key ∧ TakesTokens key) ∧ Respells part.2 other.2

theorem Respelled.refl (part : Value × Value) : Respelled part part :=
  ⟨rfl, .inl rfl⟩

/-- What is read from an entry is read from the other one too. -/
structure Entry.Follows (entry other : Entry) : Prop where
  key : other.key = entry.key
  place : other.place = entry.place
  definition : other.definition = entry.definition ∨
    (entry.place.kind ≠ .effect ∧ entry.place.kind ≠ .matcher) ∧
      Respells entry.definition other.definition

theorem Entry.Follows.eq {entry other : Entry} (follows : Entry.Follows entry other)
    (whole : entry.place.kind = .effect ∨ entry.place.kind = .matcher) : other = entry := by
  obtain ⟨sameKey, samePlace, definition⟩ := follows
  rcases definition with same | ⟨⟨noEffect, noMatcher⟩, -⟩
  · cases other
    cases entry
    cases sameKey
    cases samePlace
    cases same
    rfl
  · exact absurd whole (not_or.mpr ⟨noEffect, noMatcher⟩)

theorem Entry.Follows.shape {entry other : Entry} (follows : Entry.Follows entry other)
    {shape : Shape}
    (reading : (Shape.read entry.key entry.definition).mapError Failure.model = .ok shape) :
    (Shape.read other.key other.definition).mapError Failure.model = .ok shape := by
  rw [Answer.mapError_eq_ok] at reading ⊢
  rw [follows.key]
  rcases follows.definition with same | ⟨-, respells⟩
  · rwa [same]
  · exact Shape.read_of_respells respells reading

theorem Entry.Follows.scope {entry other : Entry} (follows : Entry.Follows entry other)
    {scope : RoleScope}
    (reading : (RoleScope.read entry.key entry.definition).mapError Failure.model =
      .ok scope) :
    (RoleScope.read other.key other.definition).mapError Failure.model = .ok scope := by
  rw [Answer.mapError_eq_ok] at reading ⊢
  rw [follows.key]
  rcases follows.definition with same | ⟨-, respells⟩
  · rwa [same]
  · exact RoleScope.read_of_respells respells reading

theorem readKind_of_follows {α : Type} {found others : List Entry} {kind : Section}
    {read : Entry → Answer α} {results : List (String × α)}
    (follows : List.Forall₂ Entry.Follows found others)
    (reads : ∀ {entry other value}, entry.place.kind = kind → Entry.Follows entry other →
      read entry = .ok value → read other = .ok value)
    (done : readKind found kind read = .ok results) :
    readKind others kind read = .ok results := by
  rw [readKind_eq_ok] at done ⊢
  have kept : List.Forall₂ Entry.Follows (found.filter (·.place.kind == kind))
      (others.filter (·.place.kind == kind)) :=
    List.rel_filter (fun _ _ pair => iff_of_eq
      (congrArg (fun place => (SectionKey.kind place == kind) = true) pair.place.symm)) follows
  have kinds : ∀ entry ∈ found.filter (·.place.kind == kind), entry.place.kind = kind :=
    fun entry member => beq_iff_eq.mp (List.mem_filter.mp member).2
  clear follows
  generalize found.filter (·.place.kind == kind) = entries at *
  generalize others.filter (·.place.kind == kind) = laterEntries at *
  induction kept generalizing results with
  | nil => exact done
  | cons pair _ ih =>
      obtain ⟨isKind, kinds⟩ := List.forall_mem_cons.mp kinds
      obtain ⟨result, rest, ⟨sameKey, reading⟩, later, rfl⟩ :=
        List.forall₂_cons_left_iff.mp done
      exact .cons ⟨sameKey.trans pair.key.symm, reads isKind pair reading⟩ (ih later kinds)

theorem Loads.of_follows {found others : List Entry} {model : Model}
    (loads : Loads found model) (follows : List.Forall₂ Entry.Follows found others) :
    Loads others model where
  required := by
    have keys : others.map (·.key) = found.map (·.key) := by
      clear loads
      induction follows with
      | nil => rfl
      | cons pair _ ih => rw [List.map_cons, List.map_cons, pair.key, ih]
    rw [checkRequired_eq_ok, keys]
    exact checkRequired_eq_ok.mp loads.required
  requests := readKind_of_follows follows (fun _ pair => pair.shape) loads.requests
  policies := readKind_of_follows follows (fun _ pair => pair.shape) loads.policies
  roles := readKind_of_follows follows (fun _ pair => pair.scope) loads.roles
  effects := readKind_of_follows follows
    (fun isKind pair reading => pair.eq (.inl isKind) ▸ reading) loads.effects
  matchers := readKind_of_follows follows
    (fun isKind pair reading => pair.eq (.inr isKind) ▸ reading) loads.matchers

theorem eq_text_of_same {value : Value} {key : String} (same : value.same (.text key) = true) :
    value = .text key := by
  cases value <;>
    simp_all [Value.same, Value.equal, Value.sameFloat, Value.numericEqual, Value.position?]

theorem Respelled.put {first part other : Value × Value} (newer : Respelled part other)
    (same : first.1.same part.1 = true) :
    Respelled (first.1, part.2) (first.1, other.2) := by
  refine ⟨rfl, newer.definition.imp id ?_⟩
  rintro ⟨⟨key, isKey, takes⟩, respells⟩
  rw [isKey] at same
  exact ⟨⟨key, eq_text_of_same same, takes⟩, respells⟩

theorem putEntry_respelled {definition others : List (Value × Value)}
    {part other : Value × Value} (respelled : List.Forall₂ Respelled definition others)
    (newer : Respelled part other) :
    List.Forall₂ Respelled (putEntry part.1 part.2 definition)
      (putEntry other.1 other.2 others) := by
  induction respelled with
  | nil => exact .cons ⟨newer.key, newer.definition⟩ .nil
  | @cons first second rest laterRest older later ih =>
      rw [putEntry, putEntry, older.key, newer.key]
      split
      · next same => exact .cons (newer.put same) later
      · rw [newer.key] at ih
        exact .cons older ih

theorem putEntries_respelled {given others : List (Value × Value)}
    (respelled : List.Forall₂ Respelled given others) :
    List.Forall₂ Respelled
      (given.foldl (fun entries entry => putEntry entry.1 entry.2 entries) [])
      (others.foldl (fun entries entry => putEntry entry.1 entry.2 entries) []) :=
  List.rel_foldl (fun _ _ older part other (newer : Respelled part other) =>
    putEntry_respelled older newer) .nil respelled

theorem exists_follows {definition others : List (Value × Value)} {found : List Entry}
    (respelled : List.Forall₂ Respelled definition others)
    (parts : List.Forall₂ Entry.Of definition found) :
    ∃ later, List.Forall₂ Entry.Of others later ∧
      List.Forall₂ Entry.Follows found later := by
  induction respelled generalizing found with
  | nil =>
      cases parts
      exact ⟨[], .nil, .nil⟩
  | @cons part other _ _ pair _ ih =>
      obtain ⟨entry, rest, isPart, restParts, rfl⟩ := List.forall₂_cons_left_iff.mp parts
      obtain ⟨later, laterParts, follows⟩ := ih restParts
      refine ⟨⟨entry.key, entry.place, other.2⟩ :: later, .cons ⟨?_, rfl, isPart.place⟩ laterParts,
        .cons ⟨rfl, rfl, ?_⟩ follows⟩
      · rw [pair.key, isPart.key]
      · rcases pair.definition with same | ⟨⟨key, isKey, takes⟩, respells⟩
        · exact .inl (same.trans isPart.definition)
        · rw [isPart.key] at isKey
          cases isKey
          exact .inr ⟨takes.kind_ne isPart.place, isPart.definition ▸ respells⟩

theorem load_respelled {definition others : List (Value × Value)} {model : Model}
    (respelled : List.Forall₂ Respelled definition others)
    (loaded : load definition = .ok model) : load others = .ok model := by
  obtain ⟨found, parts, loads⟩ := load_eq_ok.mp loaded
  obtain ⟨later, laterParts, follows⟩ := exists_follows respelled parts
  exact load_eq_ok.mpr ⟨later, laterParts, loads.of_follows follows⟩

/-- A definition that spells the tokens of its sections in another way gives the same
model. -/
theorem ofEntries_respelled {given others : List (Value × Value)} {model : Model}
    (respelled : List.Forall₂ Respelled given others)
    (loaded : ofEntries given = .ok model) : ofEntries others = .ok model := by
  have keys : (others.all fun entry => entry.1.hashable) =
      given.all fun entry => entry.1.hashable := by
    clear loaded
    induction respelled with
    | nil => rfl
    | cons pair _ ih => rw [List.all_cons, List.all_cons, pair.key, ih]
  unfold ofEntries at loaded ⊢
  rw [keys]
  split at loaded
  · next hashable =>
      rw [if_pos hashable]
      exact load_respelled (putEntries_respelled respelled) loaded
  · cases loaded

def written (model : Model) : Section → List (String × String)
  | .request => model.requests.map fun entry => (entry.1, ", ".intercalate entry.2)
  | .policy => model.policies.map fun entry => (entry.1, ", ".intercalate entry.2)
  | .role => model.roles.map fun entry =>
      (entry.1, ", ".intercalate (List.replicate entry.2.arity RoleScope.placeholder))
  | .effect => model.effects.map fun entry => (entry.1, entry.2.text)
  | .matcher => model.matchers

def kinds : List Section :=
  [.request, .policy, .role, .effect, .matcher]

theorem definition_eq (model : Model) : model.definition = kinds.flatMap model.written := by
  simp [definition, kinds, written]

def entryOf (line : String × String) : Entry :=
  { key := line.1
    place := (SectionKey.ofText? line.1).getD ⟨.request, ""⟩
    definition := .text line.2 }

theorem entryOf_eq {entry : Entry} (place : SectionKey.ofText? entry.key = some entry.place)
    (text : String) :
    entryOf (entry.key, text) = { entry with definition := .text text } := by
  rw [entryOf, place]
  rfl

section

variable {definition : List (Value × Value)} {found : List Entry} {model : Model}

theorem Keyed.written (keyed : model.Keyed) (kind : Section) :
    ∀ line ∈ model.written kind, IsKeyOf kind line.1 := by
  cases kind with
  | request => exact List.forall_mem_map.mpr keyed.requests
  | policy => exact List.forall_mem_map.mpr keyed.policies
  | role => exact List.forall_mem_map.mpr keyed.roles
  | effect => exact List.forall_mem_map.mpr keyed.effects
  | matcher => exact keyed.matchers

theorem IsKeyOf.kind_entryOf {kind : Section} {line : String × String}
    (isKey : IsKeyOf kind line.1) : (entryOf line).place.kind = kind := by
  obtain ⟨suffix, read⟩ := isKey
  rw [entryOf, read]
  rfl

theorem Keyed.filter_definition (keyed : model.Keyed) (kind : Section) :
    model.definition.filter (fun line => (entryOf line).place.kind == kind) =
      model.written kind := by
  have each : ∀ other, (model.written other).filter
      (fun line => (entryOf line).place.kind == kind) =
        if other = kind then model.written other else [] := by
    intro other
    split
    · next same =>
        rw [List.filter_eq_self]
        intro line member
        rw [(keyed.written other line member).kind_entryOf, same, beq_self_eq_true]
    · next different =>
        rw [List.filter_eq_nil_iff]
        intro line member
        rw [(keyed.written other line member).kind_entryOf, beq_iff_eq]
        exact different
  rw [definition_eq, List.filter_flatMap]
  simp only [each]
  cases kind <;> simp [kinds]

theorem parts_definition (keyed : model.Keyed) :
    List.Forall₂ Entry.Of
      (model.definition.map fun line => (.text line.1, .text line.2))
      (model.definition.map entryOf) := by
  rw [List.forall₂_map_left_iff, List.forall₂_map_right_iff, List.forall₂_same]
  intro line member
  rw [definition_eq, List.mem_flatMap] at member
  obtain ⟨kind, -, member⟩ := member
  obtain ⟨suffix, read⟩ := keyed.written kind line member
  refine ⟨rfl, rfl, ?_⟩
  rw [entryOf, read]
  rfl

theorem readKind_written {α : Type} {kind : Section} {read : Entry → Answer α}
    {results : List (String × α)} {print : α → String} (keyed : model.Keyed)
    (parts : List.Forall₂ Entry.Of definition found)
    (lines : model.written kind = results.map fun result => (result.1, print result.2))
    (again : ∀ {entry value}, read entry = .ok value →
      read { entry with definition := .text (print value) } = .ok value)
    (done : readKind found kind read = .ok results) :
    readKind (model.definition.map entryOf) kind read = .ok results := by
  have each : ∀ result ∈ results, read (entryOf (result.1, print result.2)) = .ok result.2 := by
    intro result member
    obtain ⟨entry, inside, step⟩ := Answer.mem_of_mapM done member
    obtain ⟨value, reading, whole⟩ := Answer.bind_eq_ok.mp step
    cases whole
    rw [entryOf_eq (places_of_entries parts entry (List.mem_of_mem_filter inside))]
    exact again reading
  have kept : (model.definition.map entryOf).filter (·.place.kind == kind) =
      (model.written kind).map entryOf := by
    rw [List.filter_map, ← keyed.filter_definition kind]
    rfl
  rw [readKind_eq_ok, kept, lines, List.forall₂_map_left_iff, List.forall₂_map_left_iff,
    List.forall₂_same]
  exact fun result member => ⟨rfl, each result member⟩

theorem keys_written (loads : Loads found model) (kind : Section) :
    (model.written kind).map (·.1) =
      (found.filter (·.place.kind == kind)).map (·.key) := by
  cases kind with
  | request =>
      rw [written, List.map_map]
      exact keys_of_readKind loads.requests
  | policy =>
      rw [written, List.map_map]
      exact keys_of_readKind loads.policies
  | role =>
      rw [written, List.map_map]
      exact keys_of_readKind loads.roles
  | effect =>
      rw [written, List.map_map]
      exact keys_of_readKind loads.effects
  | matcher => exact keys_of_readKind loads.matchers

theorem required_written (parts : List.Forall₂ Entry.Of definition found)
    (loads : Loads found model) :
    checkRequired (model.definition.map entryOf) Section.required = .ok () := by
  rw [checkRequired_eq_ok]
  intro kind isRequired
  have present := checkRequired_eq_ok.mp loads.required kind isRequired
  obtain ⟨entry, member, same⟩ := List.mem_map.mp present
  have read : SectionKey.ofText? (kind.key "") = some ⟨kind, ""⟩ := by
    cases kind <;> decide +kernel
  have place := places_of_entries parts entry member
  rw [same, read] at place
  have listed : kind.key "" ∈ (model.written kind).map (·.1) := by
    rw [keys_written loads, ← same]
    refine List.mem_map_of_mem (List.mem_filter.mpr ⟨member, ?_⟩)
    rw [← Option.some.inj place, beq_self_eq_true]
  obtain ⟨line, written, isKey⟩ := List.mem_map.mp listed
  rw [List.map_map, definition_eq]
  refine List.mem_map.mpr ⟨line, List.mem_flatMap.mpr ⟨kind, ?_, written⟩, isKey⟩
  cases kind <;> simp [kinds]

theorem Loads.written (parts : List.Forall₂ Entry.Of definition found)
    (loads : Loads found model) (keyed : model.Keyed) :
    Loads (model.definition.map entryOf) model where
  required := required_written parts loads
  requests := readKind_written keyed parts rfl
    (fun reading => Answer.mapError_eq_ok.mpr (Shape.read_joined
      (Answer.mapError_eq_ok.mp reading))) loads.requests
  policies := readKind_written keyed parts rfl
    (fun reading => Answer.mapError_eq_ok.mpr (Shape.read_joined
      (Answer.mapError_eq_ok.mp reading))) loads.policies
  roles := readKind_written keyed parts rfl
    (fun reading => Answer.mapError_eq_ok.mpr (RoleScope.read_joined
      (Answer.mapError_eq_ok.mp reading))) loads.roles
  effects := readKind_written keyed parts rfl readEffect_trimmed loads.effects
  matchers := @readKind_written _ _ _ _ _ _ _ id keyed parts (List.map_id _).symm
    readMatcher_trimmed loads.matchers

end

theorem putEntry_of_apart {definition : List (Value × Value)} {key value : Value}
    (apart : ∀ part ∈ definition, part.1.same key = false) :
    putEntry key value definition = definition ++ [(key, value)] := by
  induction definition with
  | nil => rfl
  | cons first rest ih =>
      obtain ⟨here, later⟩ := List.forall_mem_cons.mp apart
      rw [putEntry, here, if_neg Bool.false_ne_true, ih later]
      rfl

theorem putEntries_of_apart {earlier given : List (Value × Value)}
    (apart : Apart (earlier ++ given)) :
    given.foldl (fun entries entry => putEntry entry.1 entry.2 entries) earlier =
      earlier ++ given := by
  induction given generalizing earlier with
  | nil => simp
  | cons part given ih =>
      have others : ∀ other ∈ earlier, other.1.same part.1 = false := fun other member =>
        (List.pairwise_append.mp apart).2.2 other member part List.mem_cons_self
      rw [List.append_cons] at apart ⊢
      rw [List.foldl_cons, putEntry_of_apart others]
      exact ih apart

theorem apart_of_nodup {lines : List (String × String)} (nodup : (Entries.keys lines).Nodup) :
    Apart (lines.map fun line => (.text line.1, .text line.2)) := by
  refine List.pairwise_map.mpr ((List.pairwise_map.mp nodup).imp ?_)
  intro line other different
  simpa [Value.same, Value.equal, Value.sameFloat] using different

theorem ofEntries_of_nodup {lines : List (String × String)}
    (nodup : (Entries.keys lines).Nodup) :
    ofEntries (lines.map fun line => (.text line.1, .text line.2)) =
      load (lines.map fun line => (.text line.1, .text line.2)) := by
  have hashable : ((lines.map fun line => ((.text line.1, .text line.2) : Value × Value)).all
      fun entry => entry.1.hashable) = true := by
    simp [Value.hashable]
  rw [ofEntries, if_pos hashable, putEntries_of_apart (apart_of_nodup nodup)]
  rfl

theorem nodup_keys_definition {definition : List (Value × Value)} {found : List Entry}
    {model : Model} (apart : Apart definition)
    (parts : List.Forall₂ Entry.Of definition found) (loads : Loads found model)
    (keyed : model.Keyed) : (Entries.keys model.definition).Nodup := by
  rw [Entries.keys, definition_eq, List.map_flatMap, List.nodup_flatMap]
  constructor
  · intro kind _
    rw [keys_written loads]
    exact (nodup_keys_of_entries parts apart).sublist (List.filter_sublist.map _)
  · have different : kinds.Nodup := by decide
    refine different.imp ?_
    intro kind other different key member memberToo
    obtain ⟨line, inside, rfl⟩ := List.mem_map.mp member
    obtain ⟨lineToo, insideToo, same⟩ := List.mem_map.mp memberToo
    exact different ((keyed.written kind line inside).kind_eq
      (same ▸ keyed.written other lineToo insideToo))

/-- A model is read again from its definition, which has no key twice; and it is read from
every definition that spells the tokens of its requests, policies and roles in another
way, as a list or joined with commas and white space. -/
theorem ofEntries_definition {given : List (Value × Value)} {model : Model}
    (accepted : ofEntries given = .ok model) :
    (Entries.keys model.definition).Nodup ∧
    (∃ again, ofEntries (model.definition.map fun line => (.text line.1, .text line.2)) =
        .ok again ∧
      ofValue (.mapping (model.definition.map fun line => (line.1, .text line.2))) =
        .ok again ∧
      again = model ∧ again.definition = model.definition) ∧
    ∀ others, List.Forall₂ Respelled given others → ofEntries others = .ok model := by
  obtain ⟨definition, loaded, apart⟩ := Defined.apart ⟨given, accepted⟩
  obtain ⟨found, parts, loads⟩ := load_eq_ok.mp loaded
  have keyed : model.Keyed := Read.keyed ⟨definition, loaded⟩
  have nodup := nodup_keys_definition apart parts loads keyed
  have again : load (model.definition.map fun line => (.text line.1, .text line.2)) =
      .ok model :=
    load_eq_ok.mpr ⟨_, parts_definition keyed, loads.written parts keyed⟩
  refine ⟨nodup, ⟨model, ?_, ?_, rfl, rfl⟩, fun others respelled =>
    ofEntries_respelled respelled accepted⟩
  · rw [ofEntries_of_nodup nodup]
    exact again
  · rw [ofValue, List.map_map]
    exact again

namespace Sample

def spaced : Model :=
  { requests := [("r", ["sub", "obj"])]
    policies := [("p", ["sub", "eft"])]
    roles := [("g", .everywhere)]
    effects := [("e", ⟨"some( where (p1.eft == allow))", .allowOverride⟩)]
    matchers := [("m", "g(r.sub, p.sub) && r.obj != ' '")] }

def spacedParts (request role : Value) : List (Value × Value) :=
  [(.text "m", .text "\tg(r.sub, p.sub) && r.obj != ' ' "), (.text "r", request),
    (.text "g", role), (.text "p", .tuple [.text "sub ", .text " eft"]),
    (.text "e", .text " some( where (p1.eft == allow)) ")]

theorem ofEntries_spacedParts :
    ofEntries (spacedParts (.text " sub,obj ") (.list [.text "_", .text "_"])) = .ok spaced :=
  Answer.eq_ok_of_gives (by decide +kernel)

theorem respells_request :
    Respells (.text " sub,obj ") (.list [.text "sub", .text "obj"]) := by
  refine ⟨["sub", "obj"], ?_, .list [.text "sub", .text "obj"], fun _ => ?_⟩
  · refine @Spells.text ["sub", "obj"] [" sub", "obj "] (.cons ?_ (.cons ?_ .nil))
    · exact padded_cons (by decide +kernel) _
    · exact ⟨[], [' '], nofun, by simp [Blanks]; decide +kernel, rfl⟩
  · simp [NoComma]

theorem respells_role :
    Respells (.list [.text "_", .text "_"]) (.text "_,\t_") :=
  ⟨["_", "_"], .list [.text "_", .text "_"], @Spells.text ["_", "_"] ["_", "\t_"]
    (.cons (padded_self _) (.cons (padded_cons (by decide +kernel) _) .nil)), nofun⟩

end Sample

theorem ofEntries_definition_spaced :
    ofEntries (Sample.spaced.definition.map fun line => (.text line.1, .text line.2)) =
      .ok Sample.spaced ∧
    ofEntries (Sample.spacedParts (.list [.text "sub", .text "obj"]) (.text "_,\t_")) =
      .ok Sample.spaced := by
  obtain ⟨-, ⟨again, loaded, -, same, -⟩, spelled⟩ :=
    ofEntries_definition Sample.ofEntries_spacedParts
  refine ⟨same ▸ loaded, spelled _ (.cons (.refl _) (.cons ⟨rfl, .inr ⟨?_, ?_⟩⟩
    (.cons ⟨rfl, .inr ⟨?_, ?_⟩⟩ (.cons (.refl _) (.cons (.refl _) .nil)))))⟩
  · exact ⟨"r", rfl, .inl ⟨"", by decide +kernel⟩⟩
  · exact Sample.respells_request
  · exact ⟨"g", rfl, .inr (.inr ⟨"", by decide +kernel⟩)⟩
  · exact Sample.respells_role

end AccessControl.Model
