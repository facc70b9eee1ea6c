import AccessControl.Enforcer.Context
import AccessControl.Model.Basic
import AccessControl.Proofs.Answer
import AccessControl.Proofs.Entries
import AccessControl.Proofs.Text.Parts
import Mathlib.Data.List.Nodup

namespace AccessControl

/-! Keys of models that were read: a letter and a number. No such key holds a
bar, so that the keys of contexts tell the contexts. -/

open Text

namespace Model

def Read (model : Model) : Prop :=
  ∃ definition, load definition = .ok model

def IsKey (key : String) : Prop :=
  ∃ place, SectionKey.ofText? key = some place

def IsKeyOf (kind : Section) (key : String) : Prop :=
  ∃ suffix, SectionKey.ofText? key = some ⟨kind, suffix⟩

theorem IsKeyOf.isKey {kind : Section} {key : String} (isKey : IsKeyOf kind key) : IsKey key := by
  obtain ⟨suffix, read⟩ := isKey
  exact ⟨_, read⟩

theorem IsKeyOf.kind_eq {kind other : Section} {key : String} (first : IsKeyOf kind key)
    (second : IsKeyOf other key) : kind = other := by
  obtain ⟨suffix, read⟩ := first
  obtain ⟨otherSuffix, readOther⟩ := second
  rw [read] at readOther
  exact congrArg SectionKey.kind (Option.some.inj readOther)

/-- A letter, decimal digits, and one of the endings. -/
structure KeyOf (endings : List String) (kind : Section) (suffix : String) (key : Value) :
    Prop where
  digits : ∀ digit ∈ suffix.toList, isDecimal digit = true
  spelled : ∃ ending ∈ endings, key = .text (kind.key suffix ++ ending)

/-- A line break may end a key. -/
def keyEndings : List String := ["", "\n"]

theorem ofLetter?_eq_some {letter : Char} {kind : Section} :
    Section.ofLetter? letter = some kind ↔ letter = kind.letter := by
  constructor
  · intro found
    have same := List.find?_some found
    exact (beq_iff_eq.mp same).symm
  · rintro rfl
    cases kind <;> rfl

theorem toList_sectionKey (kind : Section) (suffix : String) :
    (kind.key suffix).toList = kind.letter :: suffix.toList := by
  simp [Section.key, Char.toString]

theorem ofText?_eq_some {key suffix : String} {kind : Section} :
    SectionKey.ofText? key = some ⟨kind, suffix⟩ ↔ KeyOf keyEndings kind suffix (.text key) := by
  unfold SectionKey.ofText?
  constructor
  · intro read
    split at read
    · cases read
    · next letter rest spelled =>
        simp only [Option.ite_none_right_eq_some, Option.map_eq_some_iff] at read
        obtain ⟨ending, found, isLetter, whole⟩ := read
        cases whole
        have behind := @List.drop_left _ (rest.takeWhile isDecimal) (rest.dropWhile isDecimal)
        rw [List.takeWhile_append_dropWhile] at behind
        rw [behind] at ending
        have split := @List.takeWhile_append_dropWhile _ isDecimal rest
        refine ⟨fun digit member => ?_, String.ofList (rest.dropWhile isDecimal), ?_, ?_⟩
        · rw [String.toList_ofList] at member
          exact List.all_eq_true.mp List.all_takeWhile _ member
        · rcases ending with exact | lineBreak
          · rw [exact]
            exact List.mem_cons_self
          · rw [lineBreak]
            exact List.mem_cons_of_mem _ List.mem_cons_self
        · rw [Value.text.injEq, ← String.toList_inj, String.toList_append, toList_sectionKey,
            String.toList_ofList, String.toList_ofList, List.cons_append, split, spelled,
            ofLetter?_eq_some.mp isLetter]
  · rintro ⟨digits, ending, member, same⟩
    cases same
    have whole : ∀ text, (∀ first ∈ text.head?, isDecimal first = false) →
        (suffix.toList ++ text).takeWhile isDecimal = suffix.toList := by
      intro text stops
      rw [List.takeWhile_append_of_pos digits]
      cases text with
      | nil => simp
      | cons first text => simp [stops first rfl]
    have stops : ∀ first ∈ ending.toList.head?, isDecimal first = false := by
      rcases List.mem_cons.mp member with rfl | second
      · intro first empty
        cases empty
      · obtain rfl := List.mem_singleton.mp second
        rintro first ⟨⟩
        decide
    have last : ending.toList = [] ∨ ending.toList = ['\n'] := by
      rcases List.mem_cons.mp member with rfl | second
      · exact .inl rfl
      · obtain rfl := List.mem_singleton.mp second
        exact .inr rfl
    rw [String.toList_append, toList_sectionKey, List.cons_append]
    simp only [whole ending.toList stops, List.drop_left, if_pos last, String.ofList_toList,
      ofLetter?_eq_some.mpr rfl, Option.map_some]

theorem KeyOf.eq {kind other : Section} {suffix another : String} {key : Value}
    (first : KeyOf keyEndings kind suffix key) (second : KeyOf keyEndings other another key) :
    kind = other ∧ suffix = another := by
  obtain ⟨ending, -, rfl⟩ := first.spelled
  have same := ofText?_eq_some.mpr first
  rw [ofText?_eq_some.mpr second] at same
  cases same
  exact ⟨rfl, rfl⟩

structure Entry.Of (part : Value × Value) (entry : Entry) : Prop where
  key : part.1 = .text entry.key
  definition : part.2 = entry.definition
  place : SectionKey.ofText? entry.key = some entry.place

theorem entries_eq_ok {definition : List (Value × Value)} {found : List Entry} :
    entries definition = .ok found ↔ List.Forall₂ Entry.Of definition found := by
  induction definition generalizing found with
  | nil =>
      rw [List.forall₂_nil_left_iff]
      exact ⟨fun done => by cases done; rfl, fun empty => by cases empty; rfl⟩
  | cons first rest ih =>
      obtain ⟨key, value⟩ := first
      rw [List.forall₂_cons_left_iff]
      unfold entries
      constructor
      · intro done
        split at done
        · split at done
          · next place read =>
              obtain ⟨others, later, whole⟩ := Answer.bind_eq_ok.mp done
              cases whole
              exact ⟨_, others, ⟨rfl, rfl, read⟩, ih.mp later, rfl⟩
          · cases done
        · cases done
      · rintro ⟨entry, others, part, later, rfl⟩
        obtain rfl : key = .text entry.key := part.key
        obtain rfl : value = entry.definition := part.definition
        simp only [part.place]
        exact Answer.bind_eq_ok.mpr ⟨others, ih.mpr later, rfl⟩

theorem places_of_entries {definition : List (Value × Value)} {found : List Entry}
    (parts : List.Forall₂ Entry.Of definition found) :
    ∀ entry ∈ found, SectionKey.ofText? entry.key = some entry.place := by
  induction parts with
  | nil => nofun
  | cons first _ ih => exact List.forall_mem_cons.mpr ⟨first.place, ih⟩

theorem keys_of_entries {definition : List (Value × Value)} {found : List Entry}
    (parts : List.Forall₂ Entry.Of definition found) :
    definition.map (·.1) = found.map fun entry => .text entry.key := by
  induction parts with
  | nil => rfl
  | cons first _ ih => rw [List.map_cons, List.map_cons, first.key, ih]

theorem checkRequired_eq_ok {found : List Entry} {kinds : List Section} :
    checkRequired found kinds = .ok () ↔
      ∀ kind ∈ kinds, kind.key "" ∈ found.map (·.key) := by
  induction kinds with
  | nil => exact ⟨fun _ => nofun, fun _ => rfl⟩
  | cons kind kinds ih =>
      have there : found.any (·.key == kind.key "") = true ↔
          kind.key "" ∈ found.map (·.key) := by
        simp [List.any_eq_true]
      rw [checkRequired, List.forall_mem_cons, ← ih, ← there]
      split
      · next held => simp [held]
      · next missing => simp [missing, throw, throwThe, MonadExceptOf.throw]

theorem readKind_eq_ok {α : Type} {found : List Entry} {kind : Section}
    {read : Entry → Answer α} {results : List (String × α)} :
    readKind found kind read = .ok results ↔
      List.Forall₂ (fun entry result => result.1 = entry.key ∧ read entry = .ok result.2)
        (found.filter (·.place.kind == kind)) results := by
  have step : ∀ {entry : Entry} {result : String × α},
      (do return (entry.key, ← read entry) : Answer (String × α)) = .ok result ↔
        result.1 = entry.key ∧ read entry = .ok result.2 := by
    intro entry result
    rw [Answer.bind_eq_ok]
    constructor
    · rintro ⟨value, reading, whole⟩
      cases whole
      exact ⟨rfl, reading⟩
    · rintro ⟨same, reading⟩
      exact ⟨result.2, reading, congrArg Except.ok (Prod.ext same.symm rfl)⟩
  unfold readKind
  rw [Answer.mapM_eq_ok]
  simp only [step]

theorem isKeyOf_of_readKind {α : Type} {found : List Entry} {kind : Section}
    {read : Entry → Answer α} {results : List (String × α)}
    (places : ∀ entry ∈ found, SectionKey.ofText? entry.key = some entry.place)
    (done : readKind found kind read = .ok results) :
    ∀ result ∈ results, IsKeyOf kind result.1 := by
  intro result member
  obtain ⟨entry, inside, step⟩ := Answer.mem_of_mapM done member
  obtain ⟨value, -, whole⟩ := Answer.bind_eq_ok.mp step
  cases whole
  obtain ⟨listed, isKind⟩ := List.mem_filter.mp inside
  rw [beq_iff_eq] at isKind
  exact ⟨entry.place.suffix, isKind ▸ places entry listed⟩

structure Loads (found : List Entry) (model : Model) : Prop where
  required : checkRequired found Section.required = .ok ()
  requests : readKind found .request (fun entry =>
    (Shape.read entry.key entry.definition).mapError .model) = .ok model.requests
  policies : readKind found .policy (fun entry =>
    (Shape.read entry.key entry.definition).mapError .model) = .ok model.policies
  roles : readKind found .role (fun entry =>
    (RoleScope.read entry.key entry.definition).mapError .model) = .ok model.roles
  effects : readKind found .effect readEffect = .ok model.effects
  matchers : readKind found .matcher (readMatcher model.requests model.policies) =
    .ok model.matchers

theorem load_eq_ok {definition : List (Value × Value)} {model : Model} :
    load definition = .ok model ↔
      ∃ found, List.Forall₂ Entry.Of definition found ∧ Loads found model := by
  constructor
  · intro done
    obtain ⟨found, entriesDone, done⟩ := Answer.bind_eq_ok.mp done
    obtain ⟨_, required, done⟩ := Answer.bind_eq_ok.mp done
    obtain ⟨requests, requestsDone, done⟩ := Answer.bind_eq_ok.mp done
    obtain ⟨policies, policiesDone, done⟩ := Answer.bind_eq_ok.mp done
    obtain ⟨roles, rolesDone, done⟩ := Answer.bind_eq_ok.mp done
    obtain ⟨effects, effectsDone, done⟩ := Answer.bind_eq_ok.mp done
    obtain ⟨matchers, matchersDone, done⟩ := Answer.bind_eq_ok.mp done
    cases done
    exact ⟨found, entries_eq_ok.mp (Answer.mapError_eq_ok.mp entriesDone),
      Answer.mapError_eq_ok.mp required, requestsDone, policiesDone, rolesDone, effectsDone,
      matchersDone⟩
  · rintro ⟨found, parts, loads⟩
    refine Answer.bind_eq_ok.mpr ⟨found, Answer.mapError_eq_ok.mpr (entries_eq_ok.mpr parts), ?_⟩
    refine Answer.bind_eq_ok.mpr ⟨(), Answer.mapError_eq_ok.mpr loads.required, ?_⟩
    refine Answer.bind_eq_ok.mpr ⟨_, loads.requests, ?_⟩
    refine Answer.bind_eq_ok.mpr ⟨_, loads.policies, ?_⟩
    refine Answer.bind_eq_ok.mpr ⟨_, loads.roles, ?_⟩
    refine Answer.bind_eq_ok.mpr ⟨_, loads.effects, ?_⟩
    exact Answer.bind_eq_ok.mpr ⟨_, loads.matchers, rfl⟩

structure Keyed (model : Model) : Prop where
  requests : ∀ entry ∈ model.requests, IsKeyOf .request entry.1
  policies : ∀ entry ∈ model.policies, IsKeyOf .policy entry.1
  roles : ∀ entry ∈ model.roles, IsKeyOf .role entry.1
  effects : ∀ entry ∈ model.effects, IsKeyOf .effect entry.1
  matchers : ∀ entry ∈ model.matchers, IsKeyOf .matcher entry.1

theorem Read.keyed {model : Model} (read : model.Read) : model.Keyed := by
  obtain ⟨definition, done⟩ := read
  obtain ⟨found, parts, loads⟩ := load_eq_ok.mp done
  have places := places_of_entries parts
  exact
    { requests := isKeyOf_of_readKind places loads.requests
      policies := isKeyOf_of_readKind places loads.policies
      roles := isKeyOf_of_readKind places loads.roles
      effects := isKeyOf_of_readKind places loads.effects
      matchers := isKeyOf_of_readKind places loads.matchers }

theorem pairedFields_eq_ok {requests policies : List (String × Shape)}
    {key suffix : String} {fields : List String} :
    pairedFields requests policies key suffix = .ok fields ↔
      ∃ request policy, requests.lookup (Section.request.key suffix) = some request ∧
        policies.lookup (Section.policy.key suffix) = some policy ∧
        fields = request.map (Matcher.qualified (Section.request.key suffix)) ++
          policy.map (Matcher.qualified (Section.policy.key suffix)) := by
  simp only [pairedFields]
  generalize Section.request.key suffix = requestKey
  generalize Section.policy.key suffix = policyKey
  cases requests.lookup requestKey with
  | none => simp
  | some request =>
      cases policies.lookup policyKey with
      | none => simp
      | some policy => simp [eq_comm]

theorem matcherFields_eq_ok {model : Model} {key : String} {fields : List String} :
    model.matcherFields key = .ok fields ↔
      ∃ place names, SectionKey.ofText? key = some place ∧
        pairedFields model.requests model.policies key place.suffix = .ok names ∧
        fields = Matcher.sortedNames names := by
  unfold matcherFields
  cases SectionKey.ofText? key with
  | none => simp
  | some place =>
      simp only [Answer.mapError_eq_ok, Option.some.injEq, exists_and_left, exists_eq_left']
      cases pairedFields model.requests model.policies key place.suffix with
      | error fault => simp [Except.map]
      | ok names => simp [Except.map, eq_comm]

theorem IsKey.not_mem {key : String} (isKey : IsKey key) {mark : Char}
    (noLetter : Section.ofLetter? mark = none) (noDigit : isDecimal mark = false)
    (noBreak : mark ≠ '\n') : mark ∉ key.toList := by
  obtain ⟨⟨kind, suffix⟩, read⟩ := isKey
  obtain ⟨digits, ending, isEnding, same⟩ := ofText?_eq_some.mp read
  cases same
  rw [String.toList_append, toList_sectionKey]
  intro member
  rcases List.mem_append.mp member with inside | last
  · rcases List.mem_cons.mp inside with rfl | digit
    · rw [ofLetter?_eq_some.mpr rfl] at noLetter
      cases noLetter
    · rw [digits mark digit] at noDigit
      cases noDigit
  · rcases List.mem_cons.mp isEnding with rfl | second
    · cases last
    · obtain rfl := List.mem_singleton.mp second
      exact noBreak (List.mem_singleton.mp last)

theorem IsKey.no_bar {key : String} (isKey : IsKey key) : '|' ∉ key.toList :=
  isKey.not_mem rfl (by decide) (by decide)

theorem IsKey.no_dot {key : String} (isKey : IsKey key) : '.' ∉ key.toList :=
  isKey.not_mem rfl (by decide) (by decide)

theorem mapM_text?_eq_some {fields : List Value} {row : List String} :
    fields.mapM Value.text? = some row ↔ fields = row.map .text := by
  induction fields generalizing row with
  | nil => cases row <;> simp
  | cons field fields ih =>
      cases field with
      | text value => cases row <;> simp [Value.text?, Option.bind_eq_some_iff, ih, and_comm]
      | _ => cases row <;> simp [Value.text?]

theorem readRow_eq_ok {model : Model} {key : String} {fields : List Value}
    {row : List String} :
    model.readRow key fields = .ok row ↔
      fields = row.map .text ∧ model.arity? key = some row.length := by
  unfold readRow
  cases model.arity? key with
  | none => simp
  | some expected =>
      simp only
      split
      · next different =>
          simp only [reduceCtorEq, Option.some.injEq, false_iff, not_and]
          rintro rfl same
          exact different (by rw [List.length_map, same])
      · next fitting =>
          rw [Decidable.not_not] at fitting
          rw [← mapM_text?_eq_some]
          cases read : fields.mapM Value.text? with
          | none => simp
          | some found =>
              have length := congrArg List.length (mapM_text?_eq_some.mp read)
              rw [fitting, List.length_map] at length
              simp only [Except.ok.injEq, Option.some.injEq]
              constructor
              · rintro rfl
                exact ⟨rfl, length⟩
              · exact And.left

theorem mem_rowKeys {model : Model} {key : String} :
    key ∈ model.rowKeys ↔ ∃ count, model.arity? key = some count := by
  rw [rowKeys, List.mem_append]
  constructor
  · intro member
    unfold arity?
    cases found : model.policies.lookup key with
    | some shape => exact ⟨_, rfl⟩
    | none =>
        rcases member with policy | role
        · obtain ⟨entry, inside, rfl⟩ := List.mem_map.mp policy
          have absent := List.lookup_eq_none_iff.mp found entry inside
          simp at absent
        · cases there : model.roles.lookup key with
          | some scope => exact ⟨_, rfl⟩
          | none =>
              obtain ⟨entry, inside, rfl⟩ := List.mem_map.mp role
              have absent := List.lookup_eq_none_iff.mp there entry inside
              simp at absent
  · rintro ⟨count, known⟩
    unfold arity? at known
    split at known
    · next found => exact .inl (Entries.mem_keys_of_lookup found)
    · next found => exact .inr (Entries.mem_keys_of_lookup found)
    · cases known

theorem mem_rowKeys_of_readRow {model : Model} {key : String} {fields : List Value}
    {row : List String} (read : model.readRow key fields = .ok row) :
    key ∈ model.rowKeys :=
  mem_rowKeys.mpr ⟨_, (readRow_eq_ok.mp read).2⟩

theorem Read.policies_ne_roles {model : Model} (read : model.Read) {policy role : String}
    (isPolicy : policy ∈ Entries.keys model.policies) (isRole : role ∈ Entries.keys model.roles) :
    policy ≠ role := by
  rintro rfl
  obtain ⟨entry, inside, rfl⟩ := List.mem_map.mp isPolicy
  obtain ⟨other, insideOther, same⟩ := List.mem_map.mp isRole
  have kinds := (read.keyed.policies entry inside).kind_eq
    (same ▸ read.keyed.roles other insideOther)
  cases kinds

theorem Read.arity?_role {model : Model} (read : model.Read) {role : String}
    {scope : RoleScope} (declared : model.roles.lookup role = some scope) :
    model.arity? role = some scope.arity := by
  unfold arity?
  cases found : model.policies.lookup role with
  | none => simp [declared]
  | some shape =>
      exact absurd rfl (read.policies_ne_roles (Entries.mem_keys_of_lookup found)
        (Entries.mem_keys_of_lookup declared))

/-- Whether the model was read from entries that were given one after the other. -/
def Defined (model : Model) : Prop :=
  ∃ given, ofEntries given = .ok model

def Apart (definition : List (Value × Value)) : Prop :=
  definition.Pairwise fun entry other => entry.1.same other.1 = false

theorem mem_putEntry {key value : Value} {definition : List (Value × Value)}
    {entry : Value × Value} (member : entry ∈ putEntry key value definition) :
    entry.1 = key ∨ ∃ other ∈ definition, other.1 = entry.1 := by
  induction definition with
  | nil =>
      rw [putEntry, List.mem_singleton] at member
      exact .inl (congrArg Prod.fst member)
  | cons first rest ih =>
      rw [putEntry] at member
      split at member
      · rcases List.mem_cons.mp member with rfl | later
        · exact .inr ⟨first, List.mem_cons_self, rfl⟩
        · exact .inr ⟨entry, List.mem_cons_of_mem _ later, rfl⟩
      · rcases List.mem_cons.mp member with rfl | later
        · exact .inr ⟨entry, List.mem_cons_self, rfl⟩
        · rcases ih later with isKey | ⟨other, inside, same⟩
          · exact .inl isKey
          · exact .inr ⟨other, List.mem_cons_of_mem _ inside, same⟩

theorem Apart.putEntry {definition : List (Value × Value)} (apart : Apart definition)
    (key value : Value) : Apart (putEntry key value definition) := by
  induction definition with
  | nil => exact List.pairwise_singleton _ _
  | cons first rest ih =>
      obtain ⟨others, later⟩ := List.pairwise_cons.mp apart
      rw [Model.putEntry]
      split
      · exact List.pairwise_cons.mpr ⟨others, later⟩
      · next different =>
          refine List.pairwise_cons.mpr ⟨fun entry member => ?_, ih later⟩
          rcases mem_putEntry member with isKey | ⟨other, inside, same⟩
          · rw [isKey, Bool.eq_false_iff]
            exact different
          · rw [← same]
            exact others other inside

theorem Apart.putEntries {definition : List (Value × Value)} (apart : Apart definition)
    (given : List (Value × Value)) :
    Apart (given.foldl (fun entries entry => Model.putEntry entry.1 entry.2 entries)
      definition) := by
  induction given generalizing definition with
  | nil => exact apart
  | cons entry given ih => exact ih (apart.putEntry entry.1 entry.2)

theorem Defined.apart {model : Model} (defined : model.Defined) :
    ∃ definition, load definition = .ok model ∧ Apart definition := by
  obtain ⟨given, done⟩ := defined
  unfold ofEntries at done
  split at done
  · exact ⟨_, done, Apart.putEntries .nil given⟩
  · cases done

theorem Defined.read {model : Model} (defined : model.Defined) : model.Read := by
  obtain ⟨definition, done, -⟩ := defined.apart
  exact ⟨definition, done⟩

theorem keys_of_readKind {α : Type} {found : List Entry} {kind : Section}
    {read : Entry → Answer α} {results : List (String × α)}
    (done : readKind found kind read = .ok results) :
    Entries.keys results = (found.filter (·.place.kind == kind)).map (·.key) := by
  refine Answer.map_of_mapM ?_ done
  intro entry result step
  obtain ⟨value, -, whole⟩ := Answer.bind_eq_ok.mp step
  cases whole
  rfl

theorem nodup_keys_of_entries {definition : List (Value × Value)} {found : List Entry}
    (parts : List.Forall₂ Entry.Of definition found) (apart : Apart definition) :
    (found.map (·.key)).Nodup := by
  have texts : (definition.map (·.1)).Pairwise fun key other => key.same other = false :=
    List.pairwise_map.mpr apart
  rw [keys_of_entries parts, List.pairwise_map] at texts
  refine List.pairwise_map.mpr (texts.imp ?_)
  rintro entry other different same
  rw [same] at different
  simp [Value.same, Value.equal] at different

structure Distinct (model : Model) : Prop where
  policies : (Entries.keys model.policies).Nodup
  roles : (Entries.keys model.roles).Nodup
  matchers : (Entries.keys model.matchers).Nodup

theorem Defined.distinct {model : Model} (defined : model.Defined) : model.Distinct := by
  obtain ⟨definition, done, apart⟩ := defined.apart
  obtain ⟨found, parts, loads⟩ := load_eq_ok.mp done
  have keys := nodup_keys_of_entries parts apart
  have distinct : ∀ {α : Type} {kind : Section} {read : Entry → Answer α}
      {results : List (String × α)}, readKind found kind read = .ok results →
        (Entries.keys results).Nodup := by
    intro α kind read results done
    rw [keys_of_readKind done]
    exact keys.sublist (List.filter_sublist.map _)
  exact ⟨distinct loads.policies, distinct loads.roles, distinct loads.matchers⟩

theorem Defined.nodup_rowKeys {model : Model} (defined : model.Defined) :
    model.rowKeys.Nodup := by
  refine defined.distinct.policies.append defined.distinct.roles ?_
  intro key isPolicy isRole
  exact defined.read.policies_ne_roles isPolicy isRole rfl

end Model

namespace EnforceContext

structure Keyed (context : EnforceContext) : Prop where
  request : Model.IsKey context.request
  policy : Model.IsKey context.policy
  effect : Model.IsKey context.effect
  matcher : Model.IsKey context.matcher

theorem toList_key (context : EnforceContext) :
    context.key.toList = context.request.toList ++ '|' :: (context.policy.toList
      ++ '|' :: (context.effect.toList ++ '|' :: context.matcher.toList)) := by
  simp [key]

theorem key_inj {left right : EnforceContext} (keyed : left.Keyed)
    (keyedOther : right.Keyed) (agree : left.key = right.key) : left = right := by
  have spelled := congrArg String.toList agree
  rw [toList_key, toList_key] at spelled
  obtain ⟨requests, spelled⟩ :=
    Text.append_mark_inj keyed.request.no_bar keyedOther.request.no_bar spelled
  obtain ⟨policies, spelled⟩ :=
    Text.append_mark_inj keyed.policy.no_bar keyedOther.policy.no_bar spelled
  obtain ⟨effects, matchers⟩ :=
    Text.append_mark_inj keyed.effect.no_bar keyedOther.effect.no_bar spelled
  cases left
  cases right
  rw [EnforceContext.mk.injEq]
  exact ⟨String.toList_inj.mp requests, String.toList_inj.mp policies,
    String.toList_inj.mp effects, String.toList_inj.mp matchers⟩

end EnforceContext

end AccessControl
