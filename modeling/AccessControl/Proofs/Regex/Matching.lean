import AccessControl.Proofs.Regex.Reading
import Mathlib.Computability.Language

namespace AccessControl.Regex

open scoped Computability

/-! The texts that an expression matches, whatever is before them and whatever comes behind. Of
several ways to match, all are tried until the rest matches. -/

def Cursor.past (cursor : Cursor) (taken rest : List Char) : Cursor :=
  { cursor with before := taken.reverse ++ cursor.before, after := rest }

theorem Cursor.past_past (cursor : Cursor) (first between second rest : List Char) :
    (cursor.past first between).past second rest = cursor.past (first ++ second) rest := by
  simp [past]

/-- From some place on, a text of the language can be taken so that the rest is as asked for. -/
def Takes (language : Language Char) (cursor : Cursor) (goal : Cursor → Prop) : Prop :=
  ∃ taken rest, cursor.after = taken ++ rest ∧ taken ∈ language ∧ goal (cursor.past taken rest)

section

variable {language further : Language Char} {cursor : Cursor} {goal : Cursor → Prop}

theorem takes_one : Takes 1 cursor goal ↔ goal cursor := by
  constructor
  · rintro ⟨taken, rest, after, nothing, reached⟩
    rw [Language.mem_one] at nothing
    subst nothing
    rw [List.nil_append] at after
    subst after
    exact reached
  · intro reached
    exact ⟨[], cursor.after, rfl, rfl, reached⟩

theorem takes_add :
    Takes (language + further) cursor goal ↔
      Takes language cursor goal ∨ Takes further cursor goal := by
  simp only [Takes, Language.mem_add, or_and_right, and_or_left, exists_or]

theorem takes_mul :
    Takes (language * further) cursor goal ↔
      Takes language cursor fun place => Takes further place goal := by
  constructor
  · rintro ⟨_, rest, after, ⟨left, inFirst, right, inSecond, rfl⟩, reached⟩
    rw [List.append_assoc] at after
    refine ⟨left, right ++ rest, after, inFirst, right, rest, rfl, inSecond, ?_⟩
    rwa [Cursor.past_past]
  · rintro ⟨left, between, after, inFirst, right, rest, later, inSecond, reached⟩
    change between = right ++ rest at later
    rw [later, ← List.append_assoc] at after
    rw [Cursor.past_past] at reached
    exact ⟨left ++ right, rest, after, Language.append_mem_mul inFirst inSecond, reached⟩

theorem takes_kstar :
    Takes language∗ cursor goal ↔
      goal cursor ∨ Takes language cursor fun place => Takes language∗ place goal := by
  rw [← takes_mul, ← @takes_one cursor goal, ← takes_add,
    Language.one_add_self_mul_kstar_eq_kstar]

theorem Takes.congr {other : Cursor → Prop} (agree : ∀ place, goal place ↔ other place) :
    Takes language cursor goal ↔ Takes language cursor other := by
  rw [show goal = other from funext fun place => propext (agree place)]

end

/-- The step takes the texts of the language, and tries all of them. -/
def Recognizes (step : Step) (language : Language Char) : Prop :=
  ∀ cursor next, (step cursor next).isSome = true ↔
    Takes language cursor fun place => (next place).isSome = true

theorem recognizes_empty : Recognizes (fun cursor next => next cursor) 1 :=
  fun _ next => (@takes_one _ fun place => (next place).isSome = true).symm

def single (test : CharTest) : Language Char :=
  Set.image ([·]) {character | test.holds character = true}

theorem mem_single {test : CharTest} {text : List Char} :
    text ∈ single test ↔ ∃ character, test.holds character = true ∧ [character] = text :=
  Iff.rfl

theorem recognizes_one (test : CharTest) : Recognizes (run (.one test)) (single test) := by
  intro cursor next
  obtain ⟨before, after, groups⟩ := cursor
  constructor
  · intro matched
    cases after with
    | nil => cases matched
    | cons character rest =>
        simp only [run, Cursor.advance?] at matched
        split at matched
        · next holds => exact ⟨[character], rest, rfl, ⟨character, holds, rfl⟩, matched⟩
        · cases matched
  · rintro ⟨_, rest, rfl, ⟨character, holds, rfl⟩, matched⟩
    change test.holds character = true at holds
    simp only [run, Cursor.advance?, List.cons_append, holds]
    exact matched

section

variable {first second step : Step} {language further : Language Char}

theorem Recognizes.mul (one : Recognizes first language) (other : Recognizes second further) :
    Recognizes (fun cursor next => first cursor fun place => second place next)
      (language * further) := by
  intro cursor next
  rw [takes_mul, one]
  exact Takes.congr fun place => other place next

theorem Recognizes.times (one : Recognizes step language) (count : Nat) :
    Recognizes (times count step) (language ^ count) := by
  induction count with
  | zero =>
      rw [pow_zero]
      exact recognizes_empty
  | succ count ih =>
      rw [pow_succ']
      exact one.mul ih

/-- Where each step takes a character, the bound of a loop and the place where the last repetition
started do not matter. -/
theorem Recognizes.greedyLoop (one : Recognizes step language) (consumes : [] ∉ language)
    {fuel : Nat} {last : Option Nat} {cursor : Cursor} (next : Continuation)
    (enough : cursor.after.length < fuel) (moved : last ≠ some cursor.position) :
    (greedyLoop step fuel none last cursor next).isSome = true ↔
      Takes language∗ cursor fun place => (next place).isSome = true := by
  induction fuel generalizing last cursor with
  | zero => cases enough
  | succ fuel ih =>
      have may : mayRepeat none last cursor = true := by simp [mayRepeat, moved]
      rw [Regex.greedyLoop, if_pos may, Option.orElse_eq_orElse, Option.orElse_eq_or,
        Option.isSome_or, Bool.or_eq_true, one, takes_kstar, or_comm]
      refine or_congr_right ?_
      -- A step that takes a character leaves fewer of them, and starts at another place.
      have again : ∀ {taken rest}, cursor.after = taken ++ rest → taken ∈ language →
          ((Regex.greedyLoop step fuel none (some cursor.position)
            (cursor.past taken rest) next).isSome = true ↔
              Takes language∗ (cursor.past taken rest) fun place =>
                (next place).isSome = true) := by
        intro taken rest after inLanguage
        have positive : 0 < taken.length := by
          rw [List.length_pos_iff]
          rintro rfl
          exact consumes inLanguage
        refine ih ?_ ?_
        · change rest.length < fuel
          rw [after, List.length_append] at enough
          omega
        · simp only [Cursor.position, Cursor.past, List.length_append, List.length_reverse]
          intro same
          have := Option.some.inj same
          omega
      constructor
      · rintro ⟨taken, rest, after, inLanguage, matched⟩
        exact ⟨taken, rest, after, inLanguage, (again after inLanguage).mp matched⟩
      · rintro ⟨taken, rest, after, inLanguage, reached⟩
        exact ⟨taken, rest, after, inLanguage, (again after inLanguage).mpr reached⟩

end

theorem Recognizes.repeated {regex : Regex} {language : Language Char}
    (one : Recognizes (run regex) language) (consumes : [] ∉ language) (least : Nat) :
    Recognizes (run (.repeated .greedy least none regex)) (language ^ least * language∗) := by
  have loop : Recognizes
      (fun cursor next => Regex.greedyLoop (run regex) (loopBound cursor) none none cursor next)
      language∗ := by
    intro cursor next
    exact one.greedyLoop consumes next (by simp [loopBound]) (by simp)
  exact (one.times least).mul loop

theorem run_concat_cons (regex : Regex) (others : List Regex) (cursor : Cursor)
    (next : Continuation) :
    run (concat (regex :: others)) cursor next =
      run regex cursor fun place => run (concat others) place next := by
  cases others with
  | nil => rfl
  | cons _ _ => rfl

theorem run_concat_append (regexes others : List Regex) (cursor : Cursor) (next : Continuation) :
    run (concat (regexes ++ others)) cursor next =
      run (concat regexes) cursor fun place => run (concat others) place next := by
  induction regexes generalizing cursor with
  | nil => rfl
  | cons regex rest ih =>
      rw [List.cons_append, run_concat_cons, run_concat_cons]
      simp only [ih]

theorem recognizes_concat {regexes : List Regex} {languages : List (Language Char)}
    (each : List.Forall₂ (fun regex language => Recognizes (run regex) language)
      regexes languages) :
    Recognizes (run (concat regexes)) languages.prod := by
  induction each with
  | nil => exact recognizes_empty
  | @cons regex _ others _ one _ ih =>
      rw [List.prod_cons]
      intro cursor next
      rw [run_concat_cons]
      exact one.mul ih cursor next

/-- Between the anchors of both ends, an expression matches the texts of its language, and these
with a line break behind them. -/
theorem matchesStart_anchored {regexes : List Regex} {language : Language Char}
    (recognizes : Recognizes (run (concat regexes)) language) (text : List Char) :
    matchesStart (concat (.anchor .textStart :: regexes ++ [.anchor .finalLineEnd])) text = true ↔
      text ∈ language ∨ ∃ stem ∈ language, text = stem ++ ['\n'] := by
  have run_eq : run (concat (.anchor .textStart :: regexes ++ [.anchor .finalLineEnd]))
      (Cursor.start text) some =
        run (concat regexes) (Cursor.start text) (run (.anchor .finalLineEnd) · some) := by
    rw [List.cons_append, run_concat_cons]
    exact run_concat_append regexes _ _ _
  have finished : ∀ place : Cursor, (run (.anchor .finalLineEnd) place some).isSome = true ↔
      place.after = [] ∨ place.after = ['\n'] := by
    intro place
    simp only [run]
    split
    · next holds => simpa [Anchor.holds] using holds
    · next fails => simpa [Anchor.holds] using fails
  rw [matchesStart, run_eq, recognizes, Takes.congr finished]
  constructor
  · rintro ⟨taken, rest, whole, inLanguage, rfl | rfl⟩
    · rw [List.append_nil] at whole
      subst whole
      exact .inl inLanguage
    · exact .inr ⟨taken, inLanguage, whole⟩
  · rintro (inLanguage | ⟨stem, inLanguage, rfl⟩)
    · exact ⟨text, [], (List.append_nil text).symm, inLanguage, .inl rfl⟩
    · exact ⟨stem, ['\n'], rfl, inLanguage, .inr rfl⟩

theorem holds_literal (negated : Bool) (own character : Char) :
    (CharTest.literal .exact negated own.toNat).holds character = true ↔
      (own = character ↔ negated = false) := by
  rw [show own = character ↔ own.toNat = character.toNat from
    ⟨congrArg _, fun same => Char.ext (UInt32.toNat_inj.mp same)⟩]
  simp only [CharTest.holds, Folding.isCased]
  cases negated <;> simp

theorem mem_kstar_single {test : CharTest} {text : List Char} :
    text ∈ (single test)∗ ↔ ∀ character ∈ text, test.holds character = true := by
  rw [Language.mem_kstar]
  constructor
  · rintro ⟨parts, rfl, each⟩ character member
    obtain ⟨part, among, inside⟩ := List.mem_flatten.mp member
    obtain ⟨own, holds, rfl⟩ := each part among
    rwa [List.mem_singleton.mp inside]
  · intro each
    refine ⟨text.map ([·]), by rw [← List.flatMap_def, List.flatMap_singleton'], ?_⟩
    intro part among
    obtain ⟨character, member, rfl⟩ := List.mem_map.mp among
    exact ⟨character, each character member, rfl⟩

theorem mem_some_single {test : CharTest} {text : List Char} :
    text ∈ single test ^ 1 * (single test)∗ ↔
      text ≠ [] ∧ ∀ character ∈ text, test.holds character = true := by
  rw [pow_one, Language.mem_mul]
  constructor
  · rintro ⟨_, ⟨character, own, rfl⟩, rest, others, rfl⟩
    rw [mem_kstar_single] at others
    exact ⟨List.cons_ne_nil _ _, List.forall_mem_cons.mpr ⟨own, others⟩⟩
  · rintro ⟨nonempty, each⟩
    obtain ⟨character, rest, rfl⟩ := List.exists_cons_of_ne_nil nonempty
    obtain ⟨own, others⟩ := List.forall_mem_cons.mp each
    exact ⟨_, ⟨character, own, rfl⟩, rest, mem_kstar_single.mpr others, rfl⟩

namespace Atom

def language : Atom → Language Char
  | .literal character => {[character]}
  | .some other => {text | text ≠ [] ∧ other ∉ text}

theorem recognizes_regex (atom : Atom) : Recognizes (run atom.regex) atom.language := by
  cases atom with
  | literal character =>
      have same : single (.literal .exact false character.toNat) = {[character]} := by
        refine Language.ext fun text => mem_single.trans ?_
        simp only [holds_literal, iff_true]
        exact ⟨fun ⟨_, same, text_eq⟩ => by rw [← text_eq, ← same]; rfl,
          fun text_eq => ⟨character, rfl, text_eq.symm⟩⟩
      rw [language, ← same]
      exact recognizes_one _
  | some other =>
      have same : single (.literal .exact true other.toNat) ^ 1 *
          (single (.literal .exact true other.toNat))∗ = {text | text ≠ [] ∧ other ∉ text} := by
        refine Language.ext fun text => mem_some_single.trans (and_congr_right fun _ => ?_)
        simp only [holds_literal, Bool.true_eq_false, iff_false]
        exact ⟨fun each member => each other member rfl,
          fun absent character member same => absent (same ▸ member)⟩
      have consumes : [] ∉ single (.literal .exact true other.toNat) :=
        fun ⟨_, _, same⟩ => List.cons_ne_nil _ _ same
      rw [language, ← same]
      exact (recognizes_one _).repeated consumes 1

end Atom

/-- An anchored expression of plain parts is accepted, and matches the texts that its parts stand
for, also where a line break ends them. -/
theorem read_matches {atoms : List Atom} (plain : ∀ atom ∈ atoms, atom.Plain) :
    ∃ regex, read (String.ofList ('^' :: atoms.flatMap Atom.spelled ++ ['$'])) = .ok regex ∧
      ∀ text, regex.matchesStart text = true ↔
        text ∈ (atoms.map Atom.language).prod ∨
          ∃ stem ∈ (atoms.map Atom.language).prod, text = stem ++ ['\n'] := by
  refine ⟨_, read_anchored plain, matchesStart_anchored (recognizes_concat ?_)⟩
  rw [List.forall₂_map_left_iff, List.forall₂_map_right_iff, List.forall₂_same]
  exact fun atom _ => atom.recognizes_regex

end AccessControl.Regex
