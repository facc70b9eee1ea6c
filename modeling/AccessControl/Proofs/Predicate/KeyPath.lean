import AccessControl.Predicate.Basic
import AccessControl.Proofs.Regex.Matching
import AccessControl.Proofs.Text.Parts

namespace AccessControl.KeyPath

open Regex (Atom)
open Text (splitAt splitAt_of_not_mem splitAt_append_mark parts_induction)

/-- Letters, digits, underscores and dashes. -/
def isNameChar (character : Char) : Bool :=
  Text.isAsciiWord character || character == '-'

def reserved : List Char :=
  Regex.signs ++ ['/', ':', '\x7d', '\n']

theorem not_mem_reserved {character : Char} (proper : isNameChar character = true) :
    character ∉ reserved := by
  have allUnnamed : reserved.all (fun other => !isNameChar other) = true := by decide
  intro member
  have unnamed := List.all_eq_true.mp allUnnamed character member
  rw [proper] at unnamed
  cases unnamed

theorem not_mem_of_reserved {text : List Char} {character : Char}
    (proper : ∀ own ∈ text, isNameChar own = true) (sign : character ∈ reserved) :
    character ∉ text :=
  fun member => not_mem_reserved (proper character member) sign

inductive Segment
  | literal (text : List Char)
  | parameter (name : List Char)
deriving DecidableEq, Repr

namespace Segment

def spelled (style : Style) : Segment → List Char
  | .literal text => text
  | .parameter name =>
      match style with
      | .colon => ':' :: name
      | .braces => '\x7b' :: name ++ ['\x7d']

/-- A literal may be empty, but not the name of a parameter. -/
def Proper : Segment → Prop
  | .literal text => ∀ character ∈ text, isNameChar character = true
  | .parameter name => name ≠ [] ∧ ∀ character ∈ name, isNameChar character = true

instance : DecidablePred Proper
  | .literal text => decidable_of_iff (text.all isNameChar = true) List.all_eq_true
  | .parameter name =>
      decidable_of_iff (name ≠ [] ∧ name.all isNameChar = true)
        (and_congr_right fun _ => List.all_eq_true)

def Takes : Segment → List Char → Prop
  | .literal text, part => part = text
  | .parameter _, part => part ≠ []

end Segment

instance : ∀ segment part, Decidable (Segment.Takes segment part)
  | .literal text, part => inferInstanceAs (Decidable (part = text))
  | .parameter _, part => inferInstanceAs (Decidable (part ≠ []))

structure Written (style : Style) (pattern : List Char) (segments : List Segment) : Prop where
  parts : splitAt '/' pattern = segments.map (·.spelled style)
  proper : ∀ segment ∈ segments, segment.Proper

theorem Written.ne_nil {style : Style} {pattern : List Char} {segments : List Segment}
    (written : Written style pattern segments) : segments ≠ [] := by
  rintro rfl
  exact Text.splitAt_ne_nil pattern written.parts

/-- The key has as many parts between its slashes, and each segment takes its part. -/
def Fits (segments : List Segment) (key : List Char) : Prop :=
  List.Forall₂ Segment.Takes segments (splitAt '/' key)

instance (segments : List Segment) (key : List Char) : Decidable (Fits segments key) :=
  inferInstanceAs (Decidable (List.Forall₂ ..))

section

variable {segment next : Segment} {others segments : List Segment} {key : List Char}

theorem fits_singleton : Fits [segment] key ↔ segment.Takes key ∧ '/' ∉ key := by
  induction key using parts_induction '/' with
  | last part absent => simp [Fits, splitAt_of_not_mem absent, absent]
  | more part rest absent _ =>
      simp [Fits, splitAt_append_mark absent, Text.splitAt_ne_nil]

theorem fits_cons_cons :
    Fits (segment :: next :: others) key ↔
      ∃ part rest, key = part ++ '/' :: rest ∧ '/' ∉ part ∧ segment.Takes part ∧
        Fits (next :: others) rest := by
  constructor
  · intro fits
    induction key using parts_induction '/' with
    | last part absent => simp [Fits, splitAt_of_not_mem absent] at fits
    | more part rest absent _ =>
        rw [Fits, splitAt_append_mark absent, List.forall₂_cons] at fits
        exact ⟨part, rest, rfl, absent, fits⟩
  · rintro ⟨part, rest, rfl, absent, fits⟩
    rwa [Fits, splitAt_append_mark absent, List.forall₂_cons]

end

theorem starsSpelled_of_not_mem {text : List Char} (absent : '*' ∉ text) :
    starsSpelled text = text := by
  induction text with
  | nil => rfl
  | cons character rest ih =>
      rw [List.mem_cons, not_or] at absent
      rw [starsSpelled, ih absent.2]
      rintro others rfl rfl
      simp at absent

theorem parametersSpelled_skip (style : Style) (skipped rest : List Char) :
    parametersSpelled style skipped.length (skipped ++ rest) =
      parametersSpelled style 0 rest := by
  induction skipped with
  | nil => rfl
  | cons character others ih =>
      rw [List.cons_append, List.length_cons, parametersSpelled]
      exact ih

theorem parametersSpelled_append {style : Style} {text : List Char}
    (colons : ':' ∉ text) (braces : '\x7b' ∉ text) (rest : List Char) :
    parametersSpelled style 0 (text ++ rest) = text ++ parametersSpelled style 0 rest := by
  induction text with
  | nil => rfl
  | cons character others ih =>
      rw [List.mem_cons, not_or] at colons braces
      have literal : style.parameterLength? (character :: (others ++ rest)) = none := by
        unfold Style.parameterLength?
        split
        · next same => exact absurd (List.cons.inj same).1.symm colons.1
        · next same => exact absurd (List.cons.inj same).1.symm braces.1
        · rfl
      rw [List.cons_append, parametersSpelled]
      simp only [literal]
      rw [ih colons.2 braces.2, List.cons_append]

theorem takeWhile_append_stop {test : Char → Bool} {text rest : List Char}
    (taken : ∀ character ∈ text, test character = true)
    (stop : ∀ character ∈ rest.head?, test character = false) :
    (text ++ rest).takeWhile test = text := by
  rw [List.takeWhile_append_of_pos taken]
  cases rest with
  | nil => simp
  | cons character others => simp [stop character rfl]

theorem parameterLength?_spelled (style : Style) {name : List Char} (nonempty : name ≠ [])
    (proper : ∀ character ∈ name, isNameChar character = true) {rest : List Char}
    (ended : ∀ character ∈ rest.head?, character = '/') :
    style.parameterLength? ((Segment.parameter name).spelled style ++ rest) =
      some ((Segment.parameter name).spelled style).length := by
  have slash : '/' ∉ name := not_mem_of_reserved proper (by decide)
  cases style with
  | colon =>
      have taken : (name ++ rest).takeWhile (· != '/') = name := by
        refine takeWhile_append_stop (fun character member => ?_) fun character head => ?_
        · rw [bne_iff_ne]
          rintro rfl
          exact slash member
        · simp [ended character head]
      simp only [Segment.spelled, List.cons_append, Style.parameterLength?, taken]
      rw [if_neg (by simpa using nonempty)]
      rfl
  | braces =>
      obtain ⟨first, others, rfl⟩ := List.exists_cons_of_ne_nil nonempty
      have brace : '\x7d' ∉ first :: others := not_mem_of_reserved proper (by decide)
      rw [List.mem_cons, not_or] at slash brace
      have taken : (others ++ '\x7d' :: rest).takeWhile
          (fun character => character != '/' && character != '\x7d') = others := by
        refine takeWhile_append_stop (fun character member => ?_) fun character head => ?_
        · rw [Bool.and_eq_true, bne_iff_ne, bne_iff_ne]
          exact ⟨fun same => slash.2 (same ▸ member), fun same => brace.2 (same ▸ member)⟩
        · simp [← Option.some.inj head]
      simp only [Segment.spelled, List.cons_append, List.append_assoc, List.nil_append,
        Style.parameterLength?, taken, List.drop_left]
      rw [if_pos (by simp [Ne.symm slash.1])]
      simp

theorem parametersSpelled_parameter (style : Style) {name : List Char} (nonempty : name ≠ [])
    (proper : ∀ character ∈ name, isNameChar character = true) {rest : List Char}
    (ended : ∀ character ∈ rest.head?, character = '/') :
    parametersSpelled style 0 ((Segment.parameter name).spelled style ++ rest) =
      segmentExpression ++ parametersSpelled style 0 rest := by
  have length := parameterLength?_spelled style nonempty proper ended
  obtain ⟨first, others, shape⟩ : ∃ first others,
      (Segment.parameter name).spelled style = first :: others := by
    cases style <;> exact ⟨_, _, rfl⟩
  rw [shape, List.cons_append] at length ⊢
  rw [parametersSpelled]
  simp only [length, List.length_cons, Nat.add_sub_cancel, parametersSpelled_skip]

namespace Segment

def atoms : Segment → List Atom
  | .literal text => text.map .literal
  | .parameter _ => [.some '/']

theorem Proper.plain {segment : Segment} (proper : segment.Proper) :
    ∀ atom ∈ segment.atoms, atom.Plain := by
  cases segment with
  | literal text =>
      intro atom member
      obtain ⟨character, inside, rfl⟩ := List.mem_map.mp member
      exact fun sign => not_mem_reserved (proper character inside) (List.mem_append_left _ sign)
  | parameter name => simp [atoms, Atom.Plain]

theorem Proper.no_star {segment : Segment} (proper : segment.Proper) (style : Style) :
    '*' ∉ segment.spelled style := by
  cases segment with
  | literal text => exact not_mem_of_reserved proper (by decide)
  | parameter name =>
      have absent : '*' ∉ name := not_mem_of_reserved proper.2 (by decide)
      cases style <;> simp [spelled, absent]

theorem parametersSpelled_segment (style : Style) {segment : Segment} (proper : segment.Proper)
    {rest : List Char} (ended : ∀ character ∈ rest.head?, character = '/') :
    parametersSpelled style 0 (segment.spelled style ++ rest) =
      segment.atoms.flatMap Atom.spelled ++ parametersSpelled style 0 rest := by
  cases segment with
  | literal text =>
      have itself : (text.map Atom.literal).flatMap Atom.spelled = text := by
        rw [List.flatMap_map]
        exact List.flatMap_singleton' text
      rw [atoms, itself]
      exact parametersSpelled_append (not_mem_of_reserved proper (by decide))
        (not_mem_of_reserved proper (by decide)) rest
  | parameter name => exact parametersSpelled_parameter style proper.1 proper.2 ended

end Segment

def atoms : List Segment → List Atom
  | [] => []
  | [only] => only.atoms
  | segment :: others => segment.atoms ++ .literal '/' :: atoms others

theorem atoms_cons_cons (segment next : Segment) (others : List Segment) :
    atoms (segment :: next :: others) = segment.atoms ++ .literal '/' :: atoms (next :: others) :=
  rfl

theorem plain_atoms {segments : List Segment} (proper : ∀ segment ∈ segments, segment.Proper) :
    ∀ atom ∈ atoms segments, atom.Plain := by
  induction segments with
  | nil => simp [atoms]
  | cons segment others ih =>
      obtain ⟨own, rest⟩ := List.forall_mem_cons.mp proper
      cases others with
      | nil => exact own.plain
      | cons next others =>
          rw [atoms_cons_cons, List.forall_mem_append, List.forall_mem_cons]
          exact ⟨own.plain, (by decide : '/' ∉ Regex.signs), ih rest⟩

/-- Parameters become expressions, segment by segment. -/
theorem parametersSpelled_atoms {style : Style} {pattern : List Char} {segments : List Segment}
    (written : Written style pattern segments) :
    parametersSpelled style 0 pattern = (atoms segments).flatMap Atom.spelled := by
  obtain ⟨parts, proper⟩ := written
  -- Each part of the pattern is one segment, which ends where a slash or nothing follows.
  induction pattern using parts_induction '/' generalizing segments with
  | last part absent =>
      rw [splitAt_of_not_mem absent, eq_comm, List.map_eq_singleton_iff] at parts
      obtain ⟨segment, rfl, rfl⟩ := parts
      have spelled := @Segment.parametersSpelled_segment style segment
        (proper segment List.mem_cons_self) [] (by simp)
      rwa [List.append_nil, parametersSpelled, List.append_nil] at spelled
  | more part rest absent ih =>
      rw [splitAt_append_mark absent, eq_comm, List.map_eq_cons_iff] at parts
      obtain ⟨segment, others, rfl, rfl, parts⟩ := parts
      obtain ⟨own, further⟩ := List.forall_mem_cons.mp proper
      obtain ⟨next, more, rfl⟩ : ∃ next more, others = next :: more := by
        cases others with
        | nil => exact absurd parts.symm (Text.splitAt_ne_nil rest)
        | cons next more => exact ⟨next, more, rfl⟩
      have slash := @parametersSpelled_append style ['/'] (by decide) (by decide) rest
      rw [List.singleton_append] at slash
      rw [Segment.parametersSpelled_segment style own (by simp), slash, ih parts.symm further,
        atoms_cons_cons, List.flatMap_append, List.flatMap_cons]
      rfl

theorem expression_of_written {style : Style} {pattern : String} {segments : List Segment}
    (written : Written style pattern.toList segments) :
    expression style pattern =
      String.ofList ('^' :: (atoms segments).flatMap Atom.spelled ++ ['$']) := by
  have noStar : '*' ∉ pattern.toList := by
    intro member
    obtain ⟨part, among, inside⟩ := @Text.mem_part_of_mem '/' _ '*' member (by decide)
    rw [written.parts] at among
    obtain ⟨segment, own, rfl⟩ := List.mem_map.mp among
    exact (written.proper segment own).no_star style inside
  rw [expression, starsSpelled_of_not_mem noStar, parametersSpelled_atoms written]

theorem mem_language_literals {text part : List Char} :
    part ∈ ((text.map Atom.literal).map Atom.language).prod ↔ part = text := by
  induction text generalizing part with
  | nil => exact Language.mem_one part
  | cons character rest ih =>
      rw [List.map_cons, List.map_cons, List.prod_cons, Language.mem_mul]
      constructor
      · rintro ⟨_, rfl, right, others, rfl⟩
        rw [ih.mp others]
        rfl
      · rintro rfl
        exact ⟨_, rfl, rest, ih.mpr rfl, rfl⟩

theorem Segment.mem_language {segment : Segment} (proper : segment.Proper) {part : List Char} :
    part ∈ (segment.atoms.map Atom.language).prod ↔ segment.Takes part ∧ '/' ∉ part := by
  cases segment with
  | literal text =>
      rw [atoms, mem_language_literals]
      refine (and_iff_left_of_imp ?_).symm
      rintro rfl
      exact not_mem_of_reserved proper (by decide)
  | parameter name =>
      rw [atoms, List.map_singleton, List.prod_singleton]
      rfl

theorem mem_language {segments : List Segment} (nonempty : segments ≠ [])
    (proper : ∀ segment ∈ segments, segment.Proper) {key : List Char} :
    key ∈ ((atoms segments).map Atom.language).prod ↔ Fits segments key := by
  induction segments generalizing key with
  | nil => exact absurd rfl nonempty
  | cons segment others ih =>
      obtain ⟨own, rest⟩ := List.forall_mem_cons.mp proper
      cases others with
      | nil => exact (Segment.mem_language own).trans fits_singleton.symm
      | cons next others =>
          rw [fits_cons_cons, atoms_cons_cons, List.map_append, List.prod_append, List.map_cons,
            List.prod_cons, Language.mem_mul]
          -- No segment takes a slash, so the first one of the key ends its first part.
          constructor
          · rintro ⟨part, first, _, ⟨_, rfl, behind, later, rfl⟩, rfl⟩
            obtain ⟨takes, absent⟩ := (Segment.mem_language own).mp first
            exact ⟨part, behind, rfl, absent, takes,
              (ih (List.cons_ne_nil _ _) rest).mp later⟩
          · rintro ⟨part, behind, rfl, absent, takes, fits⟩
            exact ⟨part, (Segment.mem_language own).mpr ⟨takes, absent⟩, _,
              ⟨_, rfl, behind, (ih (List.cons_ne_nil _ _) rest).mpr fits, rfl⟩, rfl⟩

theorem Fits.append_of_parameter {segments : List Segment} {key : List Char} {character : Char}
    {name : List Char} (fits : Fits segments key)
    (ends : segments.getLast? = some (.parameter name)) (other : character ≠ '/') :
    Fits segments (key ++ [character]) := by
  induction segments generalizing key with
  | nil => cases ends
  | cons segment others ih =>
      cases others with
      | nil =>
          obtain rfl : segment = .parameter name := Option.some.inj ends
          rw [fits_singleton] at fits ⊢
          exact ⟨by simp [Segment.Takes], by simp [fits.2, Ne.symm other]⟩
      | cons next others =>
          rw [fits_cons_cons] at fits ⊢
          obtain ⟨part, rest, rfl, absent, takes, fits⟩ := fits
          rw [List.getLast?_cons_cons] at ends
          exact ⟨part, rest ++ [character], by simp, absent, takes, ih fits ends⟩

theorem Fits.last_of_literal {segments : List Segment} {key : List Char} {character : Char}
    {text : List Char} (fits : Fits segments (key ++ [character]))
    (ends : segments.getLast? = some (.literal text)) : character = '/' ∨ character ∈ text := by
  induction segments generalizing key with
  | nil => cases ends
  | cons segment others ih =>
      cases others with
      | nil =>
          obtain rfl : segment = .literal text := Option.some.inj ends
          obtain ⟨rfl, -⟩ := fits_singleton.mp fits
          exact .inr (by simp)
      | cons next others =>
          obtain ⟨part, rest, whole, -, -, fits⟩ := fits_cons_cons.mp fits
          rw [List.getLast?_cons_cons] at ends
          obtain rfl | ⟨init, last, rfl⟩ := List.eq_nil_or_concat rest
          · exact .inl (List.append_singleton_inj.mp whole).2
          · rw [List.concat_eq_append] at whole fits
            rw [← List.cons_append, ← List.append_assoc] at whole
            obtain ⟨-, rfl⟩ := List.append_singleton_inj.mp whole
            exact ih fits ends

/-- The key fits but for a line break behind the literal at the end of the pattern. -/
def Overruns (segments : List Segment) (key : List Char) : Prop :=
  (∃ text, segments.getLast? = some (.literal text)) ∧
    ∃ stem, key = stem ++ ['\n'] ∧ Fits segments stem

theorem takes_literals (style : Style) {segments : List Segment}
    (literals : ∀ segment ∈ segments, ∃ text, segment = .literal text) {parts : List (List Char)} :
    List.Forall₂ Segment.Takes segments parts ↔ parts = segments.map (·.spelled style) := by
  induction segments generalizing parts with
  | nil => exact List.forall₂_nil_left_iff
  | cons segment others ih =>
      obtain ⟨⟨text, rfl⟩, rest⟩ := List.forall_mem_cons.mp literals
      rw [List.forall₂_cons_left_iff, List.map_cons]
      constructor
      · rintro ⟨_, behind, rfl, later, rfl⟩
        rw [(ih rest).mp later]
        rfl
      · rintro rfl
        exact ⟨_, _, rfl, (ih rest).mpr rfl, rfl⟩

theorem fits_literals {style : Style} {pattern : List Char} {segments : List Segment}
    (written : Written style pattern segments)
    (literals : ∀ segment ∈ segments, ∃ text, segment = .literal text) {key : List Char} :
    Fits segments key ↔ key = pattern := by
  rw [Fits, takes_literals style literals, ← written.parts]
  exact Text.splitAt_injective.eq_iff

def Style.predicate : Style → Predicate
  | .colon => .keyMatch2
  | .braces => .keyMatch3

theorem fits_of_written {style : Style} {pattern : String} {segments : List Segment}
    (written : Written style pattern.toList segments) (key : String) :
    ∃ holds, style.predicate.holds key pattern = .ok holds ∧
      (holds = true ↔ Fits segments key.toList ∨
        ∃ stem, key.toList = stem ++ ['\n'] ∧ Fits segments stem) := by
  have nonempty := written.ne_nil
  obtain ⟨regex, accepted, matching⟩ := Regex.read_matches (plain_atoms written.proper)
  have read : regexOf (expression style pattern) = .ok regex := by
    rw [regexOf, expression_of_written written, accepted]
  refine ⟨regex.matchesStart key.toList, ?_, ?_⟩
  · have fits : fits style key pattern = .ok (regex.matchesStart key.toList) := by
      rw [KeyPath.fits, read]
      rfl
    cases style <;> exact fits
  · rw [matching, mem_language nonempty written.proper]
    simp only [mem_language nonempty written.proper, and_comm]

/-- A key with a line break behind it fits where the last segment is a parameter, which takes the
line break, and never where it is a literal. -/
theorem accepts_iff_fits_or_overruns {style : Style} {pattern : String} {segments : List Segment}
    (written : Written style pattern.toList segments) (key : String) :
    ∃ holds, style.predicate.holds key pattern = .ok holds ∧
      (holds = true ↔ Fits segments key.toList ∨ Overruns segments key.toList) ∧
      ((holds = true ↔ Fits segments key.toList) ↔ ¬ Overruns segments key.toList) ∧
      ((∀ segment ∈ segments, ∃ text, segment = .literal text) →
        (holds = true ↔ key = pattern ∨ key = pattern.push '\n')) := by
  obtain ⟨holds, answer, matching⟩ := fits_of_written written key
  have apart : Overruns segments key.toList → ¬ Fits segments key.toList := by
    -- The line break would have to stand in the literal, and no literal holds one.
    rintro ⟨⟨text, ends⟩, stem, whole, -⟩ fits
    rw [whole] at fits
    have proper : (Segment.literal text).Proper :=
      written.proper _ (List.mem_of_getLast? ends)
    rcases fits.last_of_literal ends with slash | inside
    · exact absurd slash (by decide)
    · exact not_mem_of_reserved proper (by decide) inside
  have either : (∃ stem, key.toList = stem ++ ['\n'] ∧ Fits segments stem) →
      Fits segments key.toList ∨ Overruns segments key.toList := by
    rintro ⟨stem, whole, fits⟩
    obtain ⟨last, ends⟩ : ∃ last, segments.getLast? = some last :=
      ⟨_, List.getLast?_eq_some_getLast written.ne_nil⟩
    cases last with
    | literal text => exact .inr ⟨⟨text, ends⟩, stem, whole, fits⟩
    | parameter name =>
        rw [whole]
        exact .inl (fits.append_of_parameter ends (by decide))
  have decides : holds = true ↔ Fits segments key.toList ∨ Overruns segments key.toList :=
    matching.trans ⟨(Or.elim · .inl either), Or.imp_right And.right⟩
  refine ⟨holds, answer, decides, ?_, fun literals => ?_⟩
  · rw [decides]
    constructor
    · intro agree overruns
      exact apart overruns (agree.mp (.inr overruns))
    · exact or_iff_left
  · rw [matching, fits_literals written literals]
    simp only [fits_literals written literals, exists_eq_right, ← String.toList_inj,
      String.toList_push]

namespace Sample

def log : List Segment :=
  [.literal [], .literal ['f', 'i', 'l', 'e', 's'], .parameter ['i', 'd'],
    .literal ['l', 'o', 'g']]

theorem written_log : Written .braces "/files/\x7bid\x7d/log".toList log := by
  rw [String.toList_ofList]
  exact ⟨by decide, by decide⟩

def foo : List Segment :=
  [.literal [], .literal ['f', 'o', 'o']]

theorem written_foo : Written .colon "/foo".toList foo := by
  rw [String.toList_ofList]
  exact ⟨by decide, by decide⟩

end Sample

/-- A parameter takes a line break, but not nothing. -/
theorem accepts_iff_fits_or_overruns_log :
    Written .braces "/files/\x7bid\x7d/log".toList Sample.log ∧
      Predicate.keyMatch3.holds "/files/\n/log" "/files/\x7bid\x7d/log" = .ok true ∧
      Predicate.keyMatch3.holds "/files//log\n" "/files/\x7bid\x7d/log" = .ok false := by
  obtain ⟨broken, answer, given, -⟩ :=
    accepts_iff_fits_or_overruns Sample.written_log "/files/\n/log"
  obtain ⟨empty, refusal, missing, -⟩ :=
    accepts_iff_fits_or_overruns Sample.written_log "/files//log\n"
  rw [String.toList_ofList] at given missing
  refine ⟨Sample.written_log, ?_, ?_⟩
  · rw [given.mpr (.inl (by decide))] at answer
    exact answer
  · cases empty with
    | false => exact refusal
    | true =>
        rcases missing.mp rfl with fits | ⟨-, stem, whole, fits⟩
        · exact absurd fits (by decide)
        · have split : stem ++ ['\n'] =
              ['/', 'f', 'i', 'l', 'e', 's', '/', '/', 'l', 'o', 'g'] ++ ['\n'] := whole.symm
          obtain ⟨rfl, -⟩ := List.append_singleton_inj.mp split
          exact absurd fits (by decide)

/-- A pattern without parameters matches another key than itself. -/
theorem accepts_broken :
    Written .colon "/foo".toList Sample.foo ∧
      Predicate.keyMatch2.holds "/foo\n" "/foo" = .ok true ∧
      ¬ Fits Sample.foo "/foo\n".toList := by
  obtain ⟨holds, answer, matching⟩ := fits_of_written Sample.written_foo "/foo\n"
  rw [String.toList_ofList] at matching
  rw [matching.mpr (.inr ⟨['/', 'f', 'o', 'o'], rfl, by decide⟩)] at answer
  refine ⟨Sample.written_foo, answer, ?_⟩
  rw [String.toList_ofList]
  decide

end AccessControl.KeyPath
