import AccessControl.Regex.Reader

namespace AccessControl.Regex

open Reading

/-- What stands before marks of which none has been read. -/
def Progress.upTo (rest : List Mark) : Progress :=
  { rest, broken := false, flags := [], widths := [], names := [], lookbehind := none,
    conditions := [] }

theorem run_bind {α β : Type} {first : Reading α} {following : α → Reading β}
    {progress later : Progress} {value : α} (done : first.run progress = .ok (value, later)) :
    (first >>= following).run progress = (following value).run later := by
  rw [StateT.run_bind, done]
  rfl

theorem run_get (progress : Progress) :
    (get : Reading Progress).run progress = .ok (progress, progress) := rfl

theorem run_remaining (rest : List Mark) :
    remaining.run (.upTo rest) = .ok (rest.length, .upTo rest) := rfl

theorem run_peek (rest : List Mark) :
    peek.run (.upTo rest) = .ok (rest.head?, .upTo rest) := rfl

theorem run_checkEnd (rest : List Mark) :
    checkEnd.run (.upTo rest) = .ok ((), .upTo rest) := by
  rw [checkEnd, run_bind (run_get _), if_neg (by simp [Progress.upTo])]
  rfl

theorem run_next (mark : Mark) (rest : List Mark) :
    next.run (.upTo (mark :: rest)) = .ok (some mark, .upTo rest) := by
  rw [next, run_bind (run_get _)]
  change (set (Progress.upTo rest) >>= fun _ => checkEnd >>= fun _ => pure (some mark) :
    Reading (Option Mark)).run _ = _
  rw [run_bind rfl, run_bind (run_checkEnd rest)]
  rfl

theorem run_accept (character : Char) (rest : List Mark) :
    (accept character).run (.upTo (.plain character :: rest)) = .ok (true, .upTo rest) := by
  rw [accept, run_bind (run_peek _), if_pos (by simp), run_bind (run_next _ _)]
  rfl

theorem run_accept_of_ne {character : Char} {rest : List Mark}
    (other : rest.head? ≠ some (.plain character)) :
    (accept character).run (.upTo rest) = .ok (false, .upTo rest) := by
  rw [accept, run_bind (run_peek _), if_neg (by simpa using other)]
  rfl

theorem run_members_close {found : List Member} (nonempty : found ≠ []) (fuel : Nat)
    (rest : List Mark) :
    (members [] (fuel + 1) found).run (.upTo (.plain ']' :: rest)) =
      .ok (found, .upTo rest) := by
  rw [members, run_bind (run_next _ _)]
  simp only [List.isEmpty_eq_false_iff.mpr nonempty]
  rfl

theorem run_charSet_except (character : Char) (rest : List Mark) :
    (charSet []).run (.upTo (.plain '^' :: .plain character :: .plain ']' :: rest)) =
      .ok (.one (.literal .exact true character.toNat), .upTo rest) := by
  have noDash : (Mark.plain ']' :: rest).head? ≠ some (.plain '-') := by
    simp [Mark.plain]
  have single : (members [] (rest.length + 3) []).run
      (.upTo (.plain character :: .plain ']' :: rest)) =
        .ok ([.single character.toNat], .upTo rest) := by
    rw [members, run_bind (run_next _ _)]
    simp only [List.isEmpty_nil]
    rw [if_neg (by simp)]
    change (pure (Member.single character.toNat) >>= _ : Reading (List Member)).run _ = _
    rw [run_bind rfl, run_bind (run_accept_of_ne noDash), if_neg Bool.false_ne_true]
    exact run_members_close (List.cons_ne_nil _ _) _ rest
  rw [charSet, run_bind (run_accept '^' _), run_bind (run_remaining _)]
  exact (run_bind single).trans rfl

section

variable (fuel : Nat) (first : Bool) (parts : List Part) (rest : List Mark)

theorem run_sequenceOf_nil :
    (sequenceOf (fuel + 1) [] first parts).run (.upTo []) =
      .ok (concat (parts.reverse.map (·.regex)), .upTo []) := by
  rw [sequenceOf, run_bind (run_peek _)]
  rfl

theorem run_sequenceOf_start :
    (sequenceOf (fuel + 1) [] first parts).run (.upTo (.plain '^' :: rest)) =
      (sequenceOf fuel [] first (⟨.anchor .textStart, false⟩ :: parts)).run (.upTo rest) := by
  rw [sequenceOf, run_bind (run_peek _)]
  simp only [List.head?_cons]
  rw [if_neg (by decide), run_bind (run_next _ _)]
  rfl

theorem run_sequenceOf_end :
    (sequenceOf (fuel + 1) [] first parts).run (.upTo (.plain '$' :: rest)) =
      (sequenceOf fuel [] first (⟨.anchor .finalLineEnd, false⟩ :: parts)).run (.upTo rest) := by
  rw [sequenceOf, run_bind (run_peek _)]
  simp only [List.head?_cons]
  rw [if_neg (by decide), run_bind (run_next _ _)]
  rfl

def signs : List Char := ['\\', '|', ')', '[', '.', '^', '$', '(', '?', '*', '+', '\x7b']

theorem run_sequenceOf_literal {character : Char} (plain : character ∉ signs) :
    (sequenceOf (fuel + 1) [] first parts).run (.upTo (.plain character :: rest)) =
      (sequenceOf fuel [] first
        (⟨.one (.literal .exact false character.toNat), false⟩ :: parts)).run (.upTo rest) := by
  simp only [signs, List.mem_cons, not_or] at plain
  rw [sequenceOf, run_bind (run_peek _)]
  simp only [List.head?_cons]
  rw [if_neg (by simp [Mark.plain, plain]), run_bind (run_next _ _)]
  simp only [Mark.plain, Flags.has, List.contains_nil, Bool.false_eq_true, false_and, if_false]
  split
  case h_6 =>
    rw [if_neg (by simp [plain])]
    rfl
  all_goals simp at plain

/-- A repetition before such marks is neither lazy nor possessive. -/
def Greedy (rest : List Mark) : Prop :=
  rest.head? ≠ some (.plain '?') ∧ rest.head? ≠ some (.plain '+')

theorem run_sequenceOf_except {rest : List Mark} (greedy : Greedy rest) (character : Char) :
    (sequenceOf (fuel + 2) [] first parts).run
        (.upTo (.plain '[' :: .plain '^' :: .plain character :: .plain ']' :: .plain '+' :: rest)) =
      (sequenceOf fuel [] first
        (⟨.repeated .greedy 1 none (.one (.literal .exact true character.toNat)), false⟩ ::
          parts)).run (.upTo rest) := by
  have mode : repeatMode.run (.upTo rest) = .ok (.greedy, .upTo rest) := by
    rw [repeatMode, run_bind (run_accept_of_ne greedy.1),
      if_neg Bool.false_ne_true, run_bind (run_accept_of_ne greedy.2)]
    rfl
  have repeats : ∀ regex : Regex, Part.repeatable ⟨regex, false⟩ = true →
      (repeatLast (⟨regex, false⟩ :: parts) ⟨1, none⟩).run (.upTo rest) =
        .ok (⟨.repeated .greedy 1 none regex, false⟩ :: parts, .upTo rest) := by
    intro regex repeatable
    rw [repeatLast, repeatable]
    exact (run_bind mode).trans rfl
  rw [sequenceOf, run_bind (run_peek _)]
  simp only [List.head?_cons]
  rw [if_neg (by decide), run_bind (run_next _ _)]
  refine (run_bind (run_charSet_except character _)).trans ?_
  rw [sequenceOf, run_bind (run_peek _)]
  simp only [List.head?_cons]
  rw [if_neg (by decide), run_bind (run_next _ _)]
  exact (run_bind rfl).trans (run_bind (repeats _ rfl))

end

/-- A part of a whole expression: a plain character, or some characters other than one. -/
inductive Atom
  | literal (character : Char)
  | some (other : Char)
deriving DecidableEq

namespace Atom

def spelled : Atom → List Char
  | .literal character => [character]
  | .some other => ['[', '^', other, ']', '+']

def regex : Atom → Regex
  | .literal character => .one (.literal .exact false character.toNat)
  | .some other => .repeated .greedy 1 none (.one (.literal .exact true other.toNat))

def Plain : Atom → Prop
  | .literal character => character ∉ signs
  | .some other => other ≠ '\\'

theorem Plain.not_mem {atom : Atom} (plain : atom.Plain) : '\\' ∉ atom.spelled := by
  cases atom with
  | literal character =>
      simp only [Plain, signs, List.mem_cons, not_or] at plain
      simpa [spelled] using Ne.symm plain.1
  | some other => simpa [spelled] using Ne.symm plain

end Atom

def steps : List Atom → Nat
  | [] => 0
  | .literal _ :: others => steps others + 1
  | .some _ :: others => steps others + 2

def plainMarks (text : List Char) : List Mark :=
  text.map .plain

theorem marks_of_plain {text : List Char} (plain : '\\' ∉ text) :
    marks text = (plainMarks text, false) := by
  induction text with
  | nil => rfl
  | cons character rest ih =>
      rw [List.mem_cons, not_or] at plain
      rw [marks, ih plain.2]
      · rfl
      · intro same _
        exact plain.1 same.symm
      · intro _ _ same _
        exact plain.1 same.symm

theorem greedy_spelled {atoms : List Atom} (plain : ∀ atom ∈ atoms, atom.Plain)
    {rest : List Mark} (greedy : Greedy rest) :
    Greedy (plainMarks (atoms.flatMap Atom.spelled) ++ rest) := by
  cases atoms with
  | nil => exact greedy
  | cons atom atoms =>
      have own := plain atom List.mem_cons_self
      cases atom with
      | literal character =>
          simp only [Atom.Plain, signs, List.mem_cons, not_or] at own
          simp [Greedy, plainMarks, Atom.spelled, Mark.plain, own]
      | some other => simp [Greedy, plainMarks, Atom.spelled, Mark.plain]

theorem run_sequenceOf_atoms {atoms : List Atom} (plain : ∀ atom ∈ atoms, atom.Plain)
    {rest : List Mark} (greedy : Greedy rest) (fuel : Nat) (first : Bool) (parts : List Part) :
    (sequenceOf (fuel + steps atoms) [] first parts).run
        (.upTo (plainMarks (atoms.flatMap Atom.spelled) ++ rest)) =
      (sequenceOf fuel [] first
        ((atoms.map fun atom => ⟨atom.regex, false⟩).reverse ++ parts)).run (.upTo rest) := by
  induction atoms generalizing parts with
  | nil => rfl
  | cons atom atoms ih =>
      obtain ⟨own, others⟩ := List.forall_mem_cons.mp plain
      have more := greedy_spelled others greedy
      rw [List.map_cons, List.reverse_cons, List.append_assoc, List.singleton_append, ← ih others]
      cases atom with
      | literal character => exact run_sequenceOf_literal _ first parts _ own
      | some other => exact run_sequenceOf_except _ first parts more other

theorem run_alternatives {fuel : Nat} {rest : List Mark} {regex : Regex}
    (branch : (sequenceOf fuel [] true []).run (.upTo rest) = .ok (regex, .upTo [])) :
    (alternatives (fuel + 1) none true).run (.upTo rest) = .ok (regex, .upTo []) := by
  have alone : ([] : List Mark).head? ≠ some (.plain '|') := Option.some_ne_none _ |>.symm
  rw [alternatives, run_bind (run_get _)]
  refine (run_bind branch).trans ?_
  rw [run_bind (run_accept_of_ne alone)]
  rfl

theorem run_wholePattern {size : Nat} {rest : List Mark} {regex : Regex}
    (whole : (alternatives (3 * (size + 2)) none true).run (.upTo rest) = .ok (regex, .upTo []))
    (fixed : regex.looksBehindFixed = true) :
    (wholePattern size).run (.upTo rest) = .ok (regex, .upTo []) := by
  rw [wholePattern, run_bind (run_checkEnd _), run_bind whole, run_bind (run_get _)]
  have count : groupCount.run (.upTo []) = .ok (1, .upTo []) := rfl
  have unflagged : ∀ flag, (Progress.upTo []).flags.has flag = false := fun flag => rfl
  simp only [unflagged, fixed, Bool.false_eq_true, false_and, if_false, Bool.not_true]
  exact (run_bind count).trans rfl

theorem looksBehindFixed_concat {regexes : List Regex}
    (fixed : ∀ regex ∈ regexes, regex.looksBehindFixed = true) :
    (concat regexes).looksBehindFixed = true := by
  induction regexes with
  | nil => rfl
  | cons regex others ih =>
      obtain ⟨own, rest⟩ := List.forall_mem_cons.mp fixed
      cases others with
      | nil => exact own
      | cons next others =>
          rw [concat, looksBehindFixed, own, ih rest]
          · rfl
          · simp

theorem Atom.looksBehindFixed_regex (atom : Atom) : atom.regex.looksBehindFixed = true := by
  cases atom <;> rfl

theorem steps_le_length (atoms : List Atom) :
    steps atoms ≤ (atoms.flatMap Atom.spelled).length := by
  induction atoms with
  | nil => exact Nat.le_refl 0
  | cons atom atoms ih =>
      rw [List.flatMap_cons, List.length_append]
      cases atom with
      | literal character =>
          simp only [steps, Atom.spelled, List.length_singleton]
          omega
      | some other =>
          simp only [steps, Atom.spelled, List.length_cons]
          omega

/-- An expression of plain parts between both anchors is read as it stands. -/
theorem read_anchored {atoms : List Atom} (plain : ∀ atom ∈ atoms, atom.Plain) :
    read (String.ofList ('^' :: atoms.flatMap Atom.spelled ++ ['$'])) =
      .ok (concat (.anchor .textStart :: atoms.map Atom.regex ++ [.anchor .finalLineEnd])) := by
  generalize spelled : '^' :: atoms.flatMap Atom.spelled ++ ['$'] = text
  generalize shape : Regex.anchor .textStart :: atoms.map Atom.regex ++ [.anchor .finalLineEnd] =
    regexes
  have backslash : '\\' ∉ text := by
    rw [← spelled]
    have absent : '\\' ∉ atoms.flatMap Atom.spelled := by
      rw [List.mem_flatMap]
      rintro ⟨atom, member, inside⟩
      exact (plain atom member).not_mem inside
    simp [absent]
  have fixed : (concat regexes).looksBehindFixed = true := by
    refine looksBehindFixed_concat fun regex member => ?_
    rw [← shape, List.cons_append, List.mem_cons, List.mem_append, List.mem_map,
      List.mem_singleton] at member
    rcases member with rfl | ⟨atom, -, rfl⟩ | rfl
    · rfl
    · exact atom.looksBehindFixed_regex
    · rfl
  have ending : Greedy [.plain '$'] := by
    constructor <;> decide
  have sequence : ∀ fuel, (sequenceOf (fuel + 2 + steps atoms + 1) [] true []).run
      (.upTo (plainMarks text)) = .ok (concat regexes, .upTo []) := by
    intro fuel
    have split : plainMarks text =
        .plain '^' :: (plainMarks (atoms.flatMap Atom.spelled) ++ [.plain '$']) := by
      rw [← spelled]
      simp [plainMarks]
    rw [split, run_sequenceOf_start, run_sequenceOf_atoms plain ending, run_sequenceOf_end,
      run_sequenceOf_nil, ← shape]
    simp [Function.comp_def]
  have bound := steps_le_length atoms
  have size : (plainMarks text).length = (atoms.flatMap Atom.spelled).length + 2 := by
    rw [← spelled]
    simp [plainMarks]
  obtain ⟨fuel, enough⟩ : ∃ fuel, 3 * ((plainMarks text).length + 2) =
      fuel + 2 + steps atoms + 1 + 1 :=
    ⟨3 * ((plainMarks text).length + 2) - (4 + steps atoms), by omega⟩
  have whole := run_alternatives (sequence fuel)
  rw [← enough] at whole
  rw [read, String.toList_ofList, marks_of_plain backslash]
  exact congrArg (Except.map Prod.fst) (run_wholePattern whole fixed)

end AccessControl.Regex
