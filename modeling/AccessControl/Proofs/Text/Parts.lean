import AccessControl.Text.Split
import Mathlib.Data.List.Basic

namespace AccessControl.Text

variable {mark : Char}

theorem takeWhile_append_mark {part : List Char} (absent : mark ∉ part) (rest : List Char) :
    (part ++ mark :: rest).takeWhile (· != mark) = part := by
  rw [List.takeWhile_append_of_pos]
  · simp
  · intro character member
    rw [bne_iff_ne]
    rintro rfl
    exact absent member

theorem append_mark_inj {left right after behind : List Char} (absent : mark ∉ left)
    (absentOther : mark ∉ right) (agree : left ++ mark :: after = right ++ mark :: behind) :
    left = right ∧ after = behind := by
  have same := congrArg (List.takeWhile (· != mark)) agree
  rw [takeWhile_append_mark absent, takeWhile_append_mark absentOther] at same
  subst same
  exact ⟨rfl, List.tail_eq_of_cons_eq (List.append_cancel_left agree)⟩

theorem splitAt_of_not_mem {part : List Char} (absent : mark ∉ part) :
    splitAt mark part = [part] := by
  induction part with
  | nil => rfl
  | cons first rest ih =>
      rw [List.mem_cons, not_or] at absent
      rw [splitAt, if_neg (Ne.symm absent.1), ih absent.2]

theorem splitAt_append_mark {part : List Char} (absent : mark ∉ part) (rest : List Char) :
    splitAt mark (part ++ mark :: rest) = part :: splitAt mark rest := by
  induction part with
  | nil => rw [List.nil_append, splitAt, if_pos rfl]
  | cons first others ih =>
      rw [List.mem_cons, not_or] at absent
      rw [List.cons_append, splitAt, if_neg (Ne.symm absent.1), ih absent.2]

theorem splitAt_intercalate {part : List Char} {parts : List (List Char)}
    (absent : ∀ text ∈ part :: parts, mark ∉ text) :
    splitAt mark ([mark].intercalate (part :: parts)) = part :: parts := by
  induction parts generalizing part with
  | nil =>
      rw [List.intercalate_singleton]
      exact splitAt_of_not_mem (absent part List.mem_cons_self)
  | cons next others ih =>
      rw [List.intercalate_cons_cons, List.append_assoc, List.singleton_append,
        splitAt_append_mark (absent part List.mem_cons_self),
        ih fun text member => absent text (List.mem_cons_of_mem _ member)]

theorem parts_induction (mark : Char) {motive : List Char → Prop}
    (last : ∀ part, mark ∉ part → motive part)
    (more : ∀ part rest, mark ∉ part → motive rest → motive (part ++ mark :: rest))
    (text : List Char) : motive text := by
  by_cases member : mark ∈ text
  · obtain ⟨part, rest, whole, absent⟩ := List.eq_append_cons_of_mem member
    rw [whole]
    exact more part rest absent (parts_induction mark last more rest)
  · exact last text member
termination_by text.length
decreasing_by
  rw [whole, List.length_append, List.length_cons]
  omega

theorem splitAt_ne_nil (text : List Char) : splitAt mark text ≠ [] := by
  induction text using parts_induction mark with
  | last part absent => simp [splitAt_of_not_mem absent]
  | more part rest absent _ => simp [splitAt_append_mark absent]

theorem intercalate_splitAt (text : List Char) :
    [mark].intercalate (splitAt mark text) = text := by
  induction text using parts_induction mark with
  | last part absent => rw [splitAt_of_not_mem absent, List.intercalate_singleton]
  | more part rest absent ih =>
      obtain ⟨next, others, split⟩ := List.exists_cons_of_ne_nil (@splitAt_ne_nil mark rest)
      rw [split] at ih
      rw [splitAt_append_mark absent, split, List.intercalate_cons_cons, ih, List.append_assoc]
      rfl

theorem splitAt_injective : Function.Injective (splitAt mark) :=
  Function.LeftInverse.injective intercalate_splitAt

theorem mem_part_of_mem {text : List Char} {character : Char} (member : character ∈ text)
    (other : character ≠ mark) : ∃ part ∈ splitAt mark text, character ∈ part := by
  induction text using parts_induction mark with
  | last part absent => exact ⟨part, by rw [splitAt_of_not_mem absent]; simp, member⟩
  | more part rest absent ih =>
      rw [splitAt_append_mark absent]
      rcases List.mem_append.mp member with inside | member
      · exact ⟨part, List.mem_cons_self, inside⟩
      · obtain ⟨later, among, inside⟩ := ih ((List.mem_cons.mp member).resolve_left other)
        exact ⟨later, List.mem_cons_of_mem _ among, inside⟩

end AccessControl.Text
