import AccessControl.Storage.Basic
import Mathlib.Data.List.Basic

namespace AccessControl

theorem Value.equalLists_text {row : Row} {fields : Fields} :
    Value.equalLists (row.map .text) fields = true ↔ fields = row.map .text := by
  induction row generalizing fields with
  | nil =>
      cases fields with
      | nil => simp [equalLists]
      | cons field fields => simp [equalLists]
  | cons text row ih =>
      cases fields with
      | nil => simp [equalLists]
      | cons field fields =>
          have first : (equal (.text text) field || sameFloat (.text text) field) = true ↔
              field = .text text := by
            cases field with
            | text other =>
                simp only [equal, sameFloat, Bool.or_false, beq_iff_eq, Value.text.injEq]
                exact eq_comm
            | _ => simp [equal, sameFloat]
          simp [equalLists, first, ih]

theorem Value.map_text_injective : Function.Injective fun row : Row => row.map Value.text :=
  List.map_injective_iff.mpr fun _ _ => Value.text.inj

namespace Lines

def fieldsOf (rows : List Row) : List Fields :=
  rows.map fun row => row.map .text

def under (lines : Lines) (key : String) : List Fields :=
  (lines.filter (·.key == key)).map (·.fields)

theorem fieldsOf_inj {rows others : List Row} (same : fieldsOf rows = fieldsOf others) :
    rows = others :=
  List.map_injective_iff.mpr Value.map_text_injective same

theorem mem_fieldsOf {row : Row} {rows : List Row} :
    row.map .text ∈ fieldsOf rows ↔ row ∈ rows :=
  List.mem_map_of_injective Value.map_text_injective

theorem same_text {key : String} {row : Row} {line : Line} :
    Line.same ⟨key, row.map .text⟩ line = true ↔
      line.key = key ∧ line.fields = row.map .text := by
  simp only [Line.same, Bool.and_eq_true, beq_iff_eq, Value.equalLists_text]
  exact and_congr_left' eq_comm

theorem mem_under {lines : Lines} {key : String} {fields : Fields} :
    fields ∈ lines.under key ↔ ∃ line ∈ lines, line.key = key ∧ line.fields = fields := by
  simp [under, and_assoc]

theorem under_cons_self {line : Line} {key : String} (here : line.key = key)
    (lines : Lines) : under (line :: lines) key = line.fields :: under lines key := by
  simp [under, here]

theorem under_cons_of_ne {line : Line} {key : String} (elsewhere : line.key ≠ key)
    (lines : Lines) : under (line :: lines) key = under lines key := by
  simp [under, elsewhere]

inductive Holds (key : String) : Lines → List Row → Prop
  | nil : Holds key [] []
  | here {lines : Lines} {rows : List Row} (row : Row) (rest : Holds key lines rows) :
      Holds key (⟨key, row.map .text⟩ :: lines) (row :: rows)
  | elsewhere {line : Line} {lines : Lines} {rows : List Row} (different : line.key ≠ key)
      (rest : Holds key lines rows) : Holds key (line :: lines) rows

theorem Holds.under_eq {key : String} {lines : Lines} {rows : List Row}
    (holds : Holds key lines rows) : lines.under key = fieldsOf rows := by
  induction holds with
  | nil => rfl
  | here row _ ih =>
      rw [under_cons_self rfl, ih]
      rfl
  | elsewhere different _ ih => rw [under_cons_of_ne different, ih]

theorem holds_of_under_eq {key : String} {lines : Lines} {rows : List Row}
    (held : lines.under key = fieldsOf rows) : Holds key lines rows := by
  induction lines generalizing rows with
  | nil =>
      cases rows with
      | nil => exact .nil
      | cons row rows => cases held
  | cons line lines ih =>
      by_cases here : line.key = key
      · rw [under_cons_self here] at held
        cases rows with
        | nil => cases held
        | cons row rows =>
            obtain ⟨first, rest⟩ := List.cons.inj held
            obtain ⟨key, fields⟩ := line
            cases here
            cases first
            exact .here row (ih rest)
      · rw [under_cons_of_ne here] at held
        exact .elsewhere here (ih held)

theorem same_here {key : String} {row other : Row} :
    Line.same ⟨key, row.map .text⟩ ⟨key, other.map .text⟩ = true ↔ other = row := by
  rw [same_text]
  constructor
  · rintro ⟨-, texts⟩
    exact Value.map_text_injective texts
  · rintro rfl
    exact ⟨rfl, rfl⟩

theorem not_same_of_ne {key : String} {line : Line} (elsewhere : line.key ≠ key) (row : Row) :
    ¬ Line.same ⟨key, row.map .text⟩ line = true := fun same =>
  elsewhere (same_text.mp same).1

theorem Holds.remove {key : String} {lines : Lines} {rows : List Row}
    (holds : Holds key lines rows) (row : Row) :
    Holds key (lines.remove key (row.map .text)) (rows.erase row) := by
  induction holds with
  | nil => exact .nil
  | @here lines rows other rest ih =>
      rw [Lines.remove]
      by_cases isRow : other = row
      · rw [List.eraseP_cons_of_pos (same_here.mpr isRow), isRow, List.erase_cons_head]
        exact rest
      · rw [List.eraseP_cons_of_neg (isRow ∘ same_here.mp),
          List.erase_cons_tail (by simpa using isRow)]
        exact .here other ih
  | elsewhere different rest ih =>
      rw [Lines.remove, List.eraseP_cons_of_neg (not_same_of_ne different row)]
      exact .elsewhere different ih

theorem Holds.removeAll {key : String} {lines : Lines} {rows : List Row}
    (holds : Holds key lines rows) (listed : List Row) :
    Holds key ((fieldsOf listed).foldl (·.remove key ·) lines) (rows.diff listed) := by
  induction listed generalizing lines rows with
  | nil => exact holds
  | cons row listed ih =>
      rw [fieldsOf, List.map_cons, List.foldl_cons, List.diff_cons]
      exact ih (holds.remove row)

end Lines

end AccessControl
