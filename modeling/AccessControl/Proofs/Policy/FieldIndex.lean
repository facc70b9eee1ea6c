import AccessControl.Policy.Table
import AccessControl.Proofs.Answer
import AccessControl.Proofs.Entries
import Mathlib.Data.List.Induction

namespace AccessControl

/-! Rows by the value of one field. At an index that is not below zero every row
has its field or ends before it, and the rows of a value are those that have it. -/

theorem Row.field?_natCast (row : Row) (index : Nat) :
    row.field? index = .ok row[index]? := by
  unfold Row.field?
  by_cases short : row.length ≤ index
  · rw [if_pos (by omega), List.getElem?_eq_none short]
  · rw [if_neg (by omega)]
    simp only [Int.natCast_nonneg, Int.not_lt_of_ge, if_false, Int.toNat_natCast]

namespace FieldIndex

structure Of (place : Nat) (rows : List Row) (entries : FieldIndex) : Prop where
  keys : Entries.keys entries = (rows.filterMap (·[place]?)).eraseDups
  lookup : ∀ value, (entries.lookup value).getD [] =
    rows.filter fun row => decide (row[place]? = some value)

theorem of_nil (place : Nat) : Of place [] [] :=
  ⟨rfl, fun _ => rfl⟩

theorem Of.short {place : Nat} {rows : List Row} {entries : FieldIndex}
    (indexed : Of place rows entries) {row : Row} (ends : row[place]? = none) :
    Of place (rows ++ [row]) entries := by
  constructor
  · simp only [List.filterMap_append, List.filterMap_cons, ends, List.filterMap_nil,
      List.append_nil]
    exact indexed.keys
  · intro value
    rw [List.filter_append, List.filter_cons_of_neg (by simp [ends]), List.filter_nil,
      List.append_nil]
    exact indexed.lookup value

theorem keys_put_eraseDups {value : String} {listed : List String}
    {entries : FieldIndex} (known : Entries.keys entries = listed.eraseDups)
    (rows : List Row) :
    Entries.keys (Entries.put value rows entries) = (listed ++ [value]).eraseDups := by
  rw [List.eraseDups_append]
  by_cases member : value ∈ listed
  · have stored : value ∈ Entries.keys entries := by
      rw [known, List.mem_eraseDups]
      exact member
    rw [Entries.keys_put_of_mem stored, known]
    simp [List.removeAll, member]
  · have absent : value ∉ Entries.keys entries := by
      rw [known, List.mem_eraseDups]
      exact member
    rw [Entries.keys_put_of_not_mem absent, known]
    simp [List.removeAll, member, List.eraseDups_cons]

theorem Of.reaches {place : Nat} {rows : List Row} {entries : FieldIndex}
    (indexed : Of place rows entries) {row : Row} {value : String}
    (has : row[place]? = some value) :
    Of place (rows ++ [row])
      (Entries.put value ((entries.lookup value).getD [] ++ [row]) entries) := by
  constructor
  · simp only [List.filterMap_append, List.filterMap_cons, has, List.filterMap_nil]
    exact keys_put_eraseDups indexed.keys _
  · intro other
    rw [List.filter_append, ← indexed.lookup other]
    by_cases same : other = value
    · subst same
      rw [Entries.lookup_put_self, List.filter_cons_of_pos (by simp [has]),
        List.filter_nil, Option.getD_some]
    · rw [Entries.lookup_put_of_ne same,
        List.filter_cons_of_neg (by simpa [has] using Ne.symm same), List.filter_nil,
        List.append_nil]

end FieldIndex

namespace PolicyTable

theorem exists_indexOf (rows : List Row) (place : Nat) :
    ∃ entries, indexOf rows place = .ok entries ∧ FieldIndex.Of place rows entries := by
  induction rows using List.reverseRecOn with
  | nil => exact ⟨[], rfl, FieldIndex.of_nil place⟩
  | append_singleton rows row ih =>
      obtain ⟨entries, listed, indexed⟩ := ih
      have step : indexOf (rows ++ [row]) place = indexRow place entries row := by
        rw [indexOf, List.foldlM_append, ← indexOf, listed]
        change List.foldlM (indexRow place) entries [row] = _
        simp only [List.foldlM_cons, List.foldlM_nil, bind_pure]
      rw [step, indexRow, Row.field?_natCast]
      cases has : row[place]? with
      | none => exact ⟨entries, rfl, indexed.short has⟩
      | some value => exact ⟨_, rfl, indexed.reaches has⟩

theorem of_indexOf {rows : List Row} {place : Nat} {entries : FieldIndex}
    (listed : indexOf rows place = .ok entries) : FieldIndex.Of place rows entries := by
  obtain ⟨found, isFound, indexed⟩ := exists_indexOf rows place
  rw [listed] at isFound
  cases isFound
  exact indexed

end PolicyTable

end AccessControl
