import AccessControl.Proofs.Policy.Refinement

namespace AccessControl

/-! Fields that are counted from the end of a row. The index of a field goes along with that,
but a filter accepts no row then. -/

theorem Row.field?_of_negative (row : Row) {index : Int} (below : index < 0) :
    row.field? index = if row.length + index < 0 then .error (.trap .indexRange)
      else .ok row[(row.length + index).toNat]? := by
  unfold Row.field?
  rw [if_neg (by omega)]
  simp only [if_pos below]

namespace RowFilter

def Single (filter : RowFilter) (value : String) : Prop :=
  value ≠ "" ∧ filter.values = [value]

/-- The filter asks for one value at an index below zero, and some row has that value when
its fields are counted from the end, or does not reach that far. -/
def Astray (filter : RowFilter) (rows : List Row) : Prop :=
  filter.start < 0 ∧ ∃ value, filter.Single value ∧ ∃ row ∈ rows,
    row.length + filter.start < 0 ∨ row[(row.length + filter.start).toNat]? = some value

theorem accepts_of_negative {filter : RowFilter} (below : filter.start < 0) (row : Row) :
    filter.accepts row = false := by
  have notThere : decide (0 ≤ filter.start) = false := decide_eq_false (by omega)
  rw [accepts, notThere]
  rfl

theorem accepts_single {filter : RowFilter} {value : String} (single : filter.Single value)
    {place : Nat} (there : filter.start = place) (row : Row) :
    filter.accepts row = decide (row[place]? = some value) := by
  obtain ⟨notEmpty, values⟩ := single
  have filled : value.isEmpty = false := by simpa using notEmpty
  rw [accepts, there, values, Int.toNat_natCast, List.length_singleton,
    decide_eq_true (Int.natCast_nonneg place), Bool.true_and]
  by_cases inside : place < row.length
  · have reaches : (place : Int) + (1 : Nat) ≤ row.length := by omega
    rw [decide_eq_true reaches, List.drop_eq_getElem_cons inside, List.zip_cons_cons,
      List.zip_nil_left, List.all_cons, List.all_nil, agrees, filled,
      List.getElem?_eq_getElem inside]
    simp [beq_eq_decide]
  · have short : ¬ (place : Int) + (1 : Nat) ≤ row.length := by omega
    rw [decide_eq_false short, List.getElem?_eq_none (by omega)]
    simp

end RowFilter

namespace PolicyTable

theorem indexOf_congr {rows : List Row} {index other : Int}
    (same : ∀ row ∈ rows, row.field? index = row.field? other) :
    indexOf rows index = indexOf rows other := by
  unfold indexOf
  generalize ([] : FieldIndex) = entries
  induction rows generalizing entries with
  | nil => rfl
  | cons row rows ih =>
      rw [List.foldlM_cons, List.foldlM_cons, indexRow, indexRow, same row List.mem_cons_self]
      refine congrArg _ (funext fun next => ih (fun row later => ?_) next)
      exact same row (List.mem_cons_of_mem _ later)

section

variable {rows : List Row} {length : Nat} (alike : ∀ row ∈ rows, row.length = length)
include alike

theorem indexOf_from_end {index : Int} (below : index < 0) (inside : 0 ≤ length + index) :
    indexOf rows index = indexOf rows ((length + index).toNat : Nat) := by
  refine indexOf_congr fun row member => ?_
  rw [row.field?_of_negative below, alike row member, if_neg (by omega), Row.field?_natCast]

theorem indexOf_beyond_end {index : Int} (beyond : length + index < 0) (stored : rows ≠ []) :
    indexOf rows index = .error (.trap .indexRange) := by
  obtain ⟨row, others, rfl⟩ := List.exists_cons_of_ne_nil stored
  rw [indexOf, List.foldlM_cons, indexRow, row.field?_of_negative (by omega),
    alike row List.mem_cons_self, if_pos beyond]
  rfl

theorem indexOf_of_not_astray {filter : RowFilter} {value : String}
    (single : filter.Single value) (straight : ¬ filter.Astray rows) :
    ∃ entries, indexOf rows filter.start = .ok entries ∧
      (entries.lookup value).getD [] = rows.filter filter.accepts := by
  by_cases below : filter.start < 0
  · have refused : rows.filter filter.accepts = [] :=
      List.filter_eq_nil_iff.mpr fun row _ => by simp [filter.accepts_of_negative below row]
    rw [refused]
    have missed : ∀ row ∈ rows, ¬ (row.length + filter.start < 0 ∨
        row[(row.length + filter.start).toNat]? = some value) :=
      fun row member found => straight ⟨below, value, single, row, member, found⟩
    by_cases inside : 0 ≤ length + filter.start
    · obtain ⟨entries, listed, indexed⟩ := exists_indexOf rows (length + filter.start).toNat
      refine ⟨entries, (indexOf_from_end alike below inside).trans listed, ?_⟩
      rw [indexed.lookup, List.filter_eq_nil_iff]
      intro row member
      have absent := not_or.mp (missed row member)
      rw [alike row member] at absent
      simpa using absent.2
    · cases rows with
      | nil => exact ⟨[], rfl, rfl⟩
      | cons row rows =>
          have first := missed row List.mem_cons_self
          rw [alike row List.mem_cons_self] at first
          exact absurd (.inl (by omega)) first
  · obtain ⟨place, there⟩ := Int.eq_ofNat_of_zero_le (Int.not_lt.mp below)
    obtain ⟨entries, listed, indexed⟩ := exists_indexOf rows place
    refine ⟨entries, by rw [there]; exact listed, ?_⟩
    rw [indexed.lookup]
    exact List.filter_congr fun row _ => (RowFilter.accepts_single single there row).symm

/-- Where the filter goes astray, the index fails, or gives rows that no filter accepts. -/
theorem indexOf_of_astray {filter : RowFilter} {value : String}
    (single : filter.Single value) (astray : filter.Astray rows) :
    indexOf rows filter.start = .error (.trap .indexRange) ∨
      ∃ entries, indexOf rows filter.start = .ok entries ∧
        (entries.lookup value).getD [] ≠ [] := by
  obtain ⟨below, other, ⟨-, same⟩, row, member, found⟩ := astray
  rw [single.2] at same
  cases same
  rw [alike row member] at found
  by_cases inside : 0 ≤ length + filter.start
  · obtain ⟨entries, listed, indexed⟩ := exists_indexOf rows (length + filter.start).toNat
    refine .inr ⟨entries, (indexOf_from_end alike below inside).trans listed, ?_⟩
    rw [indexed.lookup]
    refine List.ne_nil_of_mem (List.mem_filter.mpr ⟨member, ?_⟩)
    rcases found with short | has
    · omega
    · exact decide_eq_true has
  · exact .inl (indexOf_beyond_end alike (by omega) (List.ne_nil_of_mem member))

end

section

variable {table : PolicyTable} (exact : table.Exact) {key : String} {index : Int}
  {value : String}
include exact

theorem Exact.withField_fst :
    (table.withField key index value).map Prod.fst =
      (indexOf (table.rows key) index).map fun entries => (entries.lookup value).getD [] := by
  unfold PolicyTable.withField
  cases remembered : table.indexes.lookup (key, index) with
  | some entries =>
      have indexed : indexOf (table.rows key) index = .ok entries :=
        exact.indexed _ (Entries.mem_of_lookup remembered)
      rw [indexed]
      rfl
  | none => cases indexOf (table.rows key) index <;> rfl

theorem Exact.of_withField {rows : List Row} {next : PolicyTable}
    (looked : table.withField key index value = .ok (rows, next)) : next.Exact := by
  unfold PolicyTable.withField at looked
  split at looked
  · cases looked
    exact exact
  · obtain ⟨entries, listed, whole⟩ := Answer.bind_eq_ok.mp looked
    cases whole
    refine exact.withIndexes fun entry member => ?_
    rcases Entries.mem_put member with rfl | old
    · exact .inr listed
    · exact .inl old

theorem Exact.getD {made : Option PolicyTable} {reference : Option RowLists}
    (follows : Follows made reference) : (made.getD table).Exact := by
  cases follows with
  | refused => exact exact
  | made next => exact next

end

end PolicyTable

end AccessControl
