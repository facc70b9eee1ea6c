import AccessControl.Proofs.Enforcer.Rows

namespace AccessControl.Enforcer

/-- Rows taken up one after the other. Where they must be distinct, a row that is there
already is left out. -/
def takeUp (unique : Bool) (rows : List Row) : List Row → List Row
  | [] => rows
  | row :: more =>
      takeUp unique (if unique && rows.contains row then rows else rows ++ [row]) more

theorem mem_takeUp {unique : Bool} {rows added : List Row} {row : Row} :
    row ∈ takeUp unique rows added ↔ row ∈ rows ∨ row ∈ added := by
  induction added generalizing rows with
  | nil => simp [takeUp]
  | cons first more ih =>
      rw [takeUp, ih, List.mem_cons]
      split
      · next left =>
          have present : first ∈ rows := by simpa using (Bool.and_eq_true_iff.mp left).2
          constructor
          · rintro (old | later)
            · exact .inl old
            · exact .inr (.inr later)
          · rintro (old | rfl | later)
            · exact .inl old
            · exact .inl present
            · exact .inr later
      · rw [List.mem_append, List.mem_singleton, or_assoc]

theorem takeUp_eq_append {unique : Bool} {rows added : List Row}
    (distinct : unique = true → (rows ++ added).Nodup) :
    takeUp unique rows added = rows ++ added := by
  induction added generalizing rows with
  | nil => simp [takeUp]
  | cons first more ih =>
      have new : (unique && rows.contains first) = false := by
        cases unique with
        | false => rfl
        | true =>
            have apart := (List.nodup_append.mp (distinct rfl)).2.2
            simp only [Bool.true_and, List.contains_eq_mem, decide_eq_false_iff_not]
            exact fun present => apart first present first List.mem_cons_self rfl
      rw [takeUp, new, if_neg Bool.false_ne_true, ih]
      · simp
      · intro isUnique
        simpa using distinct isUnique

section

variable {model : Model} {table staged : PolicyTable} {lines : Lines}

theorem rows_insert? (sound : table.Sound) (key : String) (row : Row) :
    ((table.insert? key row).getD table).rows key =
      takeUp (table.isUnique key) (table.rows key) [row] := by
  have has_eq : table.has key row = (table.rows key).contains row := by
    rw [Bool.eq_iff_iff, sound.has_iff, List.contains_iff_mem]
  rw [takeUp, takeUp, PolicyTable.insert?, has_eq]
  split
  · rfl
  · exact PolicyTable.rows_withBucket_self table key _

theorem rows_stageRows (sound : table.Sound)
    (done : stageRows model table lines = .ok staged) (key : String) :
    ∃ added, lines.Holds key added ∧
      staged.rows key = takeUp (table.isUnique key) (table.rows key) added := by
  induction lines generalizing table with
  | nil =>
      cases done
      exact ⟨[], .nil, rfl⟩
  | cons line lines ih =>
      obtain ⟨row, read, rest⟩ := Answer.bind_eq_ok.mp done
      have same : PolicyTable.SameElsewhere line.key table
          ((table.insert? line.key row).getD table) :=
        .getD fun _ made => PolicyTable.sameElsewhere_insert? made
      obtain ⟨added, holds, taken⟩ := ih (sound.getD fun _ made => sound.insert? made) rest
      rw [same.isUnique] at taken
      by_cases here : line.key = key
      · subst here
        rw [rows_insert? sound] at taken
        obtain ⟨key, fields⟩ := line
        cases (Model.readRow_eq_ok.mp read).1
        exact ⟨row :: added, .here row holds, taken⟩
      · rw [same.rows (Ne.symm here)] at taken
        exact ⟨added, .elsewhere here holds, taken⟩

theorem exists_stageRows
    (fit : ∀ line ∈ lines, ∃ row, model.readRow line.key line.fields = .ok row) :
    ∃ staged, stageRows model table lines = .ok staged := by
  induction lines generalizing table with
  | nil => exact ⟨table, rfl⟩
  | cons line lines ih =>
      obtain ⟨row, read⟩ := fit line List.mem_cons_self
      obtain ⟨staged, rest⟩ := ih fun other later => fit other (List.mem_cons_of_mem _ later)
      exact ⟨staged, Answer.bind_eq_ok.mpr ⟨row, read, rest⟩⟩

end

theorem mem_rows_stageRows {settings : Settings} {model : Model} {staged : PolicyTable}
    {lines : Lines} (done : stageRows model (newTable settings model) lines = .ok staged)
    {key : String} {row : Row} :
    row ∈ staged.rows key ↔ row.map .text ∈ lines.under key := by
  obtain ⟨added, holds, taken⟩ := rows_stageRows (sound_newTable settings model) done key
  rw [taken, mem_takeUp, rows_newTable, holds.under_eq, Lines.mem_fieldsOf]
  simp

theorem rows_stageRows_new {settings : Settings} {model : Model} {staged : PolicyTable}
    {lines : Lines} (done : stageRows model (newTable settings model) lines = .ok staged)
    {key : String} {rows : List Row} (holds : lines.Holds key rows)
    (distinct : settings.uniquePolicies = true → rows.Nodup) :
    staged.rows key = rows := by
  obtain ⟨added, same, taken⟩ := rows_stageRows (sound_newTable settings model) done key
  cases Lines.fieldsOf_inj (same.under_eq.symm.trans holds.under_eq)
  rw [taken, takeUp_eq_append, rows_newTable, List.nil_append]
  intro unique
  rw [isUnique_newTable, Bool.and_eq_true] at unique
  rw [rows_newTable, List.nil_append]
  exact distinct unique.1

end AccessControl.Enforcer
