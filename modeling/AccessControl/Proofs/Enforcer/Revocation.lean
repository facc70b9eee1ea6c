import AccessControl.Proofs.Enforcer.Mirror

namespace AccessControl

/-! A row that is taken away, and what a reload from a storage in memory makes of it. The
enforcer keeps equal rows out, but its storage may hold equal lines. -/

namespace Lines

variable {key : String} {row : Row} {lines : Lines}

def copies (lines : Lines) (key : String) (row : Row) : Nat :=
  lines.countP (Line.same ⟨key, row.map .text⟩)

theorem copies_pos_iff : 0 < lines.copies key row ↔ row.map .text ∈ lines.under key := by
  rw [copies, List.countP_pos_iff, mem_under]
  simp only [same_text]

theorem copies_remove (lines : Lines) (key : String) (row : Row) :
    (lines.remove key (row.map .text)).copies key row = lines.copies key row - 1 := by
  induction lines with
  | nil => rfl
  | cons line lines ih =>
      rw [copies, copies, remove]
      cases same : Line.same ⟨key, row.map .text⟩ line with
      | true => rw [List.eraseP_cons_of_pos same, List.countP_cons_of_pos same,
          Nat.add_sub_cancel]
      | false =>
          have different := Bool.eq_false_iff.mp same
          rw [List.eraseP_cons_of_neg different, List.countP_cons_of_neg different,
            List.countP_cons_of_neg different]
          exact ih

theorem copies_update {new : Row} (changed : new ≠ row) (lines : Lines) (key : String) :
    (update key (row.map .text) (new.map .text) lines).copies key row =
      lines.copies key row - 1 := by
  induction lines with
  | nil => rfl
  | cons line lines ih =>
      rw [copies, copies, update]
      split
      · next same =>
          rw [List.countP_cons_of_pos same, Nat.add_sub_cancel,
            List.countP_cons_of_neg (changed ∘ same_here.mp)]
      · next different =>
          rw [List.countP_cons_of_neg different, List.countP_cons_of_neg different]
          exact ih

theorem copies_removeFiltered {filter : RowFilter} (accepted : filter.accepts row = true)
    (nonneg : 0 ≤ filter.start) (lines : Lines) (key : String) :
    copies (lines.filter (spares key filter)) key row = 0 := by
  rw [copies, List.countP_eq_zero]
  intro line left same
  obtain ⟨place, fields⟩ := line
  obtain ⟨rfl, rfl⟩ := same_text.mp same
  have spared := (List.mem_filter.mp left).2
  rw [spares, Line.accepts?_text nonneg, accepted] at spared
  exact absurd spared (by decide)

end Lines

namespace Mutation

def Revokes (row : Row) : Mutation Row → Prop
  | .remove _ removed => removed = row
  | .update _ old new => old = row ∧ new ≠ row
  | .removeFiltered _ filter => filter.accepts row = true
  | _ => False

/-- Of equal lines, the change takes the first one only. -/
def TakesFirst : Mutation Row → Prop
  | .remove .. | .update .. => True
  | _ => False

theorem eq_of_readRow_text {model : Model} {key : String} {row found : Row}
    (read : model.readRow key (row.map .text) = .ok found) : row = found :=
  Value.map_text_injective (Model.readRow_eq_ok.mp read).1

theorem eq_of_read_text {model : Model} {key : String} {change other : Mutation Row}
    (done : (change.map fun row => row.map .text).read (model.readRow key) = .ok other) :
    other = change := by
  have all : ∀ {rows found : List Row},
      (rows.map fun row => row.map .text).mapM (model.readRow key) = .ok found →
        rows = found := by
    intro rows found read
    have each := Answer.mapM_eq_ok.mp read
    rw [List.forall₂_map_left_iff] at each
    rw [← List.forall₂_eq_eq_eq]
    exact each.imp fun _ _ => eq_of_readRow_text
  have reads := reads_of_read done
  clear done
  cases change <;> simp only [map] at reads <;> cases reads
  case add.add read | remove.remove read => rw [eq_of_readRow_text read]
  case addAll.addAll read | removeAll.removeAll read => rw [all read]
  case removeFiltered.removeFiltered => rfl
  case update.update readOld readNew =>
    rw [eq_of_readRow_text readOld, eq_of_readRow_text readNew]

variable {change : Mutation Row} {row : Row} (revokes : change.Revokes row)
include revokes

theorem Revokes.copies_pos_iff (forward : change.Forward) (lines : Lines) :
    0 < (change.onLines lines).copies change.key row ↔
      change.TakesFirst ∧ 2 ≤ lines.copies change.key row := by
  cases change with
  | remove key removed =>
      cases revokes
      change 0 < (lines.remove key _).copies key row ↔ True ∧ 2 ≤ lines.copies key row
      rw [Lines.copies_remove, true_and]
      omega
  | update key old new =>
      obtain ⟨rfl, changed⟩ := revokes
      change 0 < (Lines.update key _ _ lines).copies key old ↔
        True ∧ 2 ≤ lines.copies key old
      rw [Lines.copies_update changed, true_and]
      omega
  | removeFiltered key filter =>
      change 0 < (Lines.copies (lines.filter _) key row) ↔ False ∧ _
      rw [Lines.copies_removeFiltered revokes forward]
      simp
  | _ => exact revokes.elim

theorem Revokes.not_mem_onRows {rows : List Row} (distinct : rows.Nodup) :
    row ∉ change.onRows rows := by
  cases change with
  | remove key removed =>
      cases revokes
      exact distinct.not_mem_erase
  | update key old new =>
      obtain ⟨rfl, changed⟩ := revokes
      by_cases stored : old ∈ rows
      · rw [onRows, Bucket.mem_replaceFirst stored, not_or]
        exact ⟨distinct.not_mem_erase, Ne.symm changed⟩
      · rw [onRows, Bucket.replaceFirst_of_not_mem stored]
        exact stored
  | removeFiltered key filter =>
      intro left
      have spared := (List.mem_filter.mp left).2
      rw [revokes] at spared
      cases spared
  | _ => exact revokes.elim

omit revokes in
theorem Revokes.covered (revokes : change.Revokes row) (rows : List Row) :
    change.Covered rows := by
  cases change with
  | removeAll => exact revokes.elim
  | _ => trivial

end Mutation

namespace Enforcer

/-- A row that was taken away is there again after a reload if and only if the storage held
it more than once, only the first copy was taken, and the reload succeeds. -/
theorem returns_iff_copies {enforcer : Enforcer} (reachable : Reachable enforcer)
    (unique : enforcer.settings.uniquePolicies = true)
    (saves : enforcer.switches.autoSave = true) {storage : Storage}
    (memory : storage.kind = .memory) {change : Mutation Row} {row : Row}
    (revokes : change.Revokes row) {revoked reloaded : Enforcer} {followed? kept? : Option Storage}
    {answer : Answer Unit}
    (made : enforcer.mutate (some storage) (change.map fun row => row.map .text) =
      (.ok true, revoked, followed?))
    (loaded : revoked.load followed? = (answer, reloaded, kept?)) :
    row ∈ reloaded.table.rows change.key ↔
      change.TakesFirst ∧ 2 ≤ storage.lines.copies change.key row ∧ answer = .ok () := by
  have sound := reachable.sound
  rcases mutate_memory saves memory (change.map fun row => row.map .text) with
    ⟨other, checked, done⟩ | ⟨notMade, -⟩
  · obtain ⟨read, admitted⟩ := read_of_check checked
    cases Mutation.eq_of_read_text read
    rw [done] at made
    cases made
    rw [@load_memory (enforcer.commit change)
      { storage with lines := change.onLines storage.lines } memory] at loaded
    cases loaded
    rw [install]
    cases staged : (enforcer.commit change).stage (enforcer.commit change).model
        (change.onLines storage.lines) with
    | error fault =>
        simp only [reduceCtorEq, and_false, iff_false]
        rw [table_commit, rows_changeTable sound.table admitted (revokes.covered _)]
        exact revokes.not_mem_onRows (reachable.nodup_rows unique change.key)
    | ok exchanged =>
        obtain ⟨table, graphs⟩ := exchanged
        simp only [and_true]
        change row ∈ table.rows change.key ↔ _
        rw [mem_rows_stageRows (stage_eq_ok staged).1, ← Lines.copies_pos_iff]
        exact revokes.copies_pos_iff (forward_of_admits admitted) storage.lines
  · exact absurd (congrArg Prod.fst made) notMade

theorem returns_iff_copies_staffed :
    ["bob", "staff"] ∉ ((Sample.staffed.mutate (some Sample.storage)
      (.remove "g" [.text "bob", .text "staff"])).2.1.load
        (Sample.staffed.mutate (some Sample.storage)
          (.remove "g" [.text "bob", .text "staff"])).2.2).2.1.table.rows "g" := by
  intro returned
  have copies := (@returns_iff_copies Sample.staffed
    (.after (Sample.reachable_enforcer none) (.mutate none _) trivial) rfl rfl Sample.storage
    rfl (.remove "g" ["bob", "staff"]) ["bob", "staff"] rfl _ _ _ _ _
    (Prod.ext (Answer.eq_ok_of_gives (by decide +kernel)) rfl) rfl).mp returned
  exact absurd copies.2.1 (by decide +kernel)

namespace Sample

def doubled : Storage :=
  .ofLines .memory [⟨"p", [.text "staff", .text "allow"]⟩,
    ⟨"g", [.text "bob", .text "staff"]⟩, ⟨"g", [.text "bob", .text "staff"]⟩]

def loaded : Enforcer :=
  (enforcer none).after (.load (some doubled))

end Sample

/-- Bob is no longer a member of the staff, but is one again after a reload. -/
theorem returns_doubled :
    Reachable Sample.loaded ∧ Sample.loaded.settings.uniquePolicies = true ∧
    Sample.loaded.switches.autoSave = true ∧ Sample.doubled.kind = .memory ∧
    ∃ revoked followed? reloaded kept?,
      Sample.loaded.mutate (some Sample.doubled) (.remove "g" [.text "bob", .text "staff"]) =
        (.ok true, revoked, followed?) ∧
      revoked.load followed? = (.ok (), reloaded, kept?) ∧
      revoked.table.rows "g" = [] ∧ reloaded.table.rows "g" = [["bob", "staff"]] ∧
      Answer.gives ((revoked.decide .standard [.text "bob"] false).1.map (·.allowed))
        false = true ∧
      Answer.gives ((reloaded.decide .standard [.text "bob"] false).1.map (·.allowed))
        true = true := by
  refine ⟨.after (Sample.reachable_enforcer none) (.load _) trivial, rfl, rfl, rfl, _, _, _, _,
    Prod.ext (Answer.eq_ok_of_gives (by decide +kernel)) rfl,
    Prod.ext (Answer.eq_ok_of_gives (by decide +kernel)) rfl, ?_⟩
  decide +kernel

end Enforcer

end AccessControl
