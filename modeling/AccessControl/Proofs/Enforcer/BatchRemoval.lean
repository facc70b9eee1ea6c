import AccessControl.Proofs.Enforcer.Change
import AccessControl.Proofs.Storage.Follow

namespace AccessControl

/-! Removal of a list of rows. The list is admitted if each of its rows is stored, but
the table erases them only if they are stored as often as they are listed. -/

/-- Every row is stored as often as it is listed. -/
def Contained (listed stored : List Row) : Prop :=
  ∀ row, listed.count row ≤ stored.count row

/-- All rows are stored, but one of them less often than it is listed. -/
def Overdrawn (listed stored : List Row) : Prop :=
  (∀ row ∈ listed, row ∈ stored) ∧ ¬ Contained listed stored

theorem Contained.stored {listed stored : List Row} (contained : Contained listed stored)
    {row : Row} (member : row ∈ listed) : row ∈ stored := by
  have counted := contained row
  have positive := List.count_pos_iff.mpr member
  exact List.count_pos_iff.mp (by omega)

theorem Overdrawn.ne_nil {listed stored : List Row} (overdrawn : Overdrawn listed stored) :
    listed ≠ [] := by
  rintro rfl
  exact overdrawn.2 fun row => Nat.zero_le _

theorem diff_ne_self {listed stored : List Row} (nonempty : listed ≠ [])
    (present : ∀ row ∈ listed, row ∈ stored) : stored.diff listed ≠ stored := by
  obtain ⟨row, member⟩ := List.exists_mem_of_ne_nil listed nonempty
  intro same
  have counted := congrArg (List.count row) same
  rw [List.count_diff] at counted
  have listedOnce := List.count_pos_iff.mpr member
  have storedOnce := List.count_pos_iff.mpr (present row member)
  omega

theorem not_mem_diff {listed stored : List Row} (distinct : stored.Nodup) {row : Row}
    (member : row ∈ listed) : row ∉ stored.diff listed := by
  rw [← List.count_eq_zero, List.count_diff]
  have once := List.nodup_iff_count_le_one.mp distinct row
  have listedOnce := List.count_pos_iff.mpr member
  omega

namespace PolicyTable

variable {table : PolicyTable} (sound : table.Sound) {key : String} {listed : List Row}
include sound

theorem Sound.containsAll_iff :
    (table.bucket key).tally.containsAll listed = true ↔
      Contained listed (table.rows key) :=
  (sound.counted key).containsAll_iff listed

theorem Sound.rows_eraseAll? (contained : Contained listed (table.rows key)) :
    ((table.eraseAll? key listed).getD table).rows key =
      (table.rows key).diff listed := by
  unfold PolicyTable.eraseAll?
  rw [sound.containsAll_iff.mpr contained]
  simp only [Bool.not_true, Bool.false_eq_true, if_false]
  split
  · next empty =>
      rw [List.isEmpty_iff.mp empty]
      rfl
  · rw [Option.getD_some, rows_withBucket_self, Bucket.rows_eraseAll]
    rfl

theorem Sound.eraseAll?_of_not_contained
    (exceeding : ¬ Contained listed (table.rows key)) :
    (table.eraseAll? key listed).getD table = table := by
  unfold PolicyTable.eraseAll?
  rw [← sound.containsAll_iff, Bool.not_eq_true] at exceeding
  rw [exceeding]
  rfl

end PolicyTable

namespace Enforcer

theorem persist_memory {storage : Storage} (memory : storage.kind = .memory)
    {change : Mutation Row} (forward : change.Forward) :
    persist storage change = (.ok (), { storage with lines := change.onLines storage.lines }) := by
  rw [persist, Storage.follow_memory memory forward]

section

variable {enforcer : Enforcer} {storage? : Option Storage} {key : String}
  {fields : List Fields} {rows : List Row}

theorem admits_removeAll_iff (sound : enforcer.Sound) :
    admits enforcer.table (.removeAll key rows) = true ↔
      rows ≠ [] ∧ ∀ row ∈ rows, row ∈ enforcer.table.rows key := by
  simp only [admits, Bool.and_eq_true, Bool.not_eq_true', List.isEmpty_eq_false_iff,
    List.all_eq_true, sound.table.has_iff]

theorem check_removeAll (valid : fields.mapM (enforcer.model.readRow key) = .ok rows) :
    enforcer.check (.removeAll key fields) =
      .ok (if admits enforcer.table (.removeAll key rows) then some (.removeAll key rows)
        else none) := by
  simp only [check, Mutation.key, Mutation.read, valid]
  rfl

def Willing (enforcer : Enforcer) (storage? : Option Storage) (key : String)
    (rows : List Row) : Prop :=
  ∀ storage, storage? = some storage → enforcer.switches.autoSave = true →
    storage.kind.immediate = true →
      (persist storage (.removeAll key rows)).1 = .ok ()

theorem willing_of_memory (memory : ∀ storage, storage? = some storage →
    storage.kind = .memory) : enforcer.Willing storage? key rows := by
  intro storage attached _ _
  rw [@persist_memory _ (memory storage attached) (.removeAll key rows) trivial]

theorem mutate_removeAll_refused
    (valid : fields.mapM (enforcer.model.readRow key) = .ok rows)
    (refused : ¬ admits enforcer.table (.removeAll key rows) = true) :
    enforcer.mutate storage? (.removeAll key fields) = (.ok false, enforcer, storage?) := by
  rw [mutate, mutateBy, check_removeAll valid, if_neg refused]

theorem mutate_removeAll_made (willing : enforcer.Willing storage? key rows)
    (valid : fields.mapM (enforcer.model.readRow key) = .ok rows)
    (admitted : admits enforcer.table (.removeAll key rows) = true) :
    ∃ later?, enforcer.mutate storage? (.removeAll key fields) =
        (.ok true, enforcer.commit (.removeAll key rows), later?) ∧
      ∀ storage, storage? = some storage → enforcer.switches.autoSave = true →
        storage.kind.immediate = true →
          later? = some (persist storage (.removeAll key rows)).2 := by
  have checked := check_removeAll valid
  rw [if_pos admitted] at checked
  rcases mutateBy_of_checked storage? checked with ⟨-, made⟩ | ⟨hindered, -⟩
  · exact made
  · exact absurd willing hindered

theorem mutate_removeAll_failed (unwilling : ¬ enforcer.Willing storage? key rows)
    (valid : fields.mapM (enforcer.model.readRow key) = .ok rows)
    (admitted : admits enforcer.table (.removeAll key rows) = true) :
    ∃ failure, (enforcer.mutate storage? (.removeAll key fields)).1 = .error failure := by
  have checked := check_removeAll valid
  rw [if_pos admitted] at checked
  rcases mutateBy_of_checked storage? checked with
    ⟨willing, -⟩ | ⟨-, storage, fault, later?, -, -, failed⟩
  · exact absurd willing unwilling
  · exact ⟨.storage fault, congrArg Prod.fst failed⟩

theorem table_commit (enforcer : Enforcer) (change : Mutation Row) :
    (enforcer.commit change).table = changeTable enforcer.table change := by
  rw [commit_eq]

theorem rows_commit_of_ne {enforcer : Enforcer} {change : Mutation Row} {key : String}
    (different : key ≠ change.key) : (enforcer.commit change).rows key = enforcer.rows key := by
  rw [rows, table_commit]
  exact (sameElsewhere_changeTable enforcer.table change).rows different

/-- A batch is removed exactly if all its rows are stored as often as they are listed.
Then they are gone that often, also from a storage that held the same rows; otherwise
nothing has changed. -/
structure RemovedExactly (enforcer : Enforcer) (storage? : Option Storage) (key : String)
    (fields : List Fields) (rows : List Row) : Prop where
  returns : ∃ made, (enforcer.mutate storage? (.removeAll key fields)).1 = .ok made
  made_iff : (enforcer.mutate storage? (.removeAll key fields)).1 = .ok true ↔
    rows ≠ [] ∧ Contained rows (enforcer.table.rows key)
  removed : (enforcer.mutate storage? (.removeAll key fields)).1 = .ok true →
    (enforcer.mutate storage? (.removeAll key fields)).2.1.table.rows key =
      (enforcer.table.rows key).diff rows
  gone : (enforcer.mutate storage? (.removeAll key fields)).1 = .ok true →
    enforcer.settings.uniquePolicies = true → ∀ row ∈ rows,
      row ∉ (enforcer.mutate storage? (.removeAll key fields)).2.1.table.rows key
  elsewhere : ∀ other, other ≠ key →
    (enforcer.mutate storage? (.removeAll key fields)).2.1.table.rows other =
      enforcer.table.rows other
  followed : (enforcer.mutate storage? (.removeAll key fields)).1 = .ok true →
    enforcer.switches.autoSave = true → ∀ storage, storage? = some storage →
      storage.kind = .memory →
      storage.lines.under key = Lines.fieldsOf (enforcer.table.rows key) →
      ∃ later, (enforcer.mutate storage? (.removeAll key fields)).2.2 = some later ∧
        later.lines.under key = Lines.fieldsOf
          ((enforcer.mutate storage? (.removeAll key fields)).2.1.table.rows key)
  refused : (enforcer.mutate storage? (.removeAll key fields)).1 = .ok false →
    (enforcer.mutate storage? (.removeAll key fields)).2 = (enforcer, storage?)

theorem removedExactly_of_refused
    (valid : fields.mapM (enforcer.model.readRow key) = .ok rows)
    (refused : ¬ admits enforcer.table (.removeAll key rows) = true)
    (notContained : ¬ (rows ≠ [] ∧ Contained rows (enforcer.table.rows key))) :
    RemovedExactly enforcer storage? key fields rows := by
  have left := @mutate_removeAll_refused _ storage? _ _ _ valid refused
  constructor <;> rw [left]
  · exact ⟨false, rfl⟩
  · exact ⟨fun made => (by cases made), fun contained => absurd contained notContained⟩
  · exact fun made => by cases made
  · exact fun made => by cases made
  · exact fun _ _ => rfl
  · exact fun made => by cases made
  · exact fun _ => rfl

theorem follows_removeAll {storage : Storage} (memory : storage.kind = .memory)
    {stored : List Row} (held : storage.lines.under key = Lines.fieldsOf stored) :
    (persist storage (.removeAll key rows)).2.lines.under key =
      Lines.fieldsOf (stored.diff rows) := by
  rw [@persist_memory _ memory (.removeAll key rows) trivial]
  exact ((Lines.holds_of_under_eq held).removeAll rows).under_eq

theorem removedExactly_of_contained (sound : enforcer.Sound)
    (willing : enforcer.Willing storage? key rows)
    (valid : fields.mapM (enforcer.model.readRow key) = .ok rows) (nonempty : rows ≠ [])
    (contained : Contained rows (enforcer.table.rows key)) :
    RemovedExactly enforcer storage? key fields rows := by
  have admitted := (admits_removeAll_iff sound).mpr ⟨nonempty, fun _ => contained.stored⟩
  obtain ⟨later?, left, follows⟩ := mutate_removeAll_made willing valid admitted
  have after : (enforcer.commit (.removeAll key rows)).table.rows key =
      (enforcer.table.rows key).diff rows := by
    rw [table_commit]
    exact sound.table.rows_eraseAll? contained
  constructor <;> rw [left]
  · exact ⟨true, rfl⟩
  · exact ⟨fun _ => ⟨nonempty, contained⟩, fun _ => rfl⟩
  · exact fun _ => after
  · intro _ unique row member
    rw [after]
    refine not_mem_diff (sound.table.distinct key ?_) member
    obtain ⟨found, -, read⟩ := Answer.mem_of_mapM valid member
    rw [sound.isUnique_eq, unique, Bool.true_and, List.contains_iff_mem]
    exact Model.mem_rowKeys_of_readRow read
  · intro other different
    rw [table_commit]
    exact (sameElsewhere_changeTable enforcer.table (.removeAll key rows)).rows different
  · intro _ saves storage attached memory held
    refine ⟨_, follows storage attached saves (by rw [memory]; rfl), ?_⟩
    rw [after]
    exact follows_removeAll memory held
  · exact fun notMade => by cases notMade

/-- A batch is said to be removed, but the enforcer loses no row, while a storage that held
the same rows loses some. -/
structure RemovedInStorageOnly (enforcer : Enforcer) (storage? : Option Storage)
    (key : String) (fields : List Fields) (rows : List Row) : Prop where
  made : (enforcer.mutate storage? (.removeAll key fields)).1 = .ok true
  table : (enforcer.mutate storage? (.removeAll key fields)).2.1.table = enforcer.table
  lost : enforcer.switches.autoSave = true → ∀ storage, storage? = some storage →
    storage.kind = .memory →
    storage.lines.under key = Lines.fieldsOf (enforcer.table.rows key) →
    ∃ later, (enforcer.mutate storage? (.removeAll key fields)).2.2 = some later ∧
      later.lines.under key = Lines.fieldsOf ((enforcer.table.rows key).diff rows) ∧
      later.lines.under key ≠ Lines.fieldsOf (enforcer.table.rows key)

theorem removedInStorageOnly_of_overdrawn (sound : enforcer.Sound)
    (willing : enforcer.Willing storage? key rows)
    (valid : fields.mapM (enforcer.model.readRow key) = .ok rows)
    (overdrawn : Overdrawn rows (enforcer.table.rows key)) :
    RemovedInStorageOnly enforcer storage? key fields rows := by
  have admitted := (admits_removeAll_iff sound).mpr ⟨overdrawn.ne_nil, overdrawn.1⟩
  obtain ⟨later?, left, follows⟩ := mutate_removeAll_made willing valid admitted
  constructor <;> rw [left]
  · rw [table_commit]
    exact sound.table.eraseAll?_of_not_contained overdrawn.2
  · intro saves storage attached memory held
    refine ⟨_, follows storage attached saves (by rw [memory]; rfl),
      follows_removeAll memory held, ?_⟩
    rw [follows_removeAll memory held]
    exact fun same => diff_ne_self overdrawn.ne_nil overdrawn.1 (Lines.fieldsOf_inj same)

/-- A batch is removed exactly unless all its rows are stored, but one of them less often
than it is listed, or a storage fails to follow the removal. -/
theorem removedExactly_iff (reachable : Reachable enforcer)
    (valid : fields.mapM (enforcer.model.readRow key) = .ok rows) :
    (RemovedExactly enforcer storage? key fields rows ↔
      ¬ Overdrawn rows (enforcer.table.rows key) ∧
        (rows ≠ [] → Contained rows (enforcer.table.rows key) →
          enforcer.Willing storage? key rows)) ∧
    (Overdrawn rows (enforcer.table.rows key) → enforcer.Willing storage? key rows →
      RemovedInStorageOnly enforcer storage? key fields rows) := by
  have sound := reachable.sound
  have willing_of_exactly : RemovedExactly enforcer storage? key fields rows →
      rows ≠ [] → (∀ row ∈ rows, row ∈ enforcer.table.rows key) →
        enforcer.Willing storage? key rows := by
    intro exactly nonempty present
    by_contra unwilling
    obtain ⟨failure, failed⟩ := mutate_removeAll_failed unwilling valid
      ((admits_removeAll_iff sound).mpr ⟨nonempty, present⟩)
    obtain ⟨made, returned⟩ := exactly.returns
    rw [failed] at returned
    cases returned
  refine ⟨⟨fun exactly => ⟨fun overdrawn => ?_, fun nonempty contained => ?_⟩, ?_⟩,
    fun overdrawn willing => removedInStorageOnly_of_overdrawn sound willing valid overdrawn⟩
  · have willing := willing_of_exactly exactly overdrawn.ne_nil overdrawn.1
    have lost := removedInStorageOnly_of_overdrawn sound willing valid overdrawn
    exact overdrawn.2 (exactly.made_iff.mp lost.made).2
  · exact willing_of_exactly exactly nonempty fun _ => contained.stored
  · rintro ⟨notOverdrawn, willing⟩
    by_cases contained : rows ≠ [] ∧ Contained rows (enforcer.table.rows key)
    · exact removedExactly_of_contained sound (willing contained.1 contained.2) valid
        contained.1 contained.2
    · refine removedExactly_of_refused valid (fun admitted => contained ?_) contained
      obtain ⟨nonempty, present⟩ := (admits_removeAll_iff sound).mp admitted
      refine ⟨nonempty, Classical.byContradiction fun exceeding => ?_⟩
      exact notOverdrawn ⟨present, exceeding⟩

end

namespace Sample

def staffed : Enforcer :=
  (enforcer none).after (.mutate none (.add "g" [.text "bob", .text "staff"]))

def storage : Storage :=
  .ofLines .memory [⟨"g", [.text "bob", .text "staff"]⟩]

end Sample

theorem removedExactly_iff_staffed :
    (Sample.staffed.mutate (some Sample.storage) (.removeAll "g"
      [[.text "bob", .text "staff"], [.text "bob", .text "staff"]])).1 = .ok true ∧
    ¬ RemovedExactly Sample.staffed (some Sample.storage) "g"
      [[.text "bob", .text "staff"], [.text "bob", .text "staff"]]
      [["bob", "staff"], ["bob", "staff"]] := by
  have stored : Sample.staffed.table.rows "g" = [["bob", "staff"]] := by decide +kernel
  have overdrawn : Overdrawn [["bob", "staff"], ["bob", "staff"]]
      (Sample.staffed.table.rows "g") := by
    rw [stored]
    exact ⟨by decide, fun contained => absurd (contained ["bob", "staff"]) (by decide)⟩
  obtain ⟨exactly, lost⟩ := @removedExactly_iff Sample.staffed (some Sample.storage) "g"
    [[.text "bob", .text "staff"], [.text "bob", .text "staff"]]
    [["bob", "staff"], ["bob", "staff"]]
    (.after (Sample.reachable_enforcer none) (.mutate none _) trivial)
    (Answer.eq_ok_of_gives (by decide +kernel))
  have willing : Sample.staffed.Willing (some Sample.storage) "g"
      [["bob", "staff"], ["bob", "staff"]] :=
    willing_of_memory fun _ attached => by cases attached; rfl
  exact ⟨(lost overdrawn willing).made, fun removed => (exactly.mp removed).1 overdrawn⟩

end Enforcer

end AccessControl
