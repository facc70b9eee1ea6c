import AccessControl.Policy.Table
import AccessControl.Proofs.Answer
import AccessControl.Proofs.Policy.Bucket

namespace AccessControl.PolicyTable

structure Sound (table : PolicyTable) : Prop where
  counted : ∀ key, (table.bucket key).Sound
  distinct : ∀ key, table.isUnique key = true → (table.rows key).Nodup

theorem sound_empty : empty.Sound :=
  ⟨fun _ => Bucket.sound_empty, fun _ _ => .nil⟩

theorem Sound.has_iff {table : PolicyTable} (sound : table.Sound) (key : String)
    (row : Row) : table.has key row = true ↔ row ∈ table.rows key :=
  (sound.counted key).has_iff row

theorem bucket_withBucket_self (table : PolicyTable) (key : String) (bucket : Bucket) :
    (table.withBucket key bucket).bucket key = bucket := by
  simp [withBucket, PolicyTable.bucket, Entries.lookup_put_self]

theorem bucket_withBucket_of_ne (table : PolicyTable) {key other : String}
    (different : other ≠ key) (bucket : Bucket) :
    (table.withBucket key bucket).bucket other = table.bucket other := by
  simp [withBucket, PolicyTable.bucket, Entries.lookup_put_of_ne different]

theorem rows_withBucket_self (table : PolicyTable) (key : String) (bucket : Bucket) :
    (table.withBucket key bucket).rows key = bucket.rows := by
  rw [rows, bucket_withBucket_self]

theorem rows_withBucket_of_ne (table : PolicyTable) {key other : String}
    (different : other ≠ key) (bucket : Bucket) :
    (table.withBucket key bucket).rows other = table.rows other := by
  rw [rows, bucket_withBucket_of_ne table different, rows]

structure SoundAt (table : PolicyTable) (key : String) : Prop where
  counted : (table.bucket key).Sound
  distinct : table.isUnique key = true → (table.rows key).Nodup

theorem sound_iff {table : PolicyTable} : table.Sound ↔ ∀ key, table.SoundAt key :=
  ⟨fun sound key => ⟨sound.counted key, sound.distinct key⟩,
    fun sound => ⟨fun key => (sound key).counted, fun key => (sound key).distinct⟩⟩

theorem SoundAt.has_iff {table : PolicyTable} {key : String} (sound : table.SoundAt key)
    (row : Row) : table.has key row = true ↔ row ∈ table.rows key :=
  sound.counted.has_iff row

theorem SoundAt.withBucket {table : PolicyTable} {key other : String} {bucket : Bucket}
    (sound : table.SoundAt key) (counted : other = key → bucket.Sound)
    (distinct : other = key → table.isUnique key = true → bucket.rows.Nodup) :
    (table.withBucket other bucket).SoundAt key := by
  by_cases same : other = key
  · subst same
    constructor
    · rw [bucket_withBucket_self]
      exact counted rfl
    · intro unique
      rw [rows_withBucket_self]
      exact distinct rfl unique
  · constructor
    · rw [bucket_withBucket_of_ne table (Ne.symm same)]
      exact sound.counted
    · intro unique
      rw [rows_withBucket_of_ne table (Ne.symm same)]
      exact sound.distinct unique

theorem Sound.ofBuckets {table : PolicyTable} (sound : table.Sound)
    (indexes : Entries (String × Int) FieldIndex) :
    { table with indexes }.Sound :=
  ⟨sound.counted, sound.distinct⟩

section

variable {table next : PolicyTable} {key other : String} (sound : table.SoundAt key)
include sound

theorem SoundAt.insert? {row : Row} (made : table.insert? other row = some next) :
    next.SoundAt key := by
  simp only [PolicyTable.insert?, Option.ite_none_left_eq_some, Option.some.injEq] at made
  obtain ⟨admitted, rfl⟩ := made
  refine sound.withBucket ?_ ?_
  · rintro rfl
    exact sound.counted.pushAll [row]
  · rintro rfl unique
    have absent : row ∉ table.rows other := by
      rw [← sound.has_iff]
      intro has
      exact admitted (by simp [unique, has])
    exact List.Nodup.append (sound.distinct unique) (List.nodup_singleton row)
      (List.disjoint_singleton.mpr absent)

theorem SoundAt.insertAll? {rows : List Row} (made : table.insertAll? other rows = some next) :
    next.SoundAt key := by
  simp only [PolicyTable.insertAll?, Option.ite_none_left_eq_some,
    Option.some.injEq] at made
  obtain ⟨admitted, rfl⟩ := made
  refine sound.withBucket ?_ ?_
  · rintro rfl
    exact sound.counted.pushAll rows
  · rintro rfl unique
    simp only [unique, Bool.true_and, Bool.or_eq_true, List.any_eq_true,
      Bool.not_eq_true', decide_eq_false_iff_not, not_or, not_exists, not_and,
      Decidable.not_not] at admitted
    refine List.Nodup.append (sound.distinct unique) admitted.2 ?_
    intro row stored brought
    exact admitted.1 row brought ((sound.has_iff row).mpr stored)

theorem SoundAt.erase? {row : Row} (made : table.erase? other row = some next) :
    next.SoundAt key := by
  simp only [PolicyTable.erase?, Option.ite_none_right_eq_some,
    Option.some.injEq] at made
  obtain ⟨-, rfl⟩ := made
  refine sound.withBucket ?_ ?_
  · rintro rfl
    exact sound.counted.erase row
  · rintro rfl unique
    exact (sound.distinct unique).erase row

theorem SoundAt.eraseAll? {rows : List Row} (made : table.eraseAll? other rows = some next) :
    next.SoundAt key := by
  unfold PolicyTable.eraseAll? at made
  split at made
  · cases made
  · split at made
    · cases made
      exact sound
    · cases made
      refine sound.withBucket ?_ ?_
      · rintro rfl
        exact sound.counted.eraseAll rows
      · rintro rfl unique
        rw [Bucket.rows_eraseAll]
        exact (sound.distinct unique).sublist (List.diff_sublist _ _)

theorem SoundAt.replace? {old new : Row} (made : table.replace? other old new = some next) :
    next.SoundAt key := by
  simp only [PolicyTable.replace?, Option.ite_none_left_eq_some,
    Option.some.injEq] at made
  obtain ⟨stored, admitted, rfl⟩ := made
  refine sound.withBucket ?_ ?_
  · rintro rfl
    have member : old ∈ table.rows other := by
      rw [← sound.has_iff]
      simpa using stored
    exact sound.counted.replace member new
  · rintro rfl unique
    refine Bucket.nodup_replaceFirst (sound.distinct unique) ?_
    by_cases same : new = old
    · exact .inl same
    · refine .inr fun stored => admitted ?_
      simp [unique, same, (sound.has_iff new).mpr stored]

theorem SoundAt.eraseFiltered (filter : RowFilter) :
    (table.eraseFiltered other filter).SoundAt key := by
  unfold PolicyTable.eraseFiltered
  split
  · exact sound
  · refine sound.withBucket ?_ ?_
    · rintro rfl
      exact sound.counted.eraseWhere _
    · rintro rfl unique
      exact (sound.distinct unique).filter _

end

section

variable {table next : PolicyTable} {key : String} (sound : table.Sound)
include sound

theorem Sound.insert? {row : Row} (made : table.insert? key row = some next) : next.Sound :=
  sound_iff.mpr fun key => (sound_iff.mp sound key).insert? made

theorem Sound.insertAll? {rows : List Row} (made : table.insertAll? key rows = some next) :
    next.Sound :=
  sound_iff.mpr fun key => (sound_iff.mp sound key).insertAll? made

theorem Sound.erase? {row : Row} (made : table.erase? key row = some next) : next.Sound :=
  sound_iff.mpr fun key => (sound_iff.mp sound key).erase? made

theorem Sound.eraseAll? {rows : List Row} (made : table.eraseAll? key rows = some next) :
    next.Sound :=
  sound_iff.mpr fun key => (sound_iff.mp sound key).eraseAll? made

theorem Sound.replace? {old new : Row} (made : table.replace? key old new = some next) :
    next.Sound :=
  sound_iff.mpr fun key => (sound_iff.mp sound key).replace? made

end

theorem Sound.eraseFiltered {table : PolicyTable} (sound : table.Sound) (key : String)
    (filter : RowFilter) : (table.eraseFiltered key filter).Sound :=
  sound_iff.mpr fun key => (sound_iff.mp sound key).eraseFiltered filter

theorem Sound.clear {table : PolicyTable} : table.clear.Sound :=
  ⟨fun _ => Bucket.sound_empty, fun _ _ => .nil⟩

theorem Sound.getD {table : PolicyTable} (sound : table.Sound)
    {made : Option PolicyTable} (kept : ∀ next, made = some next → next.Sound) :
    (made.getD table).Sound := by
  cases made with
  | none => exact sound
  | some next => exact kept next rfl

theorem Sound.withField {table next : PolicyTable} (sound : table.Sound) {key : String}
    {index : Int} {value : String} {rows : List Row}
    (looked : table.withField key index value = .ok (rows, next)) : next.Sound := by
  unfold PolicyTable.withField at looked
  split at looked
  · cases looked
    exact sound
  · obtain ⟨entries, -, whole⟩ := Answer.bind_eq_ok.mp looked
    cases whole
    exact sound.ofBuckets _

structure SameElsewhere (key : String) (table next : PolicyTable) : Prop where
  isUnique : ∀ other, next.isUnique other = table.isUnique other
  rows : ∀ {other}, other ≠ key → next.rows other = table.rows other

theorem SameElsewhere.refl (key : String) (table : PolicyTable) :
    SameElsewhere key table table :=
  ⟨fun _ => rfl, fun _ => rfl⟩

theorem sameElsewhere_withBucket (table : PolicyTable) (key : String)
    (bucket : Bucket) : SameElsewhere key table (table.withBucket key bucket) :=
  ⟨fun _ => rfl, fun different => rows_withBucket_of_ne table different bucket⟩

theorem SameElsewhere.getD {key : String} {table : PolicyTable}
    {made : Option PolicyTable} (same : ∀ next, made = some next →
      SameElsewhere key table next) : SameElsewhere key table (made.getD table) := by
  cases made with
  | none => exact .refl key table
  | some next => exact same next rfl

theorem sameElsewhere_insert? {table next : PolicyTable} {key : String} {row : Row}
    (made : table.insert? key row = some next) : SameElsewhere key table next := by
  simp only [PolicyTable.insert?, Option.ite_none_left_eq_some, Option.some.injEq] at made
  rw [← made.2]
  exact sameElsewhere_withBucket _ _ _

theorem sameElsewhere_insertAll? {table next : PolicyTable} {key : String}
    {rows : List Row} (made : table.insertAll? key rows = some next) :
    SameElsewhere key table next := by
  simp only [PolicyTable.insertAll?, Option.ite_none_left_eq_some,
    Option.some.injEq] at made
  rw [← made.2]
  exact sameElsewhere_withBucket _ _ _

theorem sameElsewhere_erase? {table next : PolicyTable} {key : String} {row : Row}
    (made : table.erase? key row = some next) : SameElsewhere key table next := by
  simp only [PolicyTable.erase?, Option.ite_none_right_eq_some,
    Option.some.injEq] at made
  rw [← made.2]
  exact sameElsewhere_withBucket _ _ _

theorem sameElsewhere_eraseAll? {table next : PolicyTable} {key : String}
    {rows : List Row} (made : table.eraseAll? key rows = some next) :
    SameElsewhere key table next := by
  unfold PolicyTable.eraseAll? at made
  split at made
  · cases made
  · split at made
    · cases made
      exact .refl key table
    · cases made
      exact sameElsewhere_withBucket _ _ _

theorem sameElsewhere_replace? {table next : PolicyTable} {key : String}
    {old new : Row} (made : table.replace? key old new = some next) :
    SameElsewhere key table next := by
  simp only [PolicyTable.replace?, Option.ite_none_left_eq_some,
    Option.some.injEq] at made
  rw [← made.2.2]
  exact sameElsewhere_withBucket _ _ _

theorem sameElsewhere_eraseFiltered (table : PolicyTable) (key : String)
    (filter : RowFilter) : SameElsewhere key table (table.eraseFiltered key filter) := by
  unfold PolicyTable.eraseFiltered
  split
  · exact .refl key table
  · exact sameElsewhere_withBucket _ _ _

theorem same_withField {table next : PolicyTable} {key : String} {index : Int}
    {value : String} {rows : List Row}
    (looked : table.withField key index value = .ok (rows, next)) :
    (∀ other, next.isUnique other = table.isUnique other) ∧
      ∀ other, next.rows other = table.rows other := by
  unfold withField at looked
  split at looked
  · cases looked
    exact ⟨fun _ => rfl, fun _ => rfl⟩
  · obtain ⟨entries, -, whole⟩ := Answer.bind_eq_ok.mp looked
    cases whole
    exact ⟨fun _ => rfl, fun _ => rfl⟩

end AccessControl.PolicyTable
