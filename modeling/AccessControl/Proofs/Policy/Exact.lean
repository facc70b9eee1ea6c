import AccessControl.Proofs.Policy.FieldIndex
import AccessControl.Proofs.Policy.RowLists

namespace AccessControl

namespace PolicyTable

def lists (table : PolicyTable) : RowLists :=
  ⟨table.buckets.map fun entry => (entry.1, entry.2.rows), table.uniqueKeys⟩

structure Exact (table : PolicyTable) : Prop where
  nodup_keys : table.keys.Nodup
  counted : ∀ key, (table.bucket key).Sound
  indexed : ∀ entry ∈ table.indexes,
    indexOf (table.rows entry.1.1) entry.1.2 = .ok entry.2

theorem exact_empty : empty.Exact :=
  ⟨.nil, fun _ => Bucket.sound_empty, by simp [empty]⟩

theorem rows_lists (table : PolicyTable) (key : String) :
    table.lists.rows key = table.rows key := by
  have listed := @Entries.lookup_map String _ _ _ _
    (fun entry : String × Bucket => (entry.1, entry.2.rows)) (fun _ => rfl) key table.buckets
  change (List.lookup key (table.buckets.map _)).getD [] = _
  rw [listed, rows, bucket]
  cases table.buckets.lookup key with
  | none => rfl
  | some bucket => rfl

theorem unique_lists (table : PolicyTable) (key : String) :
    table.lists.Unique key ↔ table.isUnique key = true := by
  rw [isUnique, List.contains_iff_mem]
  rfl

theorem keys_lists (table : PolicyTable) :
    Entries.keys table.lists.lists = table.keys := by
  simp only [lists, keys, Entries.keys, List.map_map, Function.comp_def]

theorem lists_withBucket (table : PolicyTable) (key : String) (bucket : Bucket) :
    (table.withBucket key bucket).lists = table.lists.withRows key bucket.rows := by
  rw [lists, withBucket, Entries.map_put]
  rfl

theorem Exact.has_iff {table : PolicyTable} (exact : table.Exact) (key : String)
    (row : Row) : table.has key row = true ↔ row ∈ table.rows key :=
  (exact.counted key).has_iff row

theorem Exact.containsAll_iff {table : PolicyTable} (exact : table.Exact)
    (key : String) (rows : List Row) :
    (table.bucket key).tally.containsAll rows = true ↔
      rows.Subperm (table.rows key) := by
  rw [(exact.counted key).containsAll_iff, List.subperm_ext_iff]
  refine ⟨fun contained row _ => contained row, fun contained row => ?_⟩
  by_cases member : row ∈ rows
  · exact contained row member
  · rw [List.count_eq_zero_of_not_mem member]
    exact Nat.zero_le _

theorem mem_forgotten {table : PolicyTable} {key : String}
    {entry : (String × Int) × FieldIndex} (member : entry ∈ table.forgotten key) :
    entry ∈ table.indexes ∧ entry.1.1 ≠ key := by
  simpa [forgotten] using member

theorem Exact.withBucket {table : PolicyTable} (exact : table.Exact) {key : String}
    {bucket : Bucket} (counted : bucket.Sound) : (table.withBucket key bucket).Exact := by
  refine ⟨Entries.nodup_keys_put exact.nodup_keys, fun other => ?_, fun entry member => ?_⟩
  · by_cases same : other = key
    · rw [same, bucket_withBucket_self]
      exact counted
    · rw [bucket_withBucket_of_ne table same]
      exact exact.counted other
  · obtain ⟨remembered, different⟩ := mem_forgotten member
    rw [rows_withBucket_of_ne table different]
    exact exact.indexed entry remembered

theorem Exact.setUnique {table : PolicyTable} (exact : table.Exact) (key : String)
    (unique : Bool) : (table.setUnique key unique).Exact :=
  ⟨exact.nodup_keys, exact.counted, exact.indexed⟩

theorem Exact.withIndexes {table : PolicyTable} (exact : table.Exact)
    {indexes : Entries (String × Int) FieldIndex}
    (indexed : ∀ entry ∈ indexes, entry ∈ table.indexes ∨
      indexOf (table.rows entry.1.1) entry.1.2 = .ok entry.2) :
    { table with indexes }.Exact :=
  ⟨exact.nodup_keys, exact.counted, fun entry member =>
    (indexed entry member).elim (exact.indexed entry) id⟩

theorem Exact.clear (table : PolicyTable) : table.clear.Exact :=
  ⟨.nil, fun _ => Bucket.sound_empty, by simp [PolicyTable.clear]⟩

theorem Exact.copy {table : PolicyTable} (exact : table.Exact) : table.copy.Exact :=
  exact.withIndexes (by simp)

theorem bucket_clearKey_self {table : PolicyTable} (nodup : table.keys.Nodup)
    (key : String) : (table.clearKey key).bucket key = .empty := by
  rw [bucket, clearKey, Entries.lookup_erase_self nodup, Option.getD_none]

theorem bucket_clearKey_of_ne (table : PolicyTable) {key other : String}
    (different : other ≠ key) : (table.clearKey key).bucket other = table.bucket other := by
  rw [bucket, clearKey, Entries.lookup_erase_of_ne different, bucket]

theorem Exact.clearKey {table : PolicyTable} (exact : table.Exact) (key : String) :
    (table.clearKey key).Exact := by
  refine ⟨Entries.nodup_keys_erase exact.nodup_keys, fun other => ?_,
    fun entry member => ?_⟩
  · by_cases same : other = key
    · rw [same, bucket_clearKey_self exact.nodup_keys]
      exact Bucket.sound_empty
    · rw [bucket_clearKey_of_ne table same]
      exact exact.counted other
  · obtain ⟨remembered, different⟩ := mem_forgotten member
    rw [rows, bucket_clearKey_of_ne table different]
    exact exact.indexed entry remembered

theorem Exact.withField {table : PolicyTable} (exact : table.Exact) (key : String)
    (place : Nat) (value : String) :
    ∃ indexes, table.withField key place value =
        .ok ((table.rows key).filter fun row => row[place]? = some value,
          { table with indexes }) ∧
      { table with indexes }.Exact := by
  unfold PolicyTable.withField
  cases remembered : table.indexes.lookup (key, (place : Int)) with
  | some entries =>
      have indexed := of_indexOf (exact.indexed _ (Entries.mem_of_lookup remembered))
      refine ⟨table.indexes, ?_, exact⟩
      simp only [indexed.lookup value]
  | none =>
      obtain ⟨entries, listed, indexed⟩ := exists_indexOf (table.rows key) place
      refine ⟨Entries.put (key, (place : Int)) entries table.indexes, ?_,
        exact.withIndexes fun entry member => ?_⟩
      · simp only [listed, ← indexed.lookup value]
        rfl
      · rcases Entries.mem_put member with rfl | old
        · exact .inr listed
        · exact .inl old

theorem fieldValues_natCast (table : PolicyTable) (key : String) (place : Nat) :
    table.fieldValues key place =
      .ok ((table.rows key).filterMap (·[place]?)).eraseDups := by
  obtain ⟨entries, listed, indexed⟩ := exists_indexOf (table.rows key) place
  rw [fieldValues, listed, ← indexed.keys]
  rfl

end PolicyTable

end AccessControl
