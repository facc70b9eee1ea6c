import AccessControl.Policy.Bucket
import AccessControl.Proofs.Policy.Tally
import Mathlib.Data.List.Count
import Mathlib.Data.List.Nodup

namespace AccessControl.Bucket

/-! Buckets count their rows. Every change of a bucket is the change of its
rows, with the tally following. -/

def Sound (bucket : Bucket) : Prop :=
  bucket.tally.Counts bucket.rows

theorem sound_empty : empty.Sound :=
  Tally.counts_nil

theorem Sound.has_iff {bucket : Bucket} (sound : bucket.Sound) (row : Row) :
    bucket.has row = true ↔ row ∈ bucket.rows := by
  rw [has, decide_eq_true_eq, sound.count_eq, List.count_pos_iff]

theorem Sound.pushAll {bucket : Bucket} (sound : bucket.Sound) (rows : List Row) :
    (bucket.pushAll rows).Sound :=
  sound.addAll rows

theorem Sound.erase {bucket : Bucket} (sound : bucket.Sound) (row : Row) :
    (bucket.erase row).Sound :=
  sound.discount row

theorem count_erase_append (before : List Row) (row : Row) (rows : List Row)
    (other : Row) :
    ((before ++ row :: rows).erase row).count other = (before ++ rows).count other := by
  rw [List.count_erase, List.count_append, List.count_append, List.count_cons]
  simp only [beq_iff_eq]
  split
  · omega
  · rfl

theorem rows_eraseDoomed {doomed : Tally} {listed : List Row}
    (counts : doomed.Counts listed) (tally : Tally) (rows : List Row) :
    (eraseDoomed doomed tally rows).1 = rows.diff listed := by
  induction rows generalizing doomed listed tally with
  | nil => rw [eraseDoomed, List.nil_diff]
  | cons row rows ih =>
      rw [eraseDoomed, List.cons_diff]
      by_cases member : row ∈ listed
      · have counted : 0 < doomed.count row := by
          rw [counts.count_eq, List.count_pos_iff]
          exact member
        rw [if_pos counted, if_pos member]
        exact ih (counts.discount row) _
      · have uncounted : ¬ 0 < doomed.count row := by
          rw [counts.count_eq, List.count_pos_iff]
          exact member
        rw [if_neg uncounted, if_neg member]
        exact congrArg (row :: ·) (ih counts tally)

theorem counts_eraseDoomed {doomed : Tally} {listed before : List Row} {tally : Tally}
    {rows : List Row} (counts : doomed.Counts listed)
    (stored : tally.Counts (before ++ rows)) :
    (eraseDoomed doomed tally rows).2.Counts (before ++ rows.diff listed) := by
  induction rows generalizing doomed listed before tally with
  | nil =>
      rw [List.nil_diff]
      exact stored
  | cons row rows ih =>
      rw [eraseDoomed, List.cons_diff]
      by_cases member : row ∈ listed
      · have counted : 0 < doomed.count row := by
          rw [counts.count_eq, List.count_pos_iff]
          exact member
        rw [if_pos counted, if_pos member]
        exact ih (counts.discount row)
          ((stored.discount row).congr (count_erase_append before row rows))
      · have uncounted : ¬ 0 < doomed.count row := by
          rw [counts.count_eq, List.count_pos_iff]
          exact member
        rw [if_neg uncounted, if_neg member, List.append_cons]
        rw [List.append_cons] at stored
        exact ih counts stored

theorem rows_eraseAll (bucket : Bucket) (listed : List Row) :
    (bucket.eraseAll listed).rows = bucket.rows.diff listed :=
  rows_eraseDoomed (Tally.counts_ofRows listed) _ _

theorem Sound.eraseAll {bucket : Bucket} (sound : bucket.Sound) (listed : List Row) :
    (bucket.eraseAll listed).Sound := by
  have erased := @counts_eraseDoomed _ _ [] _ _ (Tally.counts_ofRows listed) sound
  rw [List.nil_append, ← rows_eraseAll] at erased
  exact erased

theorem counts_discountAll {tally : Tally} {rows : List Row}
    (counts : tally.Counts rows) (listed : List Row) :
    (listed.foldl Tally.discount tally).Counts (rows.diff listed) := by
  induction listed generalizing tally rows with
  | nil => exact counts
  | cons row listed ih =>
      rw [List.diff_cons]
      exact ih (counts.discount row)

theorem Sound.eraseWhere {bucket : Bucket} (sound : bucket.Sound)
    (doomed : Row → Bool) : (bucket.eraseWhere doomed).Sound := by
  refine (counts_discountAll sound (bucket.rows.filter doomed)).congr fun row => ?_
  simp only [Bucket.eraseWhere, List.count_diff]
  cases held : doomed row
  · have absent : row ∉ bucket.rows.filter doomed := by simp [held]
    rw [List.count_eq_zero_of_not_mem absent, List.count_filter (by simp [held]),
      Nat.sub_zero]
  · have absent : row ∉ bucket.rows.filter fun row => !doomed row := by simp [held]
    rw [List.count_eq_zero_of_not_mem absent, List.count_filter held, Nat.sub_self]

theorem count_replaceFirst {old : Row} {rows : List Row} (member : old ∈ rows)
    (new row : Row) :
    (replaceFirst old new rows).count row = (rows.erase old ++ [new]).count row := by
  induction rows with
  | nil => cases member
  | cons first rows ih =>
      rw [replaceFirst]
      by_cases same : first = old
      · subst same
        rw [if_pos rfl, List.erase_cons_head, List.count_cons, List.count_append,
          List.count_singleton]
      · have later : old ∈ rows := by
          rcases List.mem_cons.mp member with isFirst | later
          · exact absurd isFirst.symm same
          · exact later
        rw [if_neg same, List.erase_cons_tail (by simpa using same), List.count_cons,
          ih later, List.cons_append, List.count_cons]

theorem Sound.replace {bucket : Bucket} (sound : bucket.Sound) {old : Row}
    (member : old ∈ bucket.rows) (new : Row) : (bucket.replace old new).Sound :=
  ((sound.discount old).add new).congr fun row =>
    (count_replaceFirst member new row).symm

theorem replaceFirst_self (row : Row) (rows : List Row) :
    replaceFirst row row rows = rows := by
  induction rows with
  | nil => rfl
  | cons first rows ih =>
      rw [replaceFirst, ih]
      split
      · next same => rw [same]
      · rfl

theorem replaceFirst_of_not_mem {old : Row} {rows : List Row} (absent : old ∉ rows)
    (new : Row) : replaceFirst old new rows = rows := by
  induction rows with
  | nil => rfl
  | cons first rows ih =>
      rw [List.mem_cons, not_or] at absent
      rw [replaceFirst, if_neg (Ne.symm absent.1), ih absent.2]

theorem nodup_of_count_eq {rows others : List Row}
    (same : ∀ row, rows.count row = others.count row) (nodup : others.Nodup) :
    rows.Nodup := by
  rw [List.nodup_iff_count_le_one] at nodup ⊢
  intro row
  rw [same]
  exact nodup row

theorem nodup_replaceFirst {old new : Row} {rows : List Row} (nodup : rows.Nodup)
    (fresh : new = old ∨ new ∉ rows) : (replaceFirst old new rows).Nodup := by
  rcases fresh with rfl | absent
  · rwa [replaceFirst_self]
  · by_cases member : old ∈ rows
    · refine nodup_of_count_eq (count_replaceFirst member new) ?_
      refine (nodup.erase old).append (List.nodup_singleton new) ?_
      intro row inErased isNew
      rw [List.mem_singleton.mp isNew] at inErased
      exact absent (List.mem_of_mem_erase inErased)
    · rwa [replaceFirst_of_not_mem member]

end AccessControl.Bucket
