import AccessControl.Policy.Tally
import AccessControl.Proofs.Entries

namespace AccessControl.Tally

/-- The tally has an entry for every row of the list, and for no other. -/
structure Counts (tally : Tally) (rows : List Row) : Prop where
  nodup : (Entries.keys tally).Nodup
  positive : ∀ entry ∈ tally, 0 < entry.2
  count_eq : ∀ row, tally.count row = rows.count row

theorem counts_nil : Counts [] [] :=
  ⟨.nil, by simp, fun _ => rfl⟩

theorem count_put_self (row : Row) (number : Nat) (tally : Tally) :
    count (Entries.put row number tally) row = number := by
  rw [count, Entries.lookup_put_self, Option.getD_some]

theorem count_put_of_ne {row other : Row} (different : other ≠ row) (number : Nat)
    (tally : Tally) : count (Entries.put row number tally) other = tally.count other := by
  rw [count, Entries.lookup_put_of_ne different, count]

theorem positive_put {row : Row} {number : Nat} {tally : Tally} (new : 0 < number)
    (positive : ∀ entry ∈ tally, 0 < entry.2) :
    ∀ entry ∈ Entries.put row number tally, 0 < entry.2 := by
  intro entry member
  rcases Entries.mem_put member with rfl | old
  · exact new
  · exact positive entry old

theorem Counts.add {tally : Tally} {rows : List Row} (counts : tally.Counts rows)
    (row : Row) : (tally.add row).Counts (rows ++ [row]) := by
  refine ⟨Entries.nodup_keys_put counts.nodup,
    positive_put (Nat.succ_pos _) counts.positive, fun other => ?_⟩
  by_cases same : other = row
  · subst same
    rw [Tally.add, count_put_self, counts.count_eq, List.count_append,
      List.count_singleton_self]
  · rw [Tally.add, count_put_of_ne same, counts.count_eq, List.count_append,
      List.count_singleton, if_neg (by simpa using Ne.symm same), Nat.add_zero]

theorem Counts.addAll {tally : Tally} {rows : List Row} (counts : tally.Counts rows)
    (more : List Row) : (tally.addAll more).Counts (rows ++ more) := by
  induction more generalizing tally rows with
  | nil => simpa [Tally.addAll] using counts
  | cons row more ih =>
      have next := ih (counts.add row)
      rwa [List.append_assoc, List.singleton_append] at next

theorem counts_ofRows (rows : List Row) : (ofRows rows).Counts rows :=
  counts_nil.addAll rows

theorem Counts.discount {tally : Tally} {rows : List Row} (counts : tally.Counts rows)
    (row : Row) : (tally.discount row).Counts (rows.erase row) := by
  unfold Tally.discount
  split
  case isTrue last =>
    refine ⟨Entries.nodup_keys_erase counts.nodup, fun entry member =>
      counts.positive entry ((Entries.erase_sublist row tally).mem member),
      fun other => ?_⟩
    by_cases same : other = row
    · subst same
      rw [count, Entries.lookup_erase_self counts.nodup, List.count_erase_self,
        ← counts.count_eq, Option.getD_none]
      omega
    · rw [count, Entries.lookup_erase_of_ne same, List.count_erase_of_ne same,
        ← counts.count_eq, count]
  case isFalse more =>
    refine ⟨Entries.nodup_keys_put counts.nodup,
      positive_put (by omega) counts.positive, fun other => ?_⟩
    by_cases same : other = row
    · subst same
      rw [count_put_self, List.count_erase_self, counts.count_eq]
    · rw [count_put_of_ne same, List.count_erase_of_ne same, counts.count_eq]

theorem Counts.congr {tally : Tally} {rows others : List Row}
    (counts : tally.Counts rows) (same : ∀ row, rows.count row = others.count row) :
    tally.Counts others :=
  ⟨counts.nodup, counts.positive, fun row => (counts.count_eq row).trans (same row)⟩

theorem Counts.containsAll_iff {tally : Tally} {rows : List Row}
    (counts : tally.Counts rows) (wanted : List Row) :
    tally.containsAll wanted = true ↔ ∀ row, wanted.count row ≤ rows.count row := by
  have wantedCounts := counts_ofRows wanted
  simp only [containsAll, List.all_eq_true, decide_eq_true_eq, counts.count_eq]
  constructor
  · intro contained row
    by_cases absent : wanted.count row = 0
    · omega
    · have found : (ofRows wanted).lookup row = some (wanted.count row) := by
        have value := wantedCounts.count_eq row
        rw [count] at value
        cases found : (ofRows wanted).lookup row with
        | none =>
            rw [found, Option.getD_none] at value
            omega
        | some number =>
            rw [found, Option.getD_some] at value
            rw [value]
      obtain ⟨before, after, split, -⟩ := List.lookup_eq_some_iff.mp found
      exact contained (row, wanted.count row) (by simp [split])
  · intro contained entry member
    have found := Entries.lookup_of_mem wantedCounts.nodup member
    have value := wantedCounts.count_eq entry.1
    rw [count, found, Option.getD_some] at value
    rw [value]
    exact contained entry.1

end AccessControl.Tally
