import AccessControl.Proofs.Policy.History

namespace AccessControl

/-! Replacements of several rows. They are made one after the other, so that a new row may be
taken for an old one that is still to be replaced. -/

namespace RowLists

/-- Each old row has given its first place to the new one, and all other rows are where they
were. -/
structure InPlace (before after : List Row) (pairs : List (Row × Row)) : Prop where
  length : after.length = before.length
  replaced : ∀ pair ∈ pairs, after[before.idxOf pair.1]? = some pair.2
  kept : ∀ place, (∀ pair ∈ pairs, before.idxOf pair.1 ≠ place) → after[place]? = before[place]?

/-- No new row comes before a row like it that is to be replaced later by another one. -/
def Untangled (rows : List Row) (pairs : List (Row × Row)) : Prop :=
  pairs.Pairwise fun earlier later => earlier.2 = later.1 →
    rows.idxOf earlier.1 < rows.idxOf later.1 → later.2 = later.1

instance (rows : List Row) (pairs : List (Row × Row)) : Decidable (Untangled rows pairs) :=
  inferInstanceAs (Decidable (List.Pairwise _ _))

/-- A row that was to be replaced by another one is still in its place. -/
def Missed (before after : List Row) (pairs : List (Row × Row)) : Prop :=
  ∃ pair ∈ pairs, pair.2 ≠ pair.1 ∧ after[before.idxOf pair.1]? = some pair.1

theorem Missed.not_inPlace {before after : List Row} {pairs : List (Row × Row)}
    (missed : Missed before after pairs) : ¬ InPlace before after pairs := by
  intro inPlace
  obtain ⟨pair, member, different, left⟩ := missed
  rw [inPlace.replaced pair member] at left
  exact different (Option.some.inj left)

theorem replaceAll_concat (rows : List Row) (pairs : List (Row × Row)) (pair : Row × Row) :
    replaceAll rows (pairs ++ [pair]) = (replaceAll rows pairs).replace pair.1 pair.2 := by
  rw [replaceAll, List.foldl_append]
  rfl

theorem untangled_concat {rows : List Row} {pairs : List (Row × Row)} {pair : Row × Row} :
    Untangled rows (pairs ++ [pair]) ↔ Untangled rows pairs ∧ ∀ earlier ∈ pairs,
      earlier.2 = pair.1 → rows.idxOf earlier.1 < rows.idxOf pair.1 → pair.2 = pair.1 := by
  simp [Untangled, List.pairwise_append]

section

variable {before after : List Row} {pairs : List (Row × Row)} {old new : Row}

theorem mem_take_iff {row : Row} {rows : List Row} {place : Nat} :
    row ∈ rows.take place ↔ ∃ earlier < place, rows[earlier]? = some row := by
  rw [List.mem_iff_getElem?]
  refine exists_congr fun earlier => ?_
  rw [List.getElem?_take]
  split
  · next inside => simp [inside]
  · next beyond => simp [beyond]

theorem not_mem_take_idxOf (row : Row) (rows : List Row) : row ∉ rows.take (rows.idxOf row) := by
  intro member
  have earlier := (List.mem_take_iff_idxOf_lt (List.mem_of_mem_take member)).mp member
  exact Nat.lt_irrefl _ earlier

theorem InPlace.mem_take_iff (inPlace : InPlace before after pairs) :
    old ∈ after.take (before.idxOf old) ↔
      ∃ earlier ∈ pairs, earlier.2 = old ∧ before.idxOf earlier.1 < before.idxOf old := by
  rw [RowLists.mem_take_iff]
  constructor
  · rintro ⟨place, first, held⟩
    by_contra none
    have untouched : ∀ pair ∈ pairs, before.idxOf pair.1 ≠ place := by
      rintro pair member rfl
      rw [inPlace.replaced pair member] at held
      exact none ⟨pair, member, Option.some.inj held, first⟩
    rw [inPlace.kept place untouched] at held
    exact not_mem_take_idxOf old before (RowLists.mem_take_iff.mpr ⟨place, first, held⟩)
  · rintro ⟨pair, member, rfl, first⟩
    exact ⟨_, first, inPlace.replaced pair member⟩

theorem replace_self (row : Row) (rows : List Row) : rows.replace row row = rows := by
  rw [← PolicyTable.replaceFirst_eq_replace, Bucket.replaceFirst_self]

theorem getElem?_replace_of_first {place : Nat} (here : after[place]? = some old)
    (first : old ∉ after.take place) (other : Nat) :
    (after.replace old new)[other]? = if other = place then some new else after[other]? := by
  rw [List.getElem?_replace]
  by_cases same : other = place
  · subst same
    simp [here, first]
  · by_cases held : after[other]? = some old
    · have later : place < other := by
        by_contra before
        exact first (RowLists.mem_take_iff.mpr ⟨other, by omega, held⟩)
      have earlier : old ∈ after.take other := RowLists.mem_take_iff.mpr ⟨place, later, here⟩
      simp [held, earlier, same]
    · simp [held, same]

section

variable (inPlace : InPlace before after pairs) (present : old ∈ before)
  (apart : ∀ pair ∈ pairs, pair.1 ≠ old)
include inPlace present apart

theorem InPlace.getElem?_idxOf : after[before.idxOf old]? = some old := by
  rw [← List.getElem?_idxOf present]
  refine inPlace.kept _ fun pair member same => apart pair member ?_
  exact ((List.idxOf_inj present).mp same.symm).symm

/-- The next replacement is made in its place if no row like the old one comes before, or if
it changes nothing. -/
theorem InPlace.concat (free : old ∉ after.take (before.idxOf old) ∨ new = old) :
    InPlace before (after.replace old new) (pairs ++ [(old, new)]) := by
  have here := inPlace.getElem?_idxOf present apart
  have changed : ∀ place, (after.replace old new)[place]? =
      if place = before.idxOf old then some new else after[place]? := by
    intro place
    rcases free with first | rfl
    · exact getElem?_replace_of_first here first place
    · rw [replace_self]
      split
      · next same => rw [same, here]
      · rfl
  refine ⟨List.length_replace.trans inPlace.length, fun pair member => ?_,
    fun place untouched => ?_⟩
  · rw [changed]
    rcases List.mem_append.mp member with earlier | last
    · rw [if_neg, inPlace.replaced pair earlier]
      intro same
      exact apart pair earlier ((List.idxOf_inj present).mp same.symm).symm
    · rw [List.mem_singleton.mp last, if_pos rfl]
  · rw [changed, if_neg (Ne.symm (untouched (old, new) (by simp)))]
    exact inPlace.kept place fun pair member => untouched pair (List.mem_append_left _ member)

theorem InPlace.missed_concat (earlier : old ∈ after.take (before.idxOf old))
    (different : new ≠ old) : Missed before (after.replace old new) (pairs ++ [(old, new)]) := by
  refine ⟨(old, new), by simp, different, ?_⟩
  rw [List.getElem?_replace, inPlace.getElem?_idxOf present apart]
  simp [earlier]

end

theorem Missed.concat (missed : Missed before after pairs) (apart : ∀ pair ∈ pairs, pair.1 ≠ old) :
    Missed before (after.replace old new) (pairs ++ [(old, new)]) := by
  obtain ⟨pair, member, different, left⟩ := missed
  refine ⟨pair, List.mem_append_left _ member, different, ?_⟩
  rw [List.getElem?_replace, left, if_neg (by simpa using apart pair member)]

end

/-- Replacements of different rows one after the other are all made in their places, or one of
them is missed. -/
theorem replaceAll_cases {rows : List Row} {pairs : List (Row × Row)}
    (distinct : (pairs.map Prod.fst).Nodup) (stored : ∀ pair ∈ pairs, pair.1 ∈ rows) :
    Untangled rows pairs ∧ InPlace rows (replaceAll rows pairs) pairs ∨
      ¬ Untangled rows pairs ∧ Missed rows (replaceAll rows pairs) pairs := by
  -- The last pair meets what the others have left, and a row that they missed stays missed.
  induction pairs using List.reverseRecOn with
  | nil => exact .inl ⟨.nil, rfl, by simp, fun _ _ => rfl⟩
  | append_singleton pairs pair ih =>
      rw [List.map_append, List.nodup_append] at distinct
      have apart : ∀ earlier ∈ pairs, earlier.1 ≠ pair.1 := fun earlier member =>
        distinct.2.2 _ (List.mem_map_of_mem member) _ (by simp)
      have present := stored pair (by simp)
      rw [replaceAll_concat, untangled_concat]
      rcases ih distinct.1 fun earlier member => stored earlier (List.mem_append_left _ member)
        with ⟨untangled, inPlace⟩ | ⟨tangled, missed⟩
      · by_cases free : pair.1 ∉ (replaceAll rows pairs).take (rows.idxOf pair.1) ∨
            pair.2 = pair.1
        · refine .inl ⟨⟨untangled, fun earlier member same first => ?_⟩,
            inPlace.concat present apart free⟩
          rw [inPlace.mem_take_iff] at free
          exact free.resolve_left (not_not.mpr ⟨earlier, member, same, first⟩)
        · rw [not_or, not_not] at free
          obtain ⟨earlier, member, same, first⟩ := inPlace.mem_take_iff.mp free.1
          refine .inr ⟨fun all => free.2 (all.2 earlier member same first), ?_⟩
          exact inPlace.missed_concat present apart free.1 free.2
      · exact .inr ⟨fun all => tangled all.1, missed.concat apart⟩

end RowLists

namespace PolicyTable

section

variable {table : PolicyTable} {key : String} {old new : List Row}

theorem sameElsewhere_replaceAll? {next : PolicyTable}
    (made : table.replaceAll? key old new = some next) : SameElsewhere key table next := by
  unfold PolicyTable.replaceAll? at made
  split at made
  · cases made
  · split at made
    · cases made
    · split at made
      · cases made
        exact ⟨fun _ => rfl, fun _ => rfl⟩
      · cases made
        exact sameElsewhere_withBucket _ _ _

theorem rows_replaceAll? {next : PolicyTable}
    (made : table.replaceAll? key old new = some next) :
    next.rows key = RowLists.replaceAll (table.rows key) (old.zip new) := by
  unfold PolicyTable.replaceAll? at made
  split at made
  · cases made
  · split at made
    · cases made
    · split at made
      · next empty =>
          cases made
          rw [List.isEmpty_iff.mp empty]
          rfl
      · cases made
        rw [rows_withBucket_self, rows_replaceAll]
        rfl

end

/-- Different stored rows are always replaced. All of it happens in place exactly if no new
row comes before a row like it that is to be replaced later; otherwise that row is left in its
place. The rows of all other keys stay as they are. -/
theorem replaceAll_inPlace_iff {table : PolicyTable} (reachable : table.Reachable)
    {key : String} {old new : List Row} (even : old.length = new.length) (distinct : old.Nodup)
    (stored : ∀ row ∈ old, row ∈ table.rows key) :
    let outcome := table.perform (.replaceAll key old new)
    outcome.1 = .ok (.flag true) ∧
    (RowLists.InPlace (table.rows key) (outcome.2.rows key) (old.zip new) ↔
      RowLists.Untangled (table.rows key) (old.zip new)) ∧
    (¬ RowLists.Untangled (table.rows key) (old.zip new) →
      RowLists.Missed (table.rows key) (outcome.2.rows key) (old.zip new)) ∧
    ∀ other, other ≠ key → outcome.2.rows other = table.rows other := by
  have contained : old.Subperm (table.rows key) := List.subperm_of_subset distinct stored
  have made : table.replaceAll? key old new ≠ none := by
    rw [ne_eq, reachable.exact.replaceAll?_eq_none]
    exact fun refused => refused.elim (absurd even) (absurd contained)
  obtain ⟨next, made⟩ := Option.ne_none_iff_exists'.mp made
  have olds : (old.zip new).map Prod.fst = old := List.map_fst_zip (by omega)
  have cases := @RowLists.replaceAll_cases (table.rows key) (old.zip new) (by rwa [olds])
    fun pair member => stored pair.1 (List.of_mem_zip member).1
  rw [← rows_replaceAll? made] at cases
  simp only [perform, made, changed]
  refine ⟨trivial, ?_, ?_, fun other => (sameElsewhere_replaceAll? made).rows⟩
  · rcases cases with ⟨untangled, inPlace⟩ | ⟨tangled, missed⟩
    · exact iff_of_true inPlace untangled
    · exact iff_of_false missed.not_inPlace tangled
  · intro tangled
    exact (cases.resolve_left fun both => tangled both.1).2

namespace Sample

def pair : PolicyTable :=
  (empty.run [.perform (.insertAll "p" [["ann"], ["bob"]])]).2

theorem reachable_pair : pair.Reachable :=
  Reachable.empty.run _

end Sample

/-- Two rows change places if the later one is replaced first. -/
theorem replaceAll_inPlace_iff_pair :
    Sample.pair.rows "p" = [["ann"], ["bob"]] ∧
    (Sample.pair.perform (.replaceAll "p" [["bob"], ["ann"]] [["ann"], ["bob"]])).1 =
      .ok (.flag true) ∧
    RowLists.InPlace [["ann"], ["bob"]]
      ((Sample.pair.perform (.replaceAll "p" [["bob"], ["ann"]] [["ann"], ["bob"]])).2.rows "p")
      [(["bob"], ["ann"]), (["ann"], ["bob"])] := by
  obtain ⟨made, inPlace, -⟩ := @replaceAll_inPlace_iff Sample.pair Sample.reachable_pair "p"
    [["bob"], ["ann"]] [["ann"], ["bob"]] rfl (by decide) (by decide)
  exact ⟨by decide, made, inPlace.mpr (by decide)⟩

/-- If the earlier one is replaced first, they stay where they were. -/
theorem replaceAll_not_inPlace :
    Sample.pair.Reachable ∧ ¬ Sample.pair.isUnique "p" = true ∧
    Sample.pair.rows "p" = [["ann"], ["bob"]] ∧
    (Sample.pair.perform (.replaceAll "p" [["ann"], ["bob"]] [["bob"], ["ann"]])).1 =
      .ok (.flag true) ∧
    (Sample.pair.perform (.replaceAll "p" [["ann"], ["bob"]] [["bob"], ["ann"]])).2.rows "p" =
      [["ann"], ["bob"]] ∧
    ¬ RowLists.InPlace [["ann"], ["bob"]]
      ((Sample.pair.perform (.replaceAll "p" [["ann"], ["bob"]] [["bob"], ["ann"]])).2.rows "p")
      [(["ann"], ["bob"]), (["bob"], ["ann"])] := by
  have left : (Sample.pair.perform (.replaceAll "p" [["ann"], ["bob"]]
      [["bob"], ["ann"]])).2.rows "p" = [["ann"], ["bob"]] := by decide
  refine ⟨Sample.reachable_pair, by decide, by decide, rfl, left, fun inPlace => ?_⟩
  rw [left] at inPlace
  have first := inPlace.replaced (["ann"], ["bob"]) (by decide)
  exact absurd first (by decide)

end PolicyTable

end AccessControl
