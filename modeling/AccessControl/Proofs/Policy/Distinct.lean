import AccessControl.Proofs.Policy.Replacement
import Mathlib.Data.List.Infix

namespace AccessControl

/-! The rows of unique keys. No change brings a row that is there already or comes twice,
except for replacements of several rows, which do not look at the new ones. -/

namespace RowLists

theorem count_replace {old : Row} {rows : List Row} (present : old ∈ rows) (new row : Row) :
    (rows.replace old new).count row = (rows.erase old).count row + [new].count row := by
  rw [← PolicyTable.replaceFirst_eq_replace, Bucket.count_replaceFirst present, List.count_append]

theorem perm_replaceAll {rows old new : List Row} (contained : old.Subperm rows)
    (even : old.length = new.length) :
    (replaceAll rows (old.zip new)).Perm (rows.diff old ++ new) := by
  rw [List.perm_iff_count]
  intro row
  induction old generalizing rows new with
  | nil =>
      cases new with
      | nil => simp [replaceAll]
      | cons => cases even
  | cons first old ih =>
      cases new with
      | nil => cases even
      | cons next new =>
          have present : first ∈ rows := contained.subset List.mem_cons_self
          have left : old.Subperm (rows.erase first) := by
            have erased := contained.erase first
            rwa [List.erase_cons_head] at erased
          have rest : old.Subperm (rows.replace first next) := by
            refine List.subperm_ext_iff.mpr fun row _ => ?_
            have bound := left.count_le row
            rw [count_replace present]
            omega
          have bound := left.count_le row
          have later := ih rest (Nat.succ.inj even)
          change (replaceAll (rows.replace first next) (old.zip new)).count row = _
          have listed : (next :: new).count row = [next].count row + new.count row := by
            rw [← List.count_append, List.singleton_append]
          rw [later, List.diff_cons, List.count_append, List.count_append, List.count_diff,
            List.count_diff, count_replace present, listed]
          omega

end RowLists

namespace PolicyTable

structure Distinct (table : PolicyTable) (key : String) : Prop where
  unique : table.isUnique key = true
  nodup : (table.rows key).Nodup

/-- Rows of the key are replaced, and one of the new rows comes twice, or beside a row like it
that stays. -/
inductive Doubles (table : PolicyTable) (key : String) : Step → Prop
  | replaceAll {old new : List Row} (even : old.length = new.length)
      (stored : old.Subperm (table.rows key))
      (twice : ¬ new.Nodup ∨ ∃ row ∈ new, row ∈ table.rows key ∧ row ∉ old) :
      Doubles table key (.perform (.replaceAll key old new))

section

variable {table : PolicyTable} {key other : String}

theorem isUnique_setUnique_of_ne (different : other ≠ key) (unique : Bool) :
    (table.setUnique other unique).isUnique key = table.isUnique key := by
  rw [Bool.eq_iff_iff]
  cases unique <;> simp [setUnique, isUnique, Ne.symm different]

theorem isUnique_setUnique_self : (table.setUnique key true).isUnique key = true := by
  simp [setUnique, isUnique]

theorem Exact.soundAt (exact : table.Exact) (distinct : table.Distinct key) :
    table.SoundAt key :=
  ⟨exact.counted key, fun _ => distinct.nodup⟩

section

variable (distinct : table.Distinct key)
include distinct

theorem Distinct.of_same {next : PolicyTable} (same : SameElsewhere other table next)
    (sound : next.SoundAt key) : next.Distinct key :=
  have unique := (same.isUnique key).trans distinct.unique
  ⟨unique, sound.distinct unique⟩

theorem Distinct.changed {made : Option PolicyTable}
    (kept : ∀ next, made = some next → next.Distinct key) :
    (table.changed made).2.Distinct key := by
  cases made with
  | none => exact distinct
  | some next => exact kept next rfl

theorem Distinct.setUnique {unique : Bool} (kept : other = key → unique = true) :
    (table.setUnique other unique).Distinct key := by
  refine ⟨?_, distinct.nodup⟩
  by_cases same : other = key
  · rw [kept same, same]
    exact isUnique_setUnique_self
  · rw [isUnique_setUnique_of_ne same]
    exact distinct.unique

theorem Distinct.clearKey (exact : table.Exact) : (table.clearKey other).Distinct key := by
  refine ⟨distinct.unique, ?_⟩
  by_cases same : key = other
  · subst same
    rw [rows, bucket_clearKey_self exact.nodup_keys]
    exact .nil
  · rw [rows, bucket_clearKey_of_ne table same]
    exact distinct.nodup

end

theorem nodup_replaceAll?_iff {next : PolicyTable} {old new : List Row}
    (nodup : (table.rows key).Nodup) (even : old.length = new.length)
    (stored : old.Subperm (table.rows key))
    (made : table.replaceAll? key old new = some next) :
    (next.rows key).Nodup ↔ new.Nodup ∧ ∀ row ∈ new, row ∈ table.rows key → row ∈ old := by
  have left : ((table.rows key).diff old).Nodup := nodup.sublist (List.diff_sublist _ _)
  rw [rows_replaceAll? made, (RowLists.perm_replaceAll stored even).nodup_iff,
    List.nodup_append']
  simp only [left, true_and, List.disjoint_left, nodup.mem_sdiff_iff]
  grind

theorem Exact.of_replaceAll? (exact : table.Exact) {next : PolicyTable} {old new : List Row}
    (made : table.replaceAll? key old new = some next) :
    old.length = new.length ∧ old.Subperm (table.rows key) := by
  have notRefused : table.replaceAll? key old new ≠ none := by simp [made]
  rwa [ne_eq, exact.replaceAll?_eq_none, not_or, not_not, not_not] at notRefused

theorem Exact.distinct_replaceAll? (exact : table.Exact) (distinct : table.Distinct key)
    {next : PolicyTable} {old new : List Row}
    (single : ¬ Doubles table key (.perform (.replaceAll other old new)))
    (made : table.replaceAll? other old new = some next) : next.Distinct key := by
  have same := sameElsewhere_replaceAll? made
  refine ⟨(same.isUnique key).trans distinct.unique, ?_⟩
  by_cases here : key = other
  · subst here
    obtain ⟨even, stored⟩ := exact.of_replaceAll? made
    rw [nodup_replaceAll?_iff distinct.nodup even stored made]
    by_contra twice
    refine single (.replaceAll even stored ?_)
    grind
  · rw [same.rows here]
    exact distinct.nodup

theorem Exact.not_doubles (exact : table.Exact) (distinct : table.Distinct key) {step : Step}
    (nodup : ((table.take step).2.rows key).Nodup) : ¬ Doubles table key step := by
  rintro ⟨even, stored, twice⟩
  cases made : table.replaceAll? key _ _ with
  | none =>
      rcases (exact.replaceAll?_eq_none key _ _).mp made with uneven | missing
      · exact uneven even
      · exact missing stored
  | some next =>
      simp only [PolicyTable.take, PolicyTable.perform, made, PolicyTable.changed] at nodup
      rw [nodup_replaceAll?_iff distinct.nodup even stored made] at nodup
      rcases twice with twice | ⟨row, brought, present, stays⟩
      · exact twice nodup.1
      · exact stays (nodup.2 row brought present)

/-- No step but a replacement of several rows doubles a row of a unique key, as long as the
key is to stay unique. -/
theorem Exact.distinct_take (exact : table.Exact) (distinct : table.Distinct key) {step : Step}
    (kept : step ≠ .perform (.setUnique key false)) (single : ¬ Doubles table key step) :
    (table.take step).2.Distinct key := by
  have sound := exact.soundAt distinct
  cases step with
  | copy => exact ⟨distinct.unique, distinct.nodup⟩
  | perform operation =>
      cases operation with
      | setUnique other unique =>
          refine distinct.setUnique fun same => ?_
          cases unique with
          | false => exact absurd (by rw [same]) kept
          | true => rfl
      | insert => exact distinct.changed fun _ made =>
          distinct.of_same (sameElsewhere_insert? made) (sound.insert? made)
      | insertAll => exact distinct.changed fun _ made =>
          distinct.of_same (sameElsewhere_insertAll? made) (sound.insertAll? made)
      | erase => exact distinct.changed fun _ made =>
          distinct.of_same (sameElsewhere_erase? made) (sound.erase? made)
      | eraseAll => exact distinct.changed fun _ made =>
          distinct.of_same (sameElsewhere_eraseAll? made) (sound.eraseAll? made)
      | replace => exact distinct.changed fun _ made =>
          distinct.of_same (sameElsewhere_replace? made) (sound.replace? made)
      | replaceAll => exact distinct.changed fun _ => exact.distinct_replaceAll? distinct single
      | eraseFiltered other filter =>
          exact distinct.of_same (sameElsewhere_eraseFiltered table other filter)
            (sound.eraseFiltered filter)
      | withField other index value =>
          simp only [PolicyTable.take, PolicyTable.perform]
          split
          · next rows next looked =>
              obtain ⟨unique, same⟩ := same_withField looked
              refine ⟨(unique key).trans distinct.unique, ?_⟩
              rw [same]
              exact distinct.nodup
          · exact distinct
      | clear => exact ⟨distinct.unique, .nil⟩
      | clearKey other => exact distinct.clearKey exact
      | _ => exact distinct

end

theorem Reachable.distinct_run {table : PolicyTable} (reachable : table.Reachable)
    {key : String} (distinct : table.Distinct key) {steps : List Step}
    (kept : .perform (.setUnique key false) ∉ steps)
    (single : ∀ before step, before ++ [step] <+: steps → (table.run before).2.Distinct key →
      ¬ Doubles (table.run before).2 key step) : (table.run steps).2.Distinct key := by
  -- By the last step, so that all that comes before it is a run from the same table.
  induction steps using List.reverseRecOn with
  | nil => exact distinct
  | append_singleton steps step ih =>
      rw [List.mem_append, not_or, List.mem_singleton] at kept
      have earlier : (table.run steps).2.Distinct key := by
        refine ih kept.1 fun before step inside => single before step ?_
        exact inside.trans (List.prefix_append steps _)
      rw [run_concat]
      refine (reachable.run steps).exact.distinct_take earlier (Ne.symm kept.2) ?_
      exact single steps step (List.prefix_refl _) earlier

/-- Whatever is done to a table, a unique key whose rows are distinct keeps them distinct at
every step, unless rows of it are replaced by rows that come twice or stay. -/
theorem distinct_iff_not_doubled {table : PolicyTable} (reachable : table.Reachable)
    {key : String} (unique : table.isUnique key = true) (nodup : (table.rows key).Nodup)
    {steps : List Step} (kept : .perform (.setUnique key false) ∉ steps) :
    (∀ before, before <+: steps → ((table.run before).2.rows key).Nodup) ↔
      ∀ before step, before ++ [step] <+: steps → ¬ Doubles (table.run before).2 key step := by
  have distinct_at : ∀ before, before <+: steps →
      (∀ first step, first ++ [step] <+: steps → (table.run first).2.Distinct key →
        ¬ Doubles (table.run first).2 key step) → (table.run before).2.Distinct key := by
    intro before inside single
    refine reachable.distinct_run ⟨unique, nodup⟩ (fun member => kept (inside.subset member)) ?_
    exact fun first step within => single first step (within.trans inside)
  constructor
  · intro stays before step inside
    have single : ∀ first step, first ++ [step] <+: steps →
        (table.run first).2.Distinct key → ¬ Doubles (table.run first).2 key step := by
      intro first step within distinct
      refine (reachable.run first).exact.not_doubles distinct ?_
      rw [← run_concat]
      exact stays _ within
    exact single before step inside
      (distinct_at before ((List.prefix_append before [step]).trans inside) single)
  · intro single before inside
    exact (distinct_at before inside fun first step within _ => single first step within).nodup

namespace Sample

def guests : PolicyTable :=
  (empty.run [.perform (.setUnique "p" true),
    .perform (.insertAll "p" [["ann"], ["bob"]])]).2

theorem reachable_guests : guests.Reachable :=
  Reachable.empty.run _

def visits : List Step :=
  [.perform (.insertAll "p" [["eve"], ["ann"]]), .perform (.insertAll "p" [["eve"]]),
    .perform (.replace "p" ["ann"] ["bob"]),
    .perform (.replaceAll "p" [["ann"], ["bob"]] [["bob"], ["ann"]]), .copy,
    .perform (.erase "p" ["eve"])]

end Sample

/-- The rows stay distinct, so that none of the steps doubles a row; to replace one guest by
the other one would. -/
theorem distinct_iff_not_doubled_guests :
    (Sample.guests.run Sample.visits).2.rows "p" = [["ann"], ["bob"]] ∧
    (∀ before step, before ++ [step] <+: Sample.visits →
      ¬ Doubles (Sample.guests.run before).2 "p" step) ∧
    ¬ ∀ before, before <+: [.perform (.replaceAll "p" [["ann"]] [["bob"]])] →
      ((Sample.guests.run before).2.rows "p").Nodup := by
  have unique : Sample.guests.isUnique "p" = true := by decide
  have nodup : (Sample.guests.rows "p").Nodup := by decide
  have stays : ∀ before ∈ Sample.visits.inits,
      ((Sample.guests.run before).2.rows "p").Nodup := by decide
  refine ⟨by decide, ?_, fun all => ?_⟩
  · refine (distinct_iff_not_doubled Sample.reachable_guests unique nodup (by decide)).mp ?_
    exact fun before inside => stays before ((List.mem_inits before _).mpr inside)
  · have single := (distinct_iff_not_doubled Sample.reachable_guests unique nodup
      (by decide)).mp all [] _ (List.prefix_refl _)
    exact single (.replaceAll rfl (List.subperm_of_subset (by decide) (by decide))
      (.inr ⟨["bob"], by decide⟩))

/-- One row of a unique key is replaced by the other one, although the replacement of a single
row refuses that. -/
theorem replaceAll_doubles_guests :
    Sample.guests.Reachable ∧ Sample.guests.isUnique "p" = true ∧
    Sample.guests.rows "p" = [["ann"], ["bob"]] ∧
    Sample.guests.replace? "p" ["ann"] ["bob"] = none ∧
    (Sample.guests.run [.perform (.replaceAll "p" [["ann"]] [["bob"]])]).1 =
      [.ok (.flag true)] ∧
    (Sample.guests.run [.perform (.replaceAll "p" [["ann"]] [["bob"]])]).2.rows "p" =
      [["bob"], ["bob"]] :=
  ⟨Sample.reachable_guests, by decide, by decide, by decide, rfl, by decide⟩

end PolicyTable

end AccessControl
