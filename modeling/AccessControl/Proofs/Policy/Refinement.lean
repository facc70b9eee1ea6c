import AccessControl.Proofs.Policy.Exact

namespace AccessControl

namespace PolicyTable

theorem replaceFirst_eq_replace (old new : Row) (rows : List Row) :
    Bucket.replaceFirst old new rows = rows.replace old new := by
  induction rows with
  | nil => rfl
  | cons row rows ih =>
      rw [Bucket.replaceFirst, List.replace_cons, ih]
      by_cases same : row = old
      · rw [if_pos same, beq_iff_eq.mpr same.symm]
      · rw [if_neg same, beq_eq_false_iff_ne.mpr (Ne.symm same)]

theorem rows_replaceAll (bucket : Bucket) (pairs : List (Row × Row)) :
    (bucket.replaceAll pairs).rows = RowLists.replaceAll bucket.rows pairs := by
  induction pairs generalizing bucket with
  | nil => rfl
  | cons pair pairs ih =>
      rw [Bucket.replaceAll, ih, Bucket.replace, replaceFirst_eq_replace]
      rfl

theorem sound_replaceAll {bucket : Bucket} (sound : bucket.Sound)
    {pairs : List (Row × Row)} (replaceable : RowLists.Replaceable bucket.rows pairs) :
    (bucket.replaceAll pairs).Sound := by
  induction pairs generalizing bucket with
  | nil => exact sound
  | cons pair pairs ih =>
      obtain ⟨present, later⟩ := replaceable
      apply ih (sound.replace present pair.2)
      rw [Bucket.replace, replaceFirst_eq_replace]
      exact later

/-- Rows that are all there are there one after the other: what a replacement
takes away is not needed by those that follow it. -/
theorem replaceable_zip {rows old : List Row} (contained : old.Subperm rows)
    (new : List Row) : RowLists.Replaceable rows (old.zip new) := by
  induction old generalizing rows new with
  | nil => exact trivial
  | cons first old ih =>
      cases new with
      | nil => exact trivial
      | cons next new =>
          have present : first ∈ rows := contained.subset List.mem_cons_self
          refine ⟨present, ih ?_ new⟩
          have left : old.Subperm (rows.erase first) := by
            have erased := contained.erase first
            rwa [List.erase_cons_head] at erased
          apply left.trans
          apply List.subperm_ext_iff.mpr
          intro row _
          rw [← replaceFirst_eq_replace, Bucket.count_replaceFirst present,
            List.count_append]
          exact Nat.le_add_right _ _

inductive Follows : Option PolicyTable → Option RowLists → Prop
  | refused : Follows none none
  | made {next : PolicyTable} (exact : next.Exact) : Follows (some next) (some next.lists)

section Changes

variable {table : PolicyTable} (exact : table.Exact) (key : String)
include exact

theorem Exact.follows_withBucket {bucket : Bucket} {rows : List Row}
    (counted : bucket.Sound) (listed : bucket.rows = rows) :
    Follows (some (table.withBucket key bucket))
      (some (table.lists.withRows key rows)) := by
  rw [← listed, ← lists_withBucket]
  exact .made (exact.withBucket counted)

theorem Exact.insert? (row : Row) :
    Follows (table.insert? key row) (table.lists.insert? key row) := by
  unfold PolicyTable.insert? RowLists.insert?
  simp only [unique_lists, rows_lists, Bool.and_eq_true, exact.has_iff]
  split
  · exact .refused
  · exact exact.follows_withBucket key ((exact.counted key).pushAll [row]) rfl

theorem Exact.insertAll? (batch : List Row) :
    Follows (table.insertAll? key batch) (table.lists.insertAll? key batch) := by
  have refuses : (table.isUnique key &&
      (batch.any (table.has key) || !decide batch.Nodup)) = true ↔
      table.lists.Unique key ∧
        ¬(batch.Nodup ∧ ∀ row ∈ batch, row ∉ table.lists.rows key) := by
    simp only [Bool.and_eq_true, Bool.or_eq_true, List.any_eq_true, exact.has_iff,
      Bool.not_eq_true', decide_eq_false_iff_not, unique_lists, rows_lists]
    grind
  unfold PolicyTable.insertAll? RowLists.insertAll?
  simp only [refuses]
  split
  · exact .refused
  · rw [rows_lists]
    exact exact.follows_withBucket key ((exact.counted key).pushAll batch) rfl

theorem Exact.erase? (row : Row) :
    Follows (table.erase? key row) (table.lists.erase? key row) := by
  unfold PolicyTable.erase? RowLists.erase?
  simp only [rows_lists, exact.has_iff]
  split
  · exact exact.follows_withBucket key ((exact.counted key).erase row) rfl
  · exact .refused

theorem Exact.eraseAll? (batch : List Row) :
    Follows (table.eraseAll? key batch) (table.lists.eraseAll? key batch) := by
  unfold PolicyTable.eraseAll? RowLists.eraseAll?
  simp only [rows_lists, Bool.not_eq_true', ← Bool.not_eq_true, exact.containsAll_iff,
    List.isEmpty_iff]
  split
  · exact .refused
  · split
    · exact .made exact
    · exact exact.follows_withBucket key ((exact.counted key).eraseAll batch)
        (Bucket.rows_eraseAll _ batch)

theorem Exact.replace? (old new : Row) :
    Follows (table.replace? key old new) (table.lists.replace? key old new) := by
  unfold PolicyTable.replace? RowLists.replace?
  simp only [unique_lists, rows_lists, Bool.and_eq_true, Bool.not_eq_true', ← Bool.not_eq_true,
    exact.has_iff, bne_iff_ne, and_assoc]
  split
  · exact .refused
  · split
    · exact .refused
    · next present _ =>
        exact exact.follows_withBucket key
          ((exact.counted key).replace (not_not.mp present) new)
          (replaceFirst_eq_replace old new _)

theorem Exact.replaceAll? (old new : List Row) :
    Follows (table.replaceAll? key old new) (table.lists.replaceAll? key old new) := by
  unfold PolicyTable.replaceAll? RowLists.replaceAll?
  simp only [rows_lists, Bool.not_eq_true', ← Bool.not_eq_true, exact.containsAll_iff,
    List.isEmpty_iff, bne_iff_ne]
  split
  · exact .refused
  · split
    · exact .refused
    · split
      · exact .made (exact.withIndexes fun entry member => .inl (mem_forgotten member).1)
      · next contained _ =>
          exact exact.follows_withBucket key
            (sound_replaceAll (exact.counted key)
              (replaceable_zip (not_not.mp contained) new))
            (rows_replaceAll _ _)

theorem Exact.eraseFiltered (filter : RowFilter) :
    (table.eraseFiltered key filter).Exact ∧
      (table.eraseFiltered key filter).lists = table.lists.eraseFiltered key filter := by
  unfold PolicyTable.eraseFiltered RowLists.eraseFiltered RowLists.filtered
  rw [rows_lists, ← filtered]
  simp only [List.isEmpty_iff]
  split
  · exact ⟨exact, rfl⟩
  · exact ⟨exact.withBucket ((exact.counted key).eraseWhere _), lists_withBucket _ _ _⟩

end Changes

/-- The operation counts no field from the end of a row. -/
def Operation.Forward : Operation → Prop
  | .withField _ index _ | .fieldValues _ index => 0 ≤ index
  | _ => True

/-- An answer and a table after it, where lists give the reply. -/
inductive Simulates : Answer Reply × PolicyTable → Reply × RowLists → Prop
  | answers {reply : Reply} {next : PolicyTable} (exact : next.Exact) :
      Simulates (.ok reply, next) (reply, next.lists)

theorem Follows.simulates {table : PolicyTable} (exact : table.Exact)
    {made : Option PolicyTable} {reference : Option RowLists}
    (follows : Follows made reference) :
    Simulates (table.changed made) (table.lists.changed reference) := by
  cases follows with
  | refused => exact .answers exact
  | made next => exact .answers next

theorem Exact.perform {table : PolicyTable} (exact : table.Exact)
    {operation : Operation} (forward : operation.Forward) :
    Simulates (table.perform operation) (table.lists.perform operation) := by
  cases operation with
  | setUnique key unique => exact .answers (exact.setUnique key unique)
  | isUnique key =>
      have same : decide (table.lists.Unique key) = table.isUnique key := by
        rw [← Bool.coe_iff_coe, decide_eq_true_iff, unique_lists]
      rw [RowLists.perform, same]
      exact .answers exact
  | insert key row => exact (exact.insert? key row).simulates exact
  | insertAll key rows => exact (exact.insertAll? key rows).simulates exact
  | erase key row => exact (exact.erase? key row).simulates exact
  | eraseAll key rows => exact (exact.eraseAll? key rows).simulates exact
  | eraseFiltered key filter =>
      obtain ⟨kept, same⟩ := exact.eraseFiltered key filter
      rw [RowLists.perform, RowLists.filtered, rows_lists, ← same]
      exact .answers kept
  | replace key old new => exact (exact.replace? key old new).simulates exact
  | replaceAll key old new => exact (exact.replaceAll? key old new).simulates exact
  | rows key =>
      rw [RowLists.perform, rows_lists]
      exact .answers exact
  | filtered key filter =>
      rw [RowLists.perform, RowLists.filtered, rows_lists]
      exact .answers exact
  | withField key index value =>
      obtain ⟨place, rfl⟩ := Int.eq_ofNat_of_zero_le forward
      obtain ⟨indexes, looked, kept⟩ := exact.withField key place value
      rw [PolicyTable.perform, looked, RowLists.perform, rows_lists, Int.toNat_natCast]
      exact .answers kept
  | fieldValues key index =>
      obtain ⟨place, rfl⟩ := Int.eq_ofNat_of_zero_le forward
      rw [PolicyTable.perform, fieldValues_natCast, RowLists.perform, rows_lists,
        Int.toNat_natCast]
      exact .answers exact
  | has key row =>
      have same : decide (row ∈ table.rows key) = table.has key row := by
        rw [← Bool.coe_iff_coe, decide_eq_true_iff, exact.has_iff]
      rw [RowLists.perform, rows_lists, same]
      exact .answers exact
  | keys =>
      rw [RowLists.perform, keys_lists]
      exact .answers exact
  | count key =>
      rw [RowLists.perform, rows_lists]
      exact .answers exact
  | size =>
      have same : (table.lists.lists.map fun entry => entry.2.length).sum = table.size := by
        rw [lists, List.map_map]
        rfl
      rw [RowLists.perform, same]
      exact .answers exact
  | clear => exact .answers (Exact.clear table)
  | clearKey key =>
      have same : (table.clearKey key).lists =
          { table.lists with lists := Entries.erase key table.lists.lists } := by
        rw [lists, PolicyTable.clearKey, Entries.map_erase]
        rfl
      rw [RowLists.perform, ← same]
      exact .answers (exact.clearKey key)

/-- One step with a table: an operation on it, or going on with its copy. -/
inductive Step
  | perform (operation : Operation)
  | copy
deriving DecidableEq, Repr

def Step.Forward : Step → Prop
  | .perform operation => operation.Forward
  | .copy => True

def take (table : PolicyTable) : Step → Answer Reply × PolicyTable
  | .perform operation => table.perform operation
  | .copy => (.ok .done, table.copy)

def run (table : PolicyTable) : List Step → List (Answer Reply) × PolicyTable
  | [] => ([], table)
  | step :: steps =>
      let (answer, next) := table.take step
      let (answers, last) := next.run steps
      (answer :: answers, last)

end PolicyTable

namespace RowLists

open PolicyTable (Step)

def take (plain : RowLists) : Step → Reply × RowLists
  | .perform operation => plain.perform operation
  | .copy => (.done, plain)

def run (plain : RowLists) : List Step → List Reply × RowLists
  | [] => ([], plain)
  | step :: steps =>
      let (reply, next) := plain.take step
      let (replies, last) := next.run steps
      (reply :: replies, last)

end RowLists

namespace PolicyTable

theorem Exact.take {table : PolicyTable} (exact : table.Exact) {step : Step}
    (forward : step.Forward) : Simulates (table.take step) (table.lists.take step) := by
  cases step with
  | perform operation => exact exact.perform forward
  | copy => exact .answers exact.copy

inductive SimulatesAll : List (Answer Reply) × PolicyTable → List Reply × RowLists → Prop
  | answers {replies : List Reply} {last : PolicyTable} (exact : last.Exact) :
      SimulatesAll (replies.map .ok, last) (replies, last.lists)

theorem Exact.run {table : PolicyTable} (exact : table.Exact) {steps : List Step}
    (forward : ∀ step ∈ steps, step.Forward) :
    SimulatesAll (table.run steps) (table.lists.run steps) := by
  induction steps generalizing table with
  | nil => exact @SimulatesAll.answers [] table exact
  | cons step steps ih =>
      have taken := exact.take (forward step List.mem_cons_self)
      rw [PolicyTable.run, RowLists.run]
      generalize table.take step = outcome at taken ⊢
      generalize table.lists.take step = reference at taken ⊢
      cases taken with
      | @answers reply next kept =>
          have rest := ih kept fun later member =>
            forward later (List.mem_cons_of_mem step member)
          simp only
          generalize next.run steps = outcome at rest ⊢
          generalize next.lists.run steps = reference at rest ⊢
          cases rest with
          | @answers replies last finished =>
              exact @SimulatesAll.answers (reply :: replies) last finished

structure Transparent (table : PolicyTable) : Prop where
  counted : ∀ key, (table.bucket key).tally.Counts (table.rows key)
  indexed : ∀ entry ∈ table.indexes,
    indexOf (table.rows entry.1.1) entry.1.2 = .ok entry.2
  has_iff : ∀ key row, table.has key row = true ↔ row ∈ table.rows key
  withField : ∀ key (place : Nat) value, ∃ next, table.withField key place value =
    .ok ((table.rows key).filter fun row => row[place]? = some value, next)
  answers : ∀ operation : Operation, operation.Forward →
    ∃ reply, (table.perform operation).1 = .ok reply
  erase_refused : ∀ key row, table.erase? key row = none ↔ row ∉ table.rows key
  eraseAll_refused : ∀ key rows,
    table.eraseAll? key rows = none ↔ ¬rows.Subperm (table.rows key)
  /-- A row that is there is only kept from becoming one that its key, which is
  unique, would then hold twice. -/
  replace_refused : ∀ key old new, table.replace? key old new = none ↔
    old ∉ table.rows key ∨
      table.isUnique key = true ∧ new ≠ old ∧ new ∈ table.rows key
  replaceAll_refused : ∀ key old new, table.replaceAll? key old new = none ↔
    old.length ≠ new.length ∨ ¬old.Subperm (table.rows key)
  replaceable : ∀ key old new, table.replaceAll? key old new ≠ none →
    RowLists.Replaceable (table.rows key) (old.zip new)

section Refusals

variable {table : PolicyTable} (exact : table.Exact) (key : String)
include exact

theorem Exact.erase?_eq_none (row : Row) :
    table.erase? key row = none ↔ row ∉ table.rows key := by
  rw [PolicyTable.erase?, ← exact.has_iff]
  split
  · next present => simp [present]
  · next absent => simp [absent]

theorem Exact.eraseAll?_eq_none (rows : List Row) :
    table.eraseAll? key rows = none ↔ ¬rows.Subperm (table.rows key) := by
  rw [PolicyTable.eraseAll?, ← exact.containsAll_iff]
  split
  · next absent => simpa using absent
  · next present =>
      split
      · simpa using present
      · simpa using present

theorem Exact.replace?_eq_none (old new : Row) :
    table.replace? key old new = none ↔ old ∉ table.rows key ∨
      table.isUnique key = true ∧ new ≠ old ∧ new ∈ table.rows key := by
  rw [PolicyTable.replace?, ← exact.has_iff, ← exact.has_iff]
  split
  · next absent => simpa using Or.inl absent
  · next present => simp_all [and_assoc]

theorem Exact.replaceAll?_eq_none (old new : List Row) :
    table.replaceAll? key old new = none ↔
      old.length ≠ new.length ∨ ¬old.Subperm (table.rows key) := by
  rw [PolicyTable.replaceAll?, ← exact.containsAll_iff]
  split
  · next uneven => simp_all
  · next even =>
      split
      · next absent => simp_all
      · next present =>
          split
          · simp_all
          · simp_all

end Refusals

theorem Exact.transparent {table : PolicyTable} (exact : table.Exact) :
    table.Transparent where
  counted := exact.counted
  indexed := exact.indexed
  has_iff := exact.has_iff
  withField key place value :=
    have ⟨_, looked, _⟩ := exact.withField key place value
    ⟨_, looked⟩
  answers operation forward := by
    have simulates := exact.perform forward
    generalize table.perform operation = outcome at simulates ⊢
    generalize table.lists.perform operation = reference at simulates
    cases simulates with
    | answers next => exact ⟨_, rfl⟩
  erase_refused := exact.erase?_eq_none
  eraseAll_refused := exact.eraseAll?_eq_none
  replace_refused := exact.replace?_eq_none
  replaceAll_refused := exact.replaceAll?_eq_none
  replaceable key old new made := by
    rw [ne_eq, exact.replaceAll?_eq_none, not_or, not_not, not_not] at made
    exact replaceable_zip made.2 new

/-- Every run of a table from the empty one is a run of plain lists of rows. -/
theorem run_refines_lists {steps : List Step} (forward : ∀ step ∈ steps, step.Forward) :
    (empty.run steps).1 = (RowLists.empty.run steps).1.map .ok ∧
      (empty.run steps).2.lists = (RowLists.empty.run steps).2 ∧
      (empty.run steps).2.Transparent := by
  have simulates := exact_empty.run forward
  change SimulatesAll _ (RowLists.empty.run steps) at simulates
  generalize empty.run steps = outcome at simulates ⊢
  generalize RowLists.empty.run steps = reference at simulates ⊢
  cases simulates with
  | answers exact => exact ⟨rfl, rfl, exact.transparent⟩

namespace Sample

def steps : List Step :=
  [.perform (.setUnique "p" true),
    .perform (.insertAll "p" [["ann", "read"], ["bob", "read"]]),
    .perform (.withField "p" 1 "read"),
    .perform (.replace "p" ["ann", "read"] ["bob", "read"]),
    .perform (.replace "p" ["ann", "read"] ["ann", "write"]),
    .copy,
    .perform (.erase "p" ["ann", "read"]),
    .perform (.withField "p" 1 "read")]

end Sample

theorem run_refines_lists_steps :
    (∀ step ∈ Sample.steps, step.Forward) ∧
      (empty.run Sample.steps).1 =
        [.ok .done, .ok (.flag true), .ok (.rows [["ann", "read"], ["bob", "read"]]),
          .ok (.flag false), .ok (.flag true), .ok .done, .ok (.flag false),
          .ok (.rows [["bob", "read"]])] ∧
      (empty.run Sample.steps).2.Transparent := by
  have forward : ∀ step ∈ Sample.steps, step.Forward := by
    simp [Sample.steps, Step.Forward, Operation.Forward]
  have replies : (RowLists.empty.run Sample.steps).1 =
      [.done, .flag true, .rows [["ann", "read"], ["bob", "read"]], .flag false,
        .flag true, .done, .flag false, .rows [["bob", "read"]]] := by decide
  obtain ⟨answers, -, transparent⟩ := run_refines_lists forward
  rw [replies] at answers
  exact ⟨forward, answers, transparent⟩

end PolicyTable

end AccessControl
