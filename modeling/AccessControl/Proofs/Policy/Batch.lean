import AccessControl.Proofs.Policy.Replacement

namespace AccessControl.PolicyTable

/-! Several rows at once. They are added or erased as they would be one after the other, if
none of them would be refused; otherwise nothing happens. -/

/-- What becomes of a table whose rows change under one key. -/
structure Becomes (table next : PolicyTable) (key : String) (rows : List Row) : Prop where
  exact : next.Exact
  rows : next.rows key = rows
  elsewhere : SameElsewhere key table next

theorem Becomes.trans {table next last : PolicyTable} {key : String} {rows others : List Row}
    (first : Becomes table next key rows) (second : Becomes next last key others) :
    Becomes table last key others where
  exact := second.exact
  rows := second.rows
  elsewhere := ⟨fun other => (second.elsewhere.isUnique other).trans
    (first.elsewhere.isUnique other), fun different => (second.elsewhere.rows different).trans
      (first.elsewhere.rows different)⟩

section

variable {table left right : PolicyTable} {key : String} {rows : List Row}
  (first : Becomes table left key rows) (second : Becomes table right key rows)
include first second

theorem Becomes.rows_eq (other : String) : left.rows other = right.rows other := by
  by_cases same : other = key
  · rw [same, first.rows, second.rows]
  · rw [first.elsewhere.rows same, second.elsewhere.rows same]

theorem Becomes.has_eq (other : String) (row : Row) : left.has other row = right.has other row := by
  rw [Bool.eq_iff_iff, first.exact.has_iff, second.exact.has_iff, first.rows_eq second]

end

theorem Follows.exact {made : Option PolicyTable} {reference : Option RowLists}
    (follows : Follows made reference) {next : PolicyTable} (isMade : made = some next) :
    next.Exact := by
  cases follows with
  | refused => cases isMade
  | made exact =>
      cases isMade
      exact exact

section

variable {table next : PolicyTable} (exact : table.Exact) {key : String}
include exact

theorem Exact.insert?_eq_none {row : Row} :
    table.insert? key row = none ↔ table.isUnique key = true ∧ row ∈ table.rows key := by
  simp [PolicyTable.insert?, exact.has_iff]

theorem Exact.insertAll?_eq_none {rows : List Row} :
    table.insertAll? key rows = none ↔
      table.isUnique key = true ∧ ¬ (rows.Nodup ∧ ∀ row ∈ rows, row ∉ table.rows key) := by
  simp only [PolicyTable.insertAll?, ite_eq_left_iff, reduceCtorEq, imp_false, not_not,
    Bool.and_eq_true, Bool.or_eq_true, List.any_eq_true, exact.has_iff, Bool.not_eq_true',
    decide_eq_false_iff_not]
  grind

theorem Exact.becomes_insert? {row : Row} (made : table.insert? key row = some next) :
    Becomes table next key (table.rows key ++ [row]) where
  exact := (exact.insert? key row).exact made
  rows := by
    simp only [PolicyTable.insert?, Option.ite_none_left_eq_some, Option.some.injEq] at made
    rw [← made.2, rows_withBucket_self]
    rfl
  elsewhere := sameElsewhere_insert? made

theorem Exact.becomes_insertAll? {rows : List Row}
    (made : table.insertAll? key rows = some next) :
    Becomes table next key (table.rows key ++ rows) where
  exact := (exact.insertAll? key rows).exact made
  rows := by
    simp only [PolicyTable.insertAll?, Option.ite_none_left_eq_some, Option.some.injEq] at made
    rw [← made.2, rows_withBucket_self]
    rfl
  elsewhere := sameElsewhere_insertAll? made

theorem Exact.becomes_erase? {row : Row} (made : table.erase? key row = some next) :
    Becomes table next key ((table.rows key).erase row) where
  exact := (exact.erase? key row).exact made
  rows := by
    simp only [PolicyTable.erase?, Option.ite_none_right_eq_some, Option.some.injEq] at made
    rw [← made.2, rows_withBucket_self]
    rfl
  elsewhere := sameElsewhere_erase? made

theorem Exact.becomes_eraseAll? {rows : List Row} (made : table.eraseAll? key rows = some next) :
    Becomes table next key ((table.rows key).diff rows) where
  exact := (exact.eraseAll? key rows).exact made
  rows := by
    unfold PolicyTable.eraseAll? at made
    split at made
    · cases made
    · split at made
      · next empty =>
          cases made
          rw [List.isEmpty_iff.mp empty]
          rfl
      · cases made
        rw [rows_withBucket_self, Bucket.rows_eraseAll]
        rfl
  elsewhere := sameElsewhere_eraseAll? made

end

def singly (operation : Row → Operation) (rows : List Row) : List Step :=
  rows.map fun row => .perform (operation row)

def AllMade (answers : List (Answer Reply)) : Prop :=
  ∀ answer ∈ answers, answer = .ok (.flag true)

section

variable {operation : Row → Operation} {change? : PolicyTable → Row → Option PolicyTable}
  (performed : ∀ (table : PolicyTable) (row : Row),
    table.perform (operation row) = table.changed (change? table row))
include performed

theorem allMade_singly_cons (table : PolicyTable) (row : Row) (rows : List Row) :
    AllMade (table.run (singly operation (row :: rows))).1 ↔
      ∃ next, change? table row = some next ∧ AllMade (next.run (singly operation rows)).1 := by
  rw [singly, List.map_cons, PolicyTable.run, PolicyTable.take, performed]
  cases change? table row with
  | none => simp [changed, AllMade]
  | some next => simp [changed, AllMade, singly]

theorem run_singly_cons {table next : PolicyTable} {row : Row}
    (made : change? table row = some next) (rows : List Row) :
    (table.run (singly operation (row :: rows))).2 =
      (next.run (singly operation rows)).2 := by
  rw [singly, List.map_cons, PolicyTable.run, PolicyTable.take, performed, made]
  rfl

theorem becomes_singly {key : String} (after : List Row → Row → List Row)
    (becomes : ∀ {table next : PolicyTable} {row : Row}, table.Exact →
      change? table row = some next → Becomes table next key (after (table.rows key) row))
    {table : PolicyTable} (exact : table.Exact) {rows : List Row}
    (all : AllMade (table.run (singly operation rows)).1) :
    Becomes table (table.run (singly operation rows)).2 key
      (rows.foldl after (table.rows key)) := by
  induction rows generalizing table with
  | nil => exact ⟨exact, rfl, .refl key table⟩
  | cons row rows ih =>
      obtain ⟨next, made, later⟩ := (allMade_singly_cons performed table row rows).mp all
      have first := becomes exact made
      have rest := ih first.exact later
      rw [run_singly_cons performed made, List.foldl_cons, ← first.rows]
      exact first.trans rest

end

section

variable {table : PolicyTable} (exact : table.Exact) {key : String} {rows : List Row}
include exact

/-- Rows that are added one after the other are refused for the same reasons as all of them
at once. -/
theorem Exact.allMade_insert_iff :
    AllMade (table.run (singly (.insert key) rows)).1 ↔ table.insertAll? key rows ≠ none := by
  rw [ne_eq, exact.insertAll?_eq_none]
  induction rows generalizing table with
  | nil => simp [singly, PolicyTable.run, AllMade]
  | cons row rows ih =>
      rw [allMade_singly_cons (fun table row => rfl)]
      cases made : table.insert? key row with
      | none =>
          obtain ⟨unique, present⟩ := exact.insert?_eq_none.mp made
          simp [unique, present]
      | some next =>
          have admitted : ¬ (table.isUnique key = true ∧ row ∈ table.rows key) := by
            rw [← exact.insert?_eq_none, made]
            simp
          have becomes := exact.becomes_insert? made
          simp only [Option.some.injEq, exists_eq_left', ih becomes.exact, becomes.rows,
            becomes.elsewhere.isUnique]
          grind

theorem Exact.allMade_erase_iff :
    AllMade (table.run (singly (.erase key) rows)).1 ↔ table.eraseAll? key rows ≠ none := by
  rw [ne_eq, exact.eraseAll?_eq_none, not_not]
  induction rows generalizing table with
  | nil => simp [singly, PolicyTable.run, AllMade]
  | cons row rows ih =>
      rw [allMade_singly_cons (fun table row => rfl)]
      cases made : table.erase? key row with
      | none =>
          have absent := (exact.erase?_eq_none key row).mp made
          refine iff_of_false (by simp) fun contained => ?_
          exact absent (contained.subset List.mem_cons_self)
      | some next =>
          have present : row ∈ table.rows key := by
            by_contra absent
            rw [(exact.erase?_eq_none key row).mpr absent] at made
            cases made
          have becomes := exact.becomes_erase? made
          simp only [Option.some.injEq, exists_eq_left', ih becomes.exact, becomes.rows]
          rw [(List.perm_cons_erase present).subperm_left, List.subperm_cons]

end

/-- A batch is made exactly if its rows would all be accepted one after the other, and then it
leaves the same rows. -/
structure Folds (table : PolicyTable) (batch : Operation) (single : Row → Operation)
    (listed : List Row) : Prop where
  returns : ∃ made, (table.perform batch).1 = .ok (.flag made)
  made_iff : (table.perform batch).1 = .ok (.flag true) ↔
    AllMade (table.run (singly single listed)).1
  rows : (table.perform batch).1 = .ok (.flag true) → ∀ key,
    (table.perform batch).2.rows key = (table.run (singly single listed)).2.rows key
  has : (table.perform batch).1 = .ok (.flag true) → ∀ key row,
    (table.perform batch).2.has key row = (table.run (singly single listed)).2.has key row

theorem folds_of_becomes {table : PolicyTable} {batch : Operation} {single : Row → Operation}
    {rows after : List Row} {key : String} {made : Option PolicyTable}
    (performed : table.perform batch = table.changed made)
    (all_iff : AllMade (table.run (singly single rows)).1 ↔ made ≠ none)
    (atOnce : ∀ {next}, made = some next → Becomes table next key after)
    (oneByOne : AllMade (table.run (singly single rows)).1 →
      Becomes table (table.run (singly single rows)).2 key after) :
    Folds table batch single rows := by
  cases isMade : made with
  | none =>
      rw [isMade] at performed all_iff
      have refused : (table.perform batch).1 ≠ .ok (.flag true) := by simp [performed, changed]
      refine ⟨⟨false, by rw [performed]; rfl⟩, iff_of_false refused ?_,
        fun isMade => absurd isMade refused, fun isMade => absurd isMade refused⟩
      rw [all_iff]
      exact fun different => different rfl
  | some next =>
      rw [isMade] at performed all_iff
      have first := atOnce isMade
      have all := all_iff.mpr (Option.some_ne_none next)
      have second := oneByOne all
      have returned : (table.perform batch).1 = .ok (.flag true) := by rw [performed]; rfl
      have left : (table.perform batch).2 = next := by rw [performed]; rfl
      refine ⟨⟨true, returned⟩, iff_of_true returned all, fun _ other => ?_, fun _ other row => ?_⟩
      · rw [left]
        exact first.rows_eq second other
      · rw [left]
        exact first.has_eq second other row

def Operation.Several : Operation → Prop
  | .insertAll .. | .eraseAll .. | .replaceAll .. => True
  | _ => False

theorem perform_of_several {operation : Operation} (several : operation.Several)
    (table : PolicyTable) : ∃ made, table.perform operation = table.changed made := by
  cases operation with
  | insertAll | eraseAll | replaceAll => exact ⟨_, rfl⟩
  | _ => exact several.elim

/-- Whatever happened to a table: several rows are added, or erased, exactly if all of them
would be one after the other, with the same rows left. What is refused leaves all answers as
they were. -/
theorem batches_fold {table : PolicyTable} (reachable : table.Reachable) (key : String)
    (rows : List Row) :
    Folds table (.insertAll key rows) (.insert key) rows ∧
    Folds table (.eraseAll key rows) (.erase key) rows ∧
    ∀ batch : Operation, batch.Several → (table.perform batch).1 = .ok (.flag false) →
      ∀ steps, ((table.perform batch).2.run steps).1 = (table.run steps).1 := by
  have exact := reachable.exact
  refine ⟨?_, ?_, fun batch several refused steps => ?_⟩
  · refine folds_of_becomes rfl exact.allMade_insert_iff exact.becomes_insertAll? fun all => ?_
    have listed : rows.foldl (fun rows row => rows ++ [row]) (table.rows key) =
        table.rows key ++ rows := by
      rw [List.foldl_append_eq_append, ← List.flatMap_def, List.flatMap_singleton']
    rw [← listed]
    exact becomes_singly (fun _ _ => rfl) (fun rows row => rows ++ [row])
      (fun exact made => exact.becomes_insert? made) exact all
  · refine folds_of_becomes rfl exact.allMade_erase_iff exact.becomes_eraseAll? fun all => ?_
    rw [List.diff_eq_foldl]
    exact becomes_singly (fun _ _ => rfl) List.erase
      (fun exact made => exact.becomes_erase? made) exact all
  · obtain ⟨made, performed⟩ := perform_of_several several table
    rw [performed] at refused ⊢
    cases made with
    | none => rfl
    | some next => cases refused

namespace Sample

def crowd : PolicyTable :=
  (empty.run [.perform (.insertAll "p" [["ann"], ["bob"], ["ann"]])]).2

theorem reachable_crowd : crowd.Reachable :=
  Reachable.empty.run _

end Sample

/-- The row is erased as often as it is there, and no row more often. -/
theorem batches_fold_crowd :
    AllMade (Sample.crowd.run (singly (.erase "p") [["ann"], ["ann"]])).1 ∧
    (Sample.crowd.run (singly (.erase "p") [["ann"], ["ann"]])).2.rows "p" = [["bob"]] ∧
    ((Sample.crowd.perform (.eraseAll "p" [["bob"], ["bob"]])).2.run
      [.perform (.has "p" ["bob"]), .perform (.withField "p" 0 "ann")]).1 =
        [.ok (.flag true), .ok (.rows [["ann"], ["ann"]])] := by
  obtain ⟨-, erased, refused⟩ := batches_fold Sample.reachable_crowd "p" [["ann"], ["ann"]]
  have made : (Sample.crowd.perform (.eraseAll "p" [["ann"], ["ann"]])).1 = .ok (.flag true) :=
    rfl
  refine ⟨erased.made_iff.mp made, ?_, ?_⟩
  · rw [← erased.rows made]
    decide
  · rw [refused (.eraseAll "p" [["bob"], ["bob"]]) trivial rfl]
    rfl

end AccessControl.PolicyTable
