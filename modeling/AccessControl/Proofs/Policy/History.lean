import AccessControl.Proofs.Policy.Backwards

namespace AccessControl.PolicyTable

inductive Reachable : PolicyTable → Prop
  | empty : Reachable empty
  | take {table : PolicyTable} (reachable : table.Reachable) (step : Step) :
      Reachable (table.take step).2

theorem Simulates.exact {outcome : Answer Reply × PolicyTable} {reference : Reply × RowLists}
    (simulates : Simulates outcome reference) : outcome.2.Exact := by
  cases simulates with
  | answers exact => exact exact

section

variable {table : PolicyTable}

/-- No step makes a table inexact, not even one that fails at a field counted from the end. -/
theorem Exact.take_snd (exact : table.Exact) (step : Step) : (table.take step).2.Exact := by
  cases step with
  | copy => exact exact.copy
  | perform operation =>
      cases operation with
      | withField key index value =>
          simp only [PolicyTable.take, PolicyTable.perform]
          split
          · next rows next looked => exact exact.of_withField looked
          · exact exact
      | fieldValues => exact exact
      | _ => exact (exact.perform (by exact trivial)).exact

theorem Reachable.exact (reachable : table.Reachable) : table.Exact := by
  induction reachable with
  | empty => exact exact_empty
  | take _ step ih => exact ih.take_snd step

theorem Reachable.run (reachable : table.Reachable) (steps : List Step) :
    (table.run steps).2.Reachable := by
  induction steps generalizing table with
  | nil => exact reachable
  | cons step steps ih => exact ih (reachable.take step)

theorem run_concat (table : PolicyTable) (steps : List Step) (step : Step) :
    (table.run (steps ++ [step])).2 = ((table.run steps).2.take step).2 := by
  induction steps generalizing table with
  | nil => rfl
  | cons first steps ih => exact ih _

end

end AccessControl.PolicyTable
