namespace AccessControl.Text

structure Ranges where
  bounds : List (Nat × Nat)

def Ranges.has (ranges : Ranges) (character : Char) : Bool :=
  ranges.bounds.any fun bound =>
    bound.1 ≤ character.toNat && character.toNat ≤ bound.2

theorem Ranges.has_iff (ranges : Ranges) (character : Char) :
    ranges.has character = true ↔
      ∃ bound ∈ ranges.bounds,
        bound.1 ≤ character.toNat ∧ character.toNat ≤ bound.2 := by
  simp [Ranges.has, List.any_eq_true]

end AccessControl.Text
