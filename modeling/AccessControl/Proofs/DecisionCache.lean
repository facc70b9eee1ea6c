import AccessControl.DecisionCache
import AccessControl.Proofs.Entries

namespace AccessControl.DecisionCache

theorem get_fst (cache : DecisionCache) (key : String) :
    (cache.get key).1 = cache.entries.lookup key := by
  unfold get
  split
  · next decision found => exact found.symm
  · next missing => exact missing.symm

theorem mem_touched {entries : List (String × Bool)} {key : String} {decision : Bool}
    {entry : String × Bool} (member : entry ∈ touched entries key decision) :
    entry = (key, decision) ∨ entry ∈ entries := by
  rcases List.mem_append.mp member with old | new
  · exact .inr (List.mem_filter.mp old).1
  · exact .inl (List.mem_singleton.mp new)

theorem mem_get {cache : DecisionCache} {key : String} {entry : String × Bool}
    (member : entry ∈ (cache.get key).2.entries) : entry ∈ cache.entries := by
  unfold get at member
  split at member
  · next decision found =>
      rcases mem_touched member with rfl | old
      · exact Entries.mem_of_lookup found
      · exact old
  · exact member

theorem trimmedTo_sublist (limit : Option Nat) (entries : List (String × Bool)) :
    (trimmedTo limit entries).Sublist entries := by
  unfold trimmedTo
  split
  · exact .refl _
  · split
    · exact List.drop_sublist _ _
    · exact .refl _

theorem mem_put {cache : DecisionCache} {key : String} {decision : Bool}
    {entry : String × Bool} (member : entry ∈ (cache.put key decision).entries) :
    entry = (key, decision) ∨ entry ∈ cache.entries :=
  mem_touched ((trimmedTo_sublist _ _).mem member)

end AccessControl.DecisionCache
