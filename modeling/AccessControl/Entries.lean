namespace AccessControl

abbrev Entries (κ α : Type) := List (κ × α)

namespace Entries

variable {κ α : Type} [BEq κ]

def keys (entries : Entries κ α) : List κ :=
  entries.map (·.1)

/-- A new key comes last; a known one keeps its place. -/
def put (key : κ) (value : α) : Entries κ α → Entries κ α
  | [] => [(key, value)]
  | entry :: rest =>
      if entry.1 == key then (entry.1, value) :: rest
      else entry :: put key value rest

def erase (key : κ) : Entries κ α → Entries κ α
  | [] => []
  | entry :: rest => if entry.1 == key then rest else entry :: erase key rest

theorem lookup_put_self [LawfulBEq κ] (key : κ) (value : α)
    (entries : Entries κ α) :
    (put key value entries).lookup key = some value := by
  induction entries with
  | nil => simp [put]
  | cons entry rest ih =>
      obtain ⟨own, old⟩ := entry
      by_cases same : own = key
      · subst same
        simp [put]
      · have differs : (key == own) = false := by
          simpa using fun h : key = own => same h.symm
        simp [put, same, List.lookup_cons, differs, ih]

theorem lookup_put_of_ne [LawfulBEq κ] {key other : κ} (different : other ≠ key)
    (value : α) (entries : Entries κ α) :
    (put key value entries).lookup other = entries.lookup other := by
  induction entries with
  | nil =>
      have differs : (other == key) = false := by simpa using different
      simp [put, List.lookup_cons, differs]
  | cons entry rest ih =>
      obtain ⟨own, old⟩ := entry
      by_cases same : own = key
      · subst same
        have differs : (other == own) = false := by simpa using different
        simp [put, List.lookup_cons, differs]
      · simp only [put, beq_iff_eq, same, if_false, List.lookup_cons, ih]

end Entries

end AccessControl
