import AccessControl.Entries
import Mathlib.Tactic.Tauto

namespace AccessControl.Entries

variable {κ α : Type} [BEq κ] [LawfulBEq κ]

theorem mem_of_lookup {key : κ} {value : α} {entries : Entries κ α}
    (found : entries.lookup key = some value) : (key, value) ∈ entries := by
  obtain ⟨before, after, rfl, -⟩ := List.lookup_eq_some_iff.mp found
  simp

theorem mem_keys_of_lookup {key : κ} {value : α} {entries : Entries κ α}
    (found : entries.lookup key = some value) : key ∈ keys entries :=
  List.mem_map_of_mem (f := Prod.fst) (mem_of_lookup found)

theorem lookup_eq_none {key : κ} {entries : Entries κ α}
    (absent : key ∉ keys entries) : entries.lookup key = none := by
  cases found : entries.lookup key with
  | none => rfl
  | some value => exact absurd (mem_keys_of_lookup found) absent

theorem lookup_of_mem {entry : κ × α} {entries : Entries κ α}
    (nodup : (keys entries).Nodup) (member : entry ∈ entries) :
    entries.lookup entry.1 = some entry.2 := by
  induction entries with
  | nil => cases member
  | cons first rest ih =>
      simp only [keys, List.map_cons, List.nodup_cons] at nodup
      rcases List.mem_cons.mp member with rfl | later
      · exact List.lookup_cons_self
      · have differs : (entry.1 == first.1) = false := by
          rw [beq_eq_false_iff_ne]
          intro same
          exact nodup.1 (List.mem_map.mpr ⟨entry, later, same⟩)
        rw [List.lookup_cons, differs]
        exact ih nodup.2 later

theorem mem_keys_put {key other : κ} {value : α} {entries : Entries κ α}
    (member : other ∈ keys (put key value entries)) :
    other = key ∨ other ∈ keys entries := by
  induction entries with
  | nil =>
      simp only [put, keys, List.map_cons, List.map_nil, List.mem_singleton] at member
      exact .inl member
  | cons first rest ih =>
      by_cases same : first.1 = key
      · simp only [put, same, beq_self_eq_true, if_true, keys, List.map_cons,
          List.mem_cons] at member ⊢
        tauto
      · simp only [put, beq_iff_eq, same, if_false, keys, List.map_cons,
          List.mem_cons] at member ⊢
        rcases member with rfl | later
        · exact .inr (.inl rfl)
        · rcases ih later with isKey | old
          · exact .inl isKey
          · exact .inr (.inr old)

theorem mem_keys_put_iff {key other : κ} {value : α} {entries : Entries κ α} :
    other ∈ keys (put key value entries) ↔ other = key ∨ other ∈ keys entries := by
  refine ⟨mem_keys_put, ?_⟩
  induction entries with
  | nil => simp [put, keys]
  | cons first rest ih =>
      by_cases same : first.1 = key
      · simp only [put, same, beq_self_eq_true, if_true, keys, List.map_cons, List.mem_cons]
        tauto
      · simp only [put, beq_iff_eq, same, if_false, keys, List.map_cons, List.mem_cons]
        rintro (isKey | isFirst | later)
        · exact .inr (ih (.inl isKey))
        · exact .inl isFirst
        · exact .inr (ih (.inr later))

theorem mem_put {entry : κ × α} {key : κ} {value : α} {entries : Entries κ α}
    (member : entry ∈ put key value entries) :
    entry = (key, value) ∨ entry ∈ entries := by
  induction entries with
  | nil => exact .inl (List.mem_singleton.mp member)
  | cons first rest ih =>
      by_cases same : first.1 = key
      · simp only [put, same, beq_self_eq_true, if_true, List.mem_cons] at member ⊢
        tauto
      · simp only [put, beq_iff_eq, same, if_false, List.mem_cons] at member ⊢
        rcases member with isFirst | later
        · exact .inr (.inl isFirst)
        · rcases ih later with isNew | old
          · exact .inl isNew
          · exact .inr (.inr old)

theorem keys_put_of_mem {key : κ} {entries : Entries κ α} (member : key ∈ keys entries)
    (value : α) : keys (put key value entries) = keys entries := by
  induction entries with
  | nil => cases member
  | cons first rest ih =>
      by_cases same : first.1 = key
      · simp only [put, same, beq_self_eq_true, if_true, keys, List.map_cons]
      · simp only [keys, List.map_cons, List.mem_cons] at member
        have later : key ∈ keys rest := member.resolve_left (Ne.symm same)
        simp only [put, beq_iff_eq, same, if_false, keys, List.map_cons]
        exact congrArg (first.1 :: ·) (ih later)

theorem keys_put_of_not_mem {key : κ} {entries : Entries κ α}
    (absent : key ∉ keys entries) (value : α) :
    keys (put key value entries) = keys entries ++ [key] := by
  induction entries with
  | nil => rfl
  | cons first rest ih =>
      simp only [keys, List.map_cons, List.mem_cons, not_or] at absent
      simp only [put, beq_iff_eq, Ne.symm absent.1, if_false, keys, List.map_cons,
        List.cons_append]
      exact congrArg (first.1 :: ·) (ih absent.2)

theorem nodup_keys_put {key : κ} {value : α} {entries : Entries κ α}
    (nodup : (keys entries).Nodup) : (keys (put key value entries)).Nodup := by
  induction entries with
  | nil => simp [put, keys]
  | cons first rest ih =>
      simp only [keys, List.map_cons, List.nodup_cons] at nodup
      by_cases same : first.1 = key
      · simpa [put, same, keys] using nodup
      · simp only [put, beq_iff_eq, same, if_false, keys, List.map_cons,
          List.nodup_cons]
        refine ⟨fun member => ?_, ih nodup.2⟩
        rcases mem_keys_put member with isKey | old
        · exact same isKey
        · exact nodup.1 old

theorem erase_sublist (key : κ) (entries : Entries κ α) :
    (erase key entries).Sublist entries := by
  induction entries with
  | nil => exact .slnil
  | cons first rest ih =>
      by_cases same : first.1 = key
      · simp [erase, same]
      · simpa [erase, same] using ih

theorem nodup_keys_erase {key : κ} {entries : Entries κ α}
    (nodup : (keys entries).Nodup) : (keys (erase key entries)).Nodup :=
  nodup.sublist ((erase_sublist key entries).map _)

theorem lookup_erase_self {key : κ} {entries : Entries κ α}
    (nodup : (keys entries).Nodup) : (erase key entries).lookup key = none := by
  induction entries with
  | nil => rfl
  | cons first rest ih =>
      simp only [keys, List.map_cons, List.nodup_cons] at nodup
      by_cases same : first.1 = key
      · subst same
        simpa [erase] using lookup_eq_none nodup.1
      · have differs : (key == first.1) = false := by
          rw [beq_eq_false_iff_ne]
          exact fun isKey => same isKey.symm
        rw [erase, if_neg (by simpa using same), List.lookup_cons, differs]
        exact ih nodup.2

theorem lookup_erase_of_ne {key other : κ} (different : other ≠ key)
    (entries : Entries κ α) : (erase key entries).lookup other = entries.lookup other := by
  induction entries with
  | nil => rfl
  | cons first rest ih =>
      by_cases same : first.1 = key
      · subst same
        have differs : (other == first.1) = false := by
          rw [beq_eq_false_iff_ne]
          exact different
        rw [erase, if_pos (beq_self_eq_true _), List.lookup_cons, differs]
      · rw [erase, if_neg (by simpa using same), List.lookup_cons, List.lookup_cons, ih]

theorem lookup_map {β : Type} {change : κ × α → κ × β}
    (keeps : ∀ entry, (change entry).1 = entry.1) (key : κ) (entries : Entries κ α) :
    List.lookup key (entries.map change) =
      (entries.lookup key).map fun value => (change (key, value)).2 := by
  induction entries with
  | nil => rfl
  | cons first rest ih =>
      rw [List.map_cons, List.lookup_cons, List.lookup_cons, keeps, ih]
      cases same : key == first.1 with
      | false => rfl
      | true => rw [eq_of_beq same, Option.map_some]

theorem map_put {β : Type} (change : α → β) (key : κ) (value : α)
    (entries : Entries κ α) :
    (put key value entries).map (fun entry => (entry.1, change entry.2)) =
      put key (change value) (entries.map fun entry => (entry.1, change entry.2)) := by
  induction entries with
  | nil => rfl
  | cons first rest ih =>
      by_cases same : first.1 = key
      · simp only [put, same, beq_self_eq_true, if_true, List.map_cons]
      · simp only [put, beq_iff_eq, same, if_false, List.map_cons, ih]

theorem map_erase {β : Type} (change : α → β) (key : κ) (entries : Entries κ α) :
    (erase key entries).map (fun entry => (entry.1, change entry.2)) =
      erase key (entries.map fun entry => (entry.1, change entry.2)) := by
  induction entries with
  | nil => rfl
  | cons first rest ih =>
      by_cases same : first.1 = key
      · simp only [erase, same, beq_self_eq_true, if_true, List.map_cons]
      · simp only [erase, beq_iff_eq, same, if_false, List.map_cons, ih]

theorem lookup_filter {keep : κ → Bool} {key : κ} (kept : keep key = true)
    (entries : Entries κ α) :
    (entries.filter fun entry => keep entry.1).lookup key = entries.lookup key := by
  induction entries with
  | nil => rfl
  | cons entry rest ih =>
      obtain ⟨own, value⟩ := entry
      by_cases same : key = own
      · subst same
        simp [kept]
      · have differs : (key == own) = false := by simpa using same
        cases held : keep own <;> simp [held, List.lookup_cons, differs, ih]

theorem filter_put (keep : κ → Bool) (key : κ) (value : α) (entries : Entries κ α) :
    (put key value entries).filter (fun entry => keep entry.1) =
      if keep key then put key value (entries.filter fun entry => keep entry.1)
      else entries.filter fun entry => keep entry.1 := by
  induction entries with
  | nil => cases kept : keep key <;> simp [put, kept]
  | cons entry rest ih =>
      obtain ⟨own, old⟩ := entry
      by_cases same : own = key
      · subst same
        cases kept : keep own <;> simp [put, kept]
      · cases kept : keep key <;> cases held : keep own <;> simp [put, same, held, kept, ih]

end AccessControl.Entries
