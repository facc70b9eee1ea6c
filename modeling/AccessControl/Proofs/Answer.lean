import AccessControl.Fault
import Mathlib.Data.List.Forall2

namespace AccessControl.Answer

variable {ε ε' α β : Type}

theorem bind_eq_ok {first : Except ε α} {next : α → Except ε β} {result : β} :
    first >>= next = .ok result ↔ ∃ value, first = .ok value ∧ next value = .ok result := by
  cases first with
  | error failure =>
      constructor
      · intro done
        cases done
      · rintro ⟨value, found, -⟩
        cases found
  | ok value =>
      constructor
      · intro done
        exact ⟨value, rfl, done⟩
      · rintro ⟨same, found, done⟩
        cases found
        exact done

theorem bind_eq_error {first : Except ε α} {next : α → Except ε β} {failure : ε} :
    first >>= next = .error failure ↔
      first = .error failure ∨ ∃ value, first = .ok value ∧ next value = .error failure := by
  cases first with
  | error cause =>
      constructor
      · intro failed
        cases failed
        exact .inl rfl
      · rintro (same | ⟨_, found, -⟩)
        · cases same
          rfl
        · cases found
  | ok value =>
      constructor
      · intro failed
        exact .inr ⟨value, rfl, failed⟩
      · rintro (same | ⟨_, found, failed⟩)
        · cases same
        · cases found
          exact failed

theorem mapError_eq_ok {answer : Except ε α} {change : ε → ε'} {result : α} :
    answer.mapError change = .ok result ↔ answer = .ok result := by
  cases answer with
  | error failure =>
      constructor
      · intro done
        cases done
      · intro done
        cases done
  | ok value =>
      constructor
      · intro done
        cases done
        rfl
      · intro done
        cases done
        rfl

theorem mapError_eq_error {answer : Except ε α} {change : ε → ε'} {failure : ε'} :
    answer.mapError change = .error failure ↔
      ∃ cause, answer = .error cause ∧ change cause = failure := by
  cases answer <;> simp [Except.mapError]

def gives [DecidableEq α] (answer : Except ε α) (value : α) : Bool :=
  match answer with
  | .ok result => result = value
  | .error _ => false

theorem eq_ok_of_gives [DecidableEq α] {answer : Except ε α} {value : α}
    (given : gives answer value = true) : answer = .ok value := by
  cases answer with
  | error failure => cases given
  | ok result =>
      have same : result = value := of_decide_eq_true given
      rw [same]

theorem mapM_eq_ok {step : α → Except ε β} {items : List α} {results : List β} :
    items.mapM step = .ok results ↔
      List.Forall₂ (fun item result => step item = .ok result) items results := by
  induction items generalizing results with
  | nil =>
      rw [List.mapM_nil, List.forall₂_nil_left_iff]
      exact ⟨fun done => by cases done; rfl, fun empty => by cases empty; rfl⟩
  | cons item items ih =>
      rw [List.mapM_cons, bind_eq_ok, List.forall₂_cons_left_iff]
      constructor
      · rintro ⟨result, first, rest⟩
        obtain ⟨others, later, whole⟩ := bind_eq_ok.mp rest
        cases whole
        exact ⟨result, others, first, ih.mp later, rfl⟩
      · rintro ⟨result, others, first, later, rfl⟩
        exact ⟨result, first, bind_eq_ok.mpr ⟨others, ih.mpr later, rfl⟩⟩

theorem exists_right {R : α → β → Prop} {items : List α} {results : List β}
    (all : List.Forall₂ R items results) {item : α} (member : item ∈ items) :
    ∃ result ∈ results, R item result := by
  induction all with
  | nil => cases member
  | cons first _ ih =>
      rcases List.mem_cons.mp member with rfl | later
      · exact ⟨_, List.mem_cons_self, first⟩
      · obtain ⟨result, inside, related⟩ := ih later
        exact ⟨result, List.mem_cons_of_mem _ inside, related⟩

theorem exists_left {R : α → β → Prop} {items : List α} {results : List β}
    (all : List.Forall₂ R items results) {result : β} (member : result ∈ results) :
    ∃ item ∈ items, R item result :=
  exists_right all.flip member

theorem mem_of_mapM {step : α → Except ε β} {items : List α} {results : List β}
    (done : items.mapM step = .ok results) {result : β} (member : result ∈ results) :
    ∃ item ∈ items, step item = .ok result :=
  exists_left (mapM_eq_ok.mp done) member

theorem mapM_eq_error {step : α → Except ε β} {items : List α} {failure : ε}
    (failed : items.mapM step = .error failure) : ∃ item ∈ items, step item = .error failure := by
  induction items with
  | nil => cases failed
  | cons item items ih =>
      rw [List.mapM_cons] at failed
      rcases bind_eq_error.mp failed with first | ⟨result, -, rest⟩
      · exact ⟨item, List.mem_cons_self, first⟩
      · rcases bind_eq_error.mp rest with later | ⟨others, -, whole⟩
        · obtain ⟨other, inside, wrong⟩ := ih later
          exact ⟨other, List.mem_cons_of_mem _ inside, wrong⟩
        · cases whole

theorem map_of_mapM {γ : Type} {step : α → Except ε β} {before : α → γ} {after : β → γ}
    (same : ∀ {item result}, step item = .ok result → after result = before item)
    {items : List α} {results : List β} (done : items.mapM step = .ok results) :
    results.map after = items.map before := by
  have all := mapM_eq_ok.mp done
  clear done
  induction all with
  | nil => rfl
  | cons first _ ih => rw [List.map_cons, List.map_cons, same first, ih]

theorem eq_ok_gives {answer : Except ε Bool} (total : ∃ holds, answer = .ok holds) :
    answer = .ok (gives answer true) := by
  obtain ⟨holds, rfl⟩ := total
  cases holds <;> rfl

theorem gives_true_iff {answer : Except ε Bool} :
    gives answer true = true ↔ answer = .ok true := by
  constructor
  · exact eq_ok_of_gives
  · rintro rfl
    rfl

theorem filterAuxM_eq_ok {test : α → Except ε Bool} {keep : α → Bool}
    (tested : ∀ item, test item = .ok (keep item)) (items kept : List α) :
    items.filterAuxM test kept = .ok ((items.filter keep).reverse ++ kept) := by
  induction items generalizing kept with
  | nil => rfl
  | cons item items ih =>
      rw [List.filterAuxM, tested]
      change items.filterAuxM test (cond (keep item) (item :: kept) kept) = _
      rw [ih, List.filter_cons]
      cases keep item <;> simp

theorem filterM_eq_ok {test : α → Except ε Bool} {keep : α → Bool}
    (tested : ∀ item, test item = .ok (keep item)) (items : List α) :
    items.filterM test = .ok (items.filter keep) := by
  rw [List.filterM, filterAuxM_eq_ok tested]
  change Except.ok _ = _
  simp

theorem foldlM_keeps {step : β → α → Except ε β} {P : β → Prop}
    (keeps : ∀ {before item after}, P before → step before item = .ok after → P after)
    {items : List α} {first last : β} (holds : P first)
    (done : items.foldlM step first = .ok last) : P last := by
  induction items generalizing first with
  | nil =>
      cases done
      exact holds
  | cons item items ih =>
      rw [List.foldlM_cons] at done
      obtain ⟨next, stepped, rest⟩ := bind_eq_ok.mp done
      exact ih (keeps holds stepped) rest

theorem foldlM_collects {step : List β → α → Except ε (List β)} {brings : α → β → Prop}
    {items : List α}
    (collects : ∀ found, ∀ item ∈ items, ∃ more, step found item = .ok more ∧
      ∀ result, result ∈ more ↔ result ∈ found ∨ brings item result) (found : List β) :
    ∃ more, items.foldlM step found = .ok more ∧
      ∀ result, result ∈ more ↔ result ∈ found ∨ ∃ item ∈ items, brings item result := by
  induction items generalizing found with
  | nil => exact ⟨found, rfl, by simp⟩
  | cons item items ih =>
      obtain ⟨next, first, collected⟩ := collects found item List.mem_cons_self
      obtain ⟨more, rest, all⟩ := ih (fun found other later =>
        collects found other (List.mem_cons_of_mem _ later)) next
      refine ⟨more, ?_, fun result => ?_⟩
      · rw [List.foldlM_cons, first]
        exact rest
      · rw [all, collected, List.exists_mem_cons_iff, or_assoc]

end AccessControl.Answer
