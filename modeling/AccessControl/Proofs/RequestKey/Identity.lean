import AccessControl.Proofs.RequestKey

namespace AccessControl

namespace RequestKey

theorem part?_eq_none {value : Value} :
    part? value = none ↔
      value.isScalar = false ∨ ∃ number, value = .int number ∧ isWritable number = false := by
  cases value <;> simp [part?, Value.isScalar]

theorem parts?_eq_none {values : List Value} :
    parts? values = none ↔ ∃ value ∈ values, part? value = none := by
  induction values with
  | nil => simp [parts?]
  | cons value values ih =>
      rw [List.exists_mem_cons_iff, ← ih, parts?]
      cases part? value <;> cases parts? values <;> simp

theorem requestKey_eq_ok_none {context : String} {values : List Value} :
    requestKey context values = .ok none ↔ ∃ value ∈ values, value.isScalar = false := by
  unfold requestKey
  split
  · next scalars =>
      have noOther : ¬ ∃ value ∈ values, value.isScalar = false := by simpa using scalars
      split <;> simp [noOther]
  · next other => simpa using other

theorem requestKey_eq_error {context : String} {values : List Value} {fault : Fault} :
    requestKey context values = .error fault ↔
      (∀ value ∈ values, value.isScalar = true) ∧
        ∃ number, .int number ∈ values ∧ isWritable number = false := by
  unfold requestKey
  split
  · next scalars =>
      rw [List.all_eq_true] at scalars
      have unwritten : parts? values = none ↔
          ∃ number, .int number ∈ values ∧ isWritable number = false := by
        rw [parts?_eq_none]
        constructor
        · rintro ⟨value, member, noPart⟩
          rcases part?_eq_none.mp noPart with other | ⟨number, rfl, long⟩
          · rw [scalars value member] at other
            cases other
          · exact ⟨number, member, long⟩
        · rintro ⟨number, member, long⟩
          exact ⟨_, member, part?_eq_none.mpr (.inr ⟨number, rfl, long⟩)⟩
      cases fault
      rw [← unwritten, and_iff_right scalars]
      split <;> simp_all
  · next other =>
      rw [List.all_eq_true] at other
      simp [other]

theorem double_of_isUndefined {number : Binary64} (undefined : number.isUndefined = true) :
    double number = "NaN".toList := by
  unfold Binary64.isUndefined at undefined
  split at undefined
  · next read => exact double_undefined read
  · cases undefined

theorem Alike.part?_eq {left right : Value} (alike : Alike left right) :
    part? left = part? right := by
  cases alike with
  | same => rfl
  | undefined first second =>
      rw [part?, part?, double_of_isUndefined first, double_of_isUndefined second]

theorem parts?_congr {left right : List Value} (alike : List.Forall₂ Alike left right) :
    parts? left = parts? right := by
  induction alike with
  | nil => rfl
  | cons head _ ih => rw [parts?, parts?, head.part?_eq, ih]

theorem isScalar_of_alike {left right : List Value} (alike : List.Forall₂ Alike left right) :
    left.all Value.isScalar = right.all Value.isScalar := by
  induction alike with
  | nil => rfl
  | cons head _ ih =>
      rw [List.all_cons, List.all_cons, ih]
      cases head <;> rfl

theorem requestKey_congr (context : String) {left right : List Value}
    (alike : List.Forall₂ Alike left right) :
    requestKey context left = requestKey context right := by
  rw [requestKey, requestKey, isScalar_of_alike alike, parts?_congr alike]

theorem requestKey?_of_requestKey {context : String} {values : List Value} {key? : Option String}
    (spelled : requestKey context values = .ok key?) : requestKey? context values = key? := by
  rw [requestKey?, spelled]
  rfl

/-- A request has no key exactly if one of its values is not a scalar, and cannot be written
exactly if all are scalars and a number among them has too many digits. Two requests that
have keys have the same one exactly if their contexts are the same and their values are
the same one by one, undefined numbers counting as one. -/
theorem requestKey_identifies (context other : String) (left right : List Value) :
    (requestKey context left = .ok none ↔ ∃ value ∈ left, value.isScalar = false) ∧
    (requestKey context left = .error .unwritable ↔
      (∀ value ∈ left, value.isScalar = true) ∧
        ∃ number, .int number ∈ left ∧ isWritable number = false) ∧
    ∀ key otherKey, requestKey context left = .ok (some key) →
      requestKey other right = .ok (some otherKey) →
      (key = otherKey ↔ context = other ∧ List.Forall₂ Alike left right) := by
  refine ⟨requestKey_eq_ok_none, requestKey_eq_error, fun key otherKey first second => ?_⟩
  constructor
  · rintro rfl
    exact of_requestKey?_eq (requestKey?_of_requestKey first) (requestKey?_of_requestKey second)
  · rintro ⟨rfl, alike⟩
    rw [requestKey_congr context alike, second] at first
    cases first
    rfl

/-- All undefined numbers are one value of a request, but the two zeros are two. The first
number that is too long is not written. -/
theorem requestKey_identifies_numbers :
    requestKey "r|p|e|m" [.float (.undefined 0)] =
      requestKey "r|p|e|m" [.float (.undefined 1)] ∧
    requestKey "r|p|e|m" [.float (.zero false)] ≠
      requestKey "r|p|e|m" [.float (.zero true)] ∧
    requestKey "r|p|e|m" [.int (Nat.pow 10 decimalLimit : Nat)] = .error .unwritable := by
  have keyed : ∀ number, ∃ key, requestKey "r|p|e|m" [.float number] = .ok (some key) := by
    intro number
    obtain ⟨noKey, unwritable, -⟩ :=
      requestKey_identifies "r|p|e|m" "r|p|e|m" [.float number] []
    cases made : requestKey "r|p|e|m" [.float number] with
    | error fault =>
        cases fault
        simp [unwritable] at made
    | ok key? =>
        cases key? with
        | none => simp [noKey, Value.isScalar] at made
        | some key => exact ⟨key, rfl⟩
  have shared : ∀ number another : Binary64,
      requestKey "r|p|e|m" [.float number] = requestKey "r|p|e|m" [.float another] ↔
        List.Forall₂ Alike [.float number] [.float another] := by
    intro number another
    obtain ⟨key, first⟩ := keyed number
    obtain ⟨otherKey, second⟩ := keyed another
    rw [first, second, Except.ok.injEq, Option.some.injEq,
      (requestKey_identifies _ _ _ _).2.2 key otherKey first second]
    exact and_iff_right rfl
  refine ⟨?_, ?_, ?_⟩
  · rw [shared]
    exact .cons (.undefined (by decide +kernel) (by decide +kernel)) .nil
  · rw [ne_eq, shared]
    rintro (_ | ⟨alike, -⟩)
    have same := Value.float.inj (alike.eq (by decide +kernel))
    exact absurd same (by decide +kernel)
  · rw [(requestKey_identifies _ "r|p|e|m" _ []).2.1]
    refine ⟨List.forall_mem_singleton.2 rfl, _, List.mem_singleton_self _, ?_⟩
    simp only [isWritable, Int.natAbs_natCast, Nat.pow_eq, Nat.lt_irrefl, decide_false]

end RequestKey

end AccessControl
