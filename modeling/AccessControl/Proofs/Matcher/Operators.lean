import AccessControl.Matcher.Evaluation
import AccessControl.Proofs.Answer

namespace AccessControl.Matcher

/-- The fault of an operator on values that it does not take. -/
inductive Refusal : Failure → Prop
  | unequalKinds (left right : String) : Refusal (.eval (.unequalKinds left right))
  | unorderedKinds (left right : String) : Refusal (.eval (.unorderedKinds left right))
  | notSubtext (got : String) : Refusal (.eval (.notSubtext got))
  | notCollection (got : String) : Refusal (.eval (.notCollection got))
  | notBoolean (place got : String) : Refusal (.eval (.notBoolean place got))
  | unknownAttribute (field name : String) : Refusal (.eval (.unknownAttribute field name))

/-- A member that the collection cannot look up: mappings look up values that may be keys,
and sets these and other sets. -/
inductive Unhashed : (collection member : Value) → Prop
  | mapping {entries : List (String × Value)} {member : Value}
      (unhashable : member.hashable = false) : Unhashed (.mapping entries) member
  | set {items : List Value} {member : Value} (unhashable : member.hashable = false)
      (noSet : ∀ others, member ≠ .set others) : Unhashed (.set items) member

def Comparison.IsMembership (comparison : Comparison) : Prop :=
  comparison = .within ∨ comparison = .outside

variable {failure : Failure}

theorem refusal_of_requireTruth {place : String} {value : Value}
    (failed : requireTruth place value = .error failure) : Refusal failure := by
  cases value with
  | bool value => cases failed
  | _ =>
      cases failed
      exact .notBoolean _ _

theorem refusal_of_areEqual {left right : Value}
    (failed : areEqual left right = .error failure) : Refusal failure := by
  unfold areEqual at failed
  split at failed
  · cases failed
    exact .unequalKinds _ _
  · cases failed

theorem refusal_of_order {left right : Value}
    (failed : order left right = .error failure) : Refusal failure := by
  unfold order at failed
  simp only at failed
  split at failed
  · split at failed
    · cases failed
    · cases failed
      exact .unorderedKinds _ _
  · split at failed
    · cases failed
    · cases failed
  · cases failed
    exact .unorderedKinds _ _

theorem refusal_of_follow {field : String} {value : Value} {path : List String}
    (failed : follow field value path = .error failure) : Refusal failure := by
  induction path generalizing value with
  | nil => cases failed
  | cons name path ih =>
      rw [follow] at failed
      split at failed
      · exact ih failed
      · cases failed
        exact .unknownAttribute _ _

theorem contains_of_unhashed {collection member : Value}
    (unhashed : Unhashed collection member) :
    contains collection member = .error (.trap .unhashable) := by
  cases unhashed with
  | mapping unhashable => rw [contains, unhashable, if_neg Bool.false_ne_true]
  | set unhashable noSet =>
      rw [contains]
      · rw [unhashable, if_neg Bool.false_ne_true]
      · exact fun others same => noSet others same

theorem cause_of_contains {collection member : Value}
    (failed : contains collection member = .error failure) :
    Refusal failure ∨ failure = .trap .unhashable ∧ Unhashed collection member := by
  unfold contains at failed
  split at failed
  · cases failed
  · cases failed
  · split at failed
    · cases failed
    · next noSet =>
        split at failed
        · cases failed
        · next unhashable =>
            cases failed
            exact .inr ⟨rfl, .set (by simpa using unhashable) noSet⟩
  · split at failed
    · cases failed
    · next unhashable =>
        cases failed
        exact .inr ⟨rfl, .mapping (by simpa using unhashable)⟩
  · split at failed
    · cases failed
    · cases failed
      exact .inl (.notSubtext _)
  · cases failed
    exact .inl (.notCollection _)

theorem holdsFor_of_unhashed {comparison : Comparison} (test : comparison.IsMembership)
    {member collection : Value} (unhashed : Unhashed collection member) :
    holdsFor comparison member collection = .error (.trap .unhashable) := by
  rcases test with rfl | rfl
  · exact contains_of_unhashed unhashed
  · rw [holdsFor, contains_of_unhashed unhashed]
    rfl

theorem cause_of_holdsFor {comparison : Comparison} {left right : Value}
    (failed : holdsFor comparison left right = .error failure) :
    Refusal failure ∨
      failure = .trap .unhashable ∧ comparison.IsMembership ∧ Unhashed right left := by
  have contained : comparison.IsMembership → contains right left = .error failure →
      Refusal failure ∨
        failure = .trap .unhashable ∧ comparison.IsMembership ∧ Unhashed right left := by
    intro test failed
    rcases cause_of_contains failed with refusal | ⟨trapped, unhashed⟩
    · exact .inl refusal
    · exact .inr ⟨trapped, test, unhashed⟩
  cases comparison with
  | equal => exact .inl (refusal_of_areEqual failed)
  | unequal =>
      rcases Answer.bind_eq_error.mp failed with unequal | ⟨_, _, done⟩
      · exact .inl (refusal_of_areEqual unequal)
      · cases done
  | within => exact contained (.inl rfl) failed
  | outside =>
      rcases Answer.bind_eq_error.mp failed with outside | ⟨_, _, done⟩
      · exact contained (.inr rfl) outside
      · cases done
  | less | atMost | greater | atLeast =>
      rcases Answer.bind_eq_error.mp failed with unordered | ⟨_, _, done⟩
      · exact .inl (refusal_of_order unordered)
      · cases done

end AccessControl.Matcher
