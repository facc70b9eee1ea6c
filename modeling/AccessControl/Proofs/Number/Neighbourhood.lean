import AccessControl.Number.Decimal
import Mathlib.Algebra.Order.Field.Power
import Mathlib.Tactic.FieldSimp
import Mathlib.Tactic.Linarith
import Mathlib.Tactic.Positivity
import Mathlib.Tactic.Ring

namespace AccessControl.Binary64

/-! Rounding intervals. The numbers that round to one double do not round to
another, so that a member of the interval tells the double. -/

/-- A mantissa and an exponent in the only form in which they are read. -/
structure Canonical (mantissa : Nat) (exponent : Int) : Prop where
  mantissa_lt : mantissa < 2 ^ 53
  exponent_ge : -1074 ≤ exponent
  normal : exponent = -1074 ∨ 2 ^ 52 ≤ mantissa

theorem toNat_bits (number : Binary64) :
    number.bits.toNat = (if number.negative then 2 ^ 63 else 0)
      + number.exponentField * 2 ^ 52 + number.fractionField := by
  have bound := number.bits.toNat_lt
  simp only [negative, exponentField, fractionField, Nat.pow_eq,
    decide_eq_true_eq]
  split <;> omega

theorem exponentField_lt (number : Binary64) : number.exponentField < 2048 := by
  simp only [exponentField, Nat.pow_eq]
  omega

theorem fractionField_lt (number : Binary64) :
    number.fractionField < 2 ^ 52 := by
  simp only [fractionField, Nat.pow_eq]
  omega

theorem eq_of_fields {left right : Binary64}
    (signs : left.negative = right.negative)
    (exponents : left.exponentField = right.exponentField)
    (fractions : left.fractionField = right.fractionField) : left = right := by
  have bits : left.bits.toNat = right.bits.toNat := by
    rw [toNat_bits, toNat_bits, signs, exponents, fractions]
  cases left
  cases right
  exact congrArg Binary64.mk (UInt64.toNat_inj.mp bits)

theorem fields_of_finite {number : Binary64} {negative : Bool} {mantissa : Nat}
    {exponent : Int} (read : number.reading = .finite negative mantissa exponent) :
    number.negative = negative ∧
      ((number.exponentField = 0 ∧ mantissa = number.fractionField ∧
          exponent = -1074) ∨
        (number.exponentField ≠ 0 ∧ number.exponentField ≠ 2047 ∧
          mantissa = number.fractionField + 2 ^ 52 ∧
          exponent = number.exponentField - 1075)) := by
  unfold reading at read
  split at read
  · split at read <;> cases read
  · split at read
    · next special zero =>
        cases read
        exact ⟨rfl, .inl ⟨zero, rfl, rfl⟩⟩
    · next special nonzero =>
        cases read
        exact ⟨rfl, .inr ⟨nonzero, special, rfl, rfl⟩⟩

theorem canonical_of_finite {number : Binary64} {negative : Bool} {mantissa : Nat}
    {exponent : Int} (read : number.reading = .finite negative mantissa exponent) :
    Canonical mantissa exponent := by
  have exponentBound := exponentField_lt number
  have fractionBound := fractionField_lt number
  obtain ⟨-, ⟨-, rfl, rfl⟩ | ⟨nonzero, -, rfl, rfl⟩⟩ := fields_of_finite read
  · exact ⟨by omega, by omega, .inl rfl⟩
  · exact ⟨by omega, by omega, .inr (by omega)⟩

theorem eq_of_finite {left right : Binary64} {negative : Bool} {mantissa : Nat}
    {exponent : Int} (first : left.reading = .finite negative mantissa exponent)
    (second : right.reading = .finite negative mantissa exponent) :
    left = right := by
  have leftBound := fractionField_lt left
  have rightBound := fractionField_lt right
  obtain ⟨leftSign, leftFields⟩ := fields_of_finite first
  obtain ⟨rightSign, rightFields⟩ := fields_of_finite second
  apply eq_of_fields (leftSign.trans rightSign.symm)
  · omega
  · omega

theorem eq_of_infinite {left right : Binary64} {negative : Bool}
    (first : left.reading = .infinite negative)
    (second : right.reading = .infinite negative) : left = right := by
  have fields : ∀ {number : Binary64}, number.reading = .infinite negative →
      number.negative = negative ∧ number.exponentField = 2047 ∧
        number.fractionField = 0 := by
    intro number read
    unfold reading at read
    split at read
    · split at read
      · next special zero =>
          cases read
          exact ⟨rfl, special, zero⟩
      · cases read
    · split at read <;> cases read
  obtain ⟨leftSign, leftExponent, leftFraction⟩ := fields first
  obtain ⟨rightSign, rightExponent, rightFraction⟩ := fields second
  exact eq_of_fields (leftSign.trans rightSign.symm)
    (leftExponent.trans rightExponent.symm)
    (leftFraction.trans rightFraction.symm)

/-- How far the interval reaches below the number, in units of its last place. -/
def reach (mantissa : Nat) (exponent : Int) : ℚ :=
  if mantissa = 2 ^ 52 ∧ -1074 < exponent then 1 / 4 else 1 / 2

def lowerEnd (mantissa : Nat) (exponent : Int) : ℚ :=
  (mantissa - reach mantissa exponent) * 2 ^ exponent

def upperEnd (mantissa : Nat) (exponent : Int) : ℚ :=
  (mantissa + 1 / 2) * 2 ^ exponent

/-- Whether a rational number rounds to the number of a mantissa and an
exponent. -/
def Within (mantissa : Nat) (exponent : Int) (value : ℚ) : Prop :=
  if mantissa % 2 = 0 then
    lowerEnd mantissa exponent ≤ value ∧ value ≤ upperEnd mantissa exponent
  else lowerEnd mantissa exponent < value ∧ value < upperEnd mantissa exponent

theorem Within.of_strict {mantissa : Nat} {exponent : Int} {value : ℚ}
    (above : lowerEnd mantissa exponent < value)
    (below : value < upperEnd mantissa exponent) :
    Within mantissa exponent value := by
  unfold Within
  split
  · exact ⟨above.le, below.le⟩
  · exact ⟨above, below⟩

theorem Within.lower {mantissa : Nat} {exponent : Int} {value : ℚ}
    (within : Within mantissa exponent value) :
    lowerEnd mantissa exponent ≤ value := by
  unfold Within at within
  split at within
  · exact within.1
  · exact within.1.le

theorem Within.upper {mantissa : Nat} {exponent : Int} {value : ℚ}
    (within : Within mantissa exponent value) :
    value ≤ upperEnd mantissa exponent := by
  unfold Within at within
  split at within
  · exact within.2
  · exact within.2.le

/-- An odd mantissa keeps the ends of its interval out. -/
theorem Within.strict_of_odd {mantissa : Nat} {exponent : Int} {value : ℚ}
    (within : Within mantissa exponent value) (odd : mantissa % 2 = 1) :
    lowerEnd mantissa exponent < value ∧ value < upperEnd mantissa exponent := by
  unfold Within at within
  rwa [if_neg (by omega)] at within

theorem reach_le (mantissa : Nat) (exponent : Int) :
    reach mantissa exponent ≤ 1 / 2 := by
  unfold reach
  split <;> norm_num

theorem unit_pos (exponent : Int) : (0 : ℚ) < 2 ^ exponent :=
  zpow_pos (by norm_num) exponent

/-- Neighbours with the same exponent share no member: the end that they have in
common belongs to the one with the even mantissa. -/
theorem Within.not_of_mantissa_lt {mantissa other : Nat} {exponent : Int}
    {value : ℚ} (less : mantissa < other)
    (within : Within mantissa exponent value) :
    ¬ Within other exponent value := by
  intro withinOther
  have unit := unit_pos exponent
  have step : (mantissa : ℚ) + 1 ≤ other := by exact_mod_cast less
  have short := reach_le other exponent
  have ends : upperEnd mantissa exponent ≤ lowerEnd other exponent := by
    unfold upperEnd lowerEnd
    exact mul_le_mul_of_nonneg_right (by linarith) unit.le
  by_cases odd : mantissa % 2 = 1
  · linarith [(within.strict_of_odd odd).2, withinOther.lower]
  by_cases otherOdd : other % 2 = 1
  · linarith [within.upper, (withinOther.strict_of_odd otherOdd).1]
  · have gap : (mantissa : ℚ) + 2 ≤ other := by
      exact_mod_cast (by omega : mantissa + 2 ≤ other)
    have apart : upperEnd mantissa exponent < lowerEnd other exponent := by
      unfold upperEnd lowerEnd
      exact mul_lt_mul_of_pos_right (by linarith) unit
    linarith [within.upper, withinOther.lower]

theorem Within.not_of_exponent_lt {mantissa other : Nat} {exponent higher : Int}
    {value : ℚ} (canonical : Canonical mantissa exponent)
    (canonicalOther : Canonical other higher) (less : exponent < higher)
    (within : Within mantissa exponent value) : ¬ Within other higher value := by
  intro withinOther
  have unit := unit_pos exponent
  have lowest := canonical.exponent_ge
  have normal : 2 ^ 52 ≤ other := by
    rcases canonicalOther.normal with subnormal | normal
    · omega
    · exact normal
  have least : (2 : ℚ) ^ 52 - 1 / 4 ≤ other - reach other higher := by
    unfold reach
    split
    case isTrue bottom =>
      rw [bottom.1]
      norm_num
    case isFalse inside =>
      have step : 2 ^ 52 + 1 ≤ other := by omega
      have stepCast : (2 : ℚ) ^ 52 + 1 ≤ other := by exact_mod_cast step
      linarith
  have scale : 2 * (2 : ℚ) ^ exponent ≤ 2 ^ higher := by
    rw [← zpow_one_add₀ (by norm_num : (2 : ℚ) ≠ 0)]
    exact zpow_le_zpow_right₀ (by norm_num) (by omega)
  have floor : ((2 : ℚ) ^ 53 - 1 / 2) * 2 ^ exponent ≤ lowerEnd other higher := by
    have scaled := mul_le_mul_of_nonneg_right least (unit_pos higher).le
    have raised := mul_le_mul_of_nonneg_left scale
      (by norm_num : (0 : ℚ) ≤ 2 ^ 52 - 1 / 4)
    unfold lowerEnd
    linarith
  by_cases last : mantissa = 2 ^ 53 - 1
  · -- the last mantissa is odd, so the common end belongs to the other number
    have strict := (within.strict_of_odd (by omega)).2
    unfold upperEnd at strict
    rw [last] at strict
    push_cast at strict
    linarith [withinOther.lower]
  · have bound := canonical.mantissa_lt
    have small : (mantissa : ℚ) + 2 ≤ 2 ^ 53 := by
      exact_mod_cast (by omega : mantissa + 2 ≤ 2 ^ 53)
    have ceiling : upperEnd mantissa exponent < (2 ^ 53 - 1 / 2) * 2 ^ exponent := by
      unfold upperEnd
      exact mul_lt_mul_of_pos_right (by linarith) unit
    linarith [within.upper, withinOther.lower]

/-- Only one number has a value in its interval. -/
theorem Within.unique {mantissa other : Nat} {exponent further : Int} {value : ℚ}
    (canonical : Canonical mantissa exponent)
    (canonicalOther : Canonical other further)
    (within : Within mantissa exponent value)
    (withinOther : Within other further value) :
    mantissa = other ∧ exponent = further := by
  rcases lt_trichotomy exponent further with less | rfl | greater
  · exact absurd withinOther
      (within.not_of_exponent_lt canonical canonicalOther less)
  · rcases lt_trichotomy mantissa other with less | same | greater
    · exact absurd withinOther (within.not_of_mantissa_lt less)
    · exact ⟨same, rfl⟩
    · exact absurd within (withinOther.not_of_mantissa_lt greater)
  · exact absurd within
      (withinOther.not_of_exponent_lt canonicalOther canonical greater)

end AccessControl.Binary64
