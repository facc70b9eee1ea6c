import AccessControl.Proofs.Number.Neighbourhood

namespace AccessControl.Binary64

/-! The fewest digits that read back: among seventeen digits there are always
some in the rounding interval, and the ones that are chosen lie in it. -/

theorem zpow_eq_div {base : ℚ} (nonzero : base ≠ 0) (exponent : Int) :
    base ^ exponent = base ^ exponent.toNat / base ^ (-exponent).toNat := by
  have parts : exponent = (exponent.toNat : Int) - ((-exponent).toNat : Int) := by
    omega
  conv_lhs => rw [parts]
  rw [zpow_sub₀ nonzero, zpow_natCast, zpow_natCast]

theorem cast_denominator (mantissa : Nat) (exponent : Int) :
    ((neighbourhood mantissa exponent).denominator : ℚ) =
      4 * 2 ^ (-exponent).toNat := by
  simp [neighbourhood]

theorem denominator_pos (mantissa : Nat) (exponent : Int) :
    (0 : ℚ) < (neighbourhood mantissa exponent).denominator := by
  rw [cast_denominator]
  positivity

theorem cast_low {mantissa : Nat} (positive : 0 < mantissa) (exponent : Int) :
    ((neighbourhood mantissa exponent).low : ℚ) =
      lowerEnd mantissa exponent * (neighbourhood mantissa exponent).denominator := by
  have scaled : 2 * 2 ^ exponent.toNat ≤ mantissa * (4 * 2 ^ exponent.toNat) := by
    have unit : 2 ^ exponent.toNat ≤ mantissa * 2 ^ exponent.toNat :=
      Nat.le_mul_of_pos_left _ positive
    calc 2 * 2 ^ exponent.toNat
      _ ≤ 4 * (mantissa * 2 ^ exponent.toNat) := by omega
      _ = mantissa * (4 * 2 ^ exponent.toNat) := by ring
  rw [cast_denominator, lowerEnd, zpow_eq_div (by norm_num) exponent]
  simp only [neighbourhood, reach, Nat.pow_eq]
  split
  · rw [Nat.cast_sub (by omega)]
    push_cast
    field_simp
  · rw [Nat.cast_sub (by omega)]
    push_cast
    field_simp
    ring

theorem cast_high (mantissa : Nat) (exponent : Int) :
    ((neighbourhood mantissa exponent).high : ℚ) =
      upperEnd mantissa exponent * (neighbourhood mantissa exponent).denominator := by
  rw [cast_denominator, upperEnd, zpow_eq_div (by norm_num) exponent]
  simp only [neighbourhood, Nat.pow_eq]
  push_cast
  field_simp
  ring

theorem cast_middle (mantissa : Nat) (exponent : Int) :
    ((neighbourhood mantissa exponent).middle : ℚ) =
      mantissa * 2 ^ exponent * (neighbourhood mantissa exponent).denominator := by
  rw [cast_denominator, zpow_eq_div (by norm_num) exponent]
  simp only [neighbourhood, Nat.pow_eq]
  push_cast
  field_simp

private theorem le_iff_of_scaled {left right : Nat} {low high scale : ℚ}
    (positive : 0 < scale) (first : (left : ℚ) = low * scale)
    (second : (right : ℚ) = high * scale) : left ≤ right ↔ low ≤ high := by
  rw [← mul_le_mul_iff_left₀ positive, ← first, ← second, Nat.cast_le]

private theorem lt_iff_of_scaled {left right : Nat} {low high scale : ℚ}
    (positive : 0 < scale) (first : (left : ℚ) = low * scale)
    (second : (right : ℚ) = high * scale) : left < right ↔ low < high := by
  rw [← mul_lt_mul_iff_left₀ positive, ← first, ← second, Nat.cast_lt]

theorem holds_iff {mantissa : Nat} (positive : 0 < mantissa) (exponent : Int)
    (numerator : Nat) {denominator : Nat} (divisor : 0 < denominator) :
    (neighbourhood mantissa exponent).holds numerator denominator = true ↔
      Within mantissa exponent ((numerator : ℚ) / denominator) := by
  have divisorCast : (0 : ℚ) < denominator := by exact_mod_cast divisor
  have width := denominator_pos mantissa exponent
  have low := cast_low positive exponent
  have high := cast_high mantissa exponent
  have closed : (neighbourhood mantissa exponent).closed =
      decide (mantissa % 2 = 0) := rfl
  generalize neighbourhood mantissa exponent = interval at *
  have scale : (0 : ℚ) < interval.denominator * denominator := by positivity
  have lowScaled : ((interval.low * denominator : ℕ) : ℚ) =
      lowerEnd mantissa exponent * (interval.denominator * denominator) := by
    push_cast
    rw [low]
    ring
  have valueScaled : ((numerator * interval.denominator : ℕ) : ℚ) =
      numerator / denominator * (interval.denominator * denominator) := by
    push_cast
    field_simp
  have highScaled : ((interval.high * denominator : ℕ) : ℚ) =
      upperEnd mantissa exponent * (interval.denominator * denominator) := by
    push_cast
    rw [high]
    ring
  unfold Neighbourhood.holds Within
  rw [closed]
  by_cases even : mantissa % 2 = 0
  · simp only [even, decide_true, if_true, Bool.and_eq_true, decide_eq_true_eq]
    rw [le_iff_of_scaled scale lowScaled valueScaled,
      le_iff_of_scaled scale valueScaled highScaled]
  · simp only [even, decide_false, Bool.false_eq_true, if_false,
      Bool.and_eq_true, decide_eq_true_eq]
    rw [lt_iff_of_scaled scale lowScaled valueScaled,
      lt_iff_of_scaled scale valueScaled highScaled]

theorem pow_le_of_toDigits {number : Nat} (positive : 0 < number) :
    10 ^ ((Nat.toDigits 10 number).length - 1) ≤ number := by
  have lengthPos := @Nat.length_toDigits_pos 10 number
  by_cases single : (Nat.toDigits 10 number).length = 1
  · rw [single]
    simpa using Nat.succ_le_of_lt positive
  · by_contra less
    have shorter := (Nat.length_toDigits_le_iff (by omega) (by omega)).mpr
      (Nat.lt_of_not_le less)
    omega

theorem lt_pow_toDigits (number : Nat) :
    number < 10 ^ (Nat.toDigits 10 number).length :=
  (Nat.length_toDigits_le_iff (by omega) Nat.length_toDigits_pos).mp le_rfl

theorem pow_pointOf_le {mantissa : Nat} (positive : 0 < mantissa)
    (exponent : Int) :
    (10 : ℚ) ^ (pointOf (neighbourhood mantissa exponent) - 1) ≤
      mantissa * 2 ^ exponent := by
  have width := denominator_pos mantissa exponent
  have middle := cast_middle mantissa exponent
  have middlePos : (0 : ℚ) < (neighbourhood mantissa exponent).middle := by
    rw [middle]
    have unit := unit_pos exponent
    positivity
  have quotient : (mantissa : ℚ) * 2 ^ exponent =
      (neighbourhood mantissa exponent).middle /
        (neighbourhood mantissa exponent).denominator := by
    rw [middle]
    field_simp
  rw [quotient]
  generalize neighbourhood mantissa exponent = interval at *
  have widthNat : 0 < interval.denominator := by exact_mod_cast width
  have middleNat : 0 < interval.middle := by exact_mod_cast middlePos
  unfold pointOf
  simp only
  split
  case isTrue whole =>
    let digits := (Nat.toDigits 10 (interval.middle / interval.denominator)).length
    have digitsPos : 0 < digits := Nat.length_toDigits_pos
    have bound := pow_le_of_toDigits (Nat.div_pos whole widthNat)
    have scaled : 10 ^ (digits - 1) * interval.denominator ≤ interval.middle :=
      (Nat.le_div_iff_mul_le widthNat).mp bound
    have power : (10 : ℚ) ^ ((digits : Int) - 1) = (10 : ℚ) ^ (digits - 1 : ℕ) := by
      rw [← zpow_natCast]
      congr 1
      omega
    change (10 : ℚ) ^ ((digits : Int) - 1) ≤ _
    rw [power, le_div_iff₀ width]
    exact_mod_cast scaled
  case isFalse part =>
    let digits := (Nat.toDigits 10 (interval.denominator / interval.middle)).length
    have bound := lt_pow_toDigits (interval.denominator / interval.middle)
    have scaled : interval.denominator < 10 ^ digits * interval.middle :=
      (Nat.div_lt_iff_lt_mul middleNat).mp bound
    have power : (10 : ℚ) ^ (1 - (digits : Int) - 1) = 1 / (10 : ℚ) ^ digits := by
      rw [show 1 - (digits : Int) - 1 = -(digits : Int) by omega, zpow_neg,
        zpow_natCast, one_div]
    change (10 : ℚ) ^ (1 - (digits : Int) - 1) ≤ _
    rw [power, div_le_div_iff₀ (by positivity) width, one_mul, mul_comm]
    exact_mod_cast scaled.le

theorem abs_roundedQuotient_sub (numerator : Nat) {denominator : Nat}
    (divisor : 0 < denominator) :
    |(roundedQuotient numerator denominator : ℚ) - numerator / denominator| ≤
      1 / 2 := by
  have divisorCast : (0 : ℚ) < denominator := by exact_mod_cast divisor
  have parts := Nat.div_add_mod numerator denominator
  have rest := Nat.mod_lt numerator divisor
  have close : 2 * numerator ≤
        2 * (roundedQuotient numerator denominator * denominator) + denominator ∧
      2 * (roundedQuotient numerator denominator * denominator) ≤
        2 * numerator + denominator := by
    unfold roundedQuotient
    generalize numerator / denominator = quotient at *
    generalize numerator % denominator = remainder at *
    subst parts
    have even : quotient % 2 = 0 ∨ quotient % 2 = 1 := by omega
    simp only
    split
    · constructor <;> nlinarith
    · split
      · constructor <;> nlinarith
      · rcases even with even | odd
        · rw [even]
          constructor <;> nlinarith
        · rw [odd]
          constructor <;> nlinarith
  have lower : (2 : ℚ) * numerator ≤
      2 * (roundedQuotient numerator denominator * denominator) + denominator := by
    exact_mod_cast close.1
  have upper : (2 : ℚ) * (roundedQuotient numerator denominator * denominator) ≤
      2 * numerator + denominator := by
    exact_mod_cast close.2
  rw [abs_le]
  constructor
  · rw [← sub_nonneg]
    have scaled : 0 ≤ (roundedQuotient numerator denominator * denominator
        - numerator + denominator / 2 : ℚ) := by linarith
    have quotient := div_nonneg scaled divisorCast.le
    calc (0 : ℚ) ≤ _ := quotient
      _ = _ := by field_simp; ring
  · rw [← sub_nonneg]
    have scaled : 0 ≤ (numerator - roundedQuotient numerator denominator * denominator
        + denominator / 2 : ℚ) := by linarith
    have quotient := div_nonneg scaled divisorCast.le
    calc (0 : ℚ) ≤ _ := quotient
      _ = _ := by field_simp; ring

/-- The value of so many digits before a point that moves by an exponent. -/
def scaledValue (digits : Nat) (exponent : Int) : ℚ :=
  digits * 10 ^ exponent

theorem scaledValue_eq_div (digits : Nat) (exponent : Int) :
    scaledValue digits exponent =
      ((digits * 10 ^ exponent.toNat : ℕ) : ℚ) / ((10 ^ (-exponent).toNat : ℕ) : ℚ) := by
  rw [scaledValue, zpow_eq_div (by norm_num) exponent]
  push_cast
  ring

private theorem holds_of_choice {holds : Nat → Bool} {first second digits : Nat}
    (found : (if holds first then some first
      else if holds second then some second else none) = some digits) :
    holds digits = true := by
  split at found
  · next held =>
      cases found
      exact held
  · split at found
    · next held =>
        cases found
        exact held
    · cases found

theorem within_of_candidate? {mantissa : Nat} (positive : 0 < mantissa)
    {exponent point : Int} {count digits : Nat}
    (found : candidate? (neighbourhood mantissa exponent) point count = some digits) :
    Within mantissa exponent (scaledValue digits (point - count)) := by
  have held : (neighbourhood mantissa exponent).holds
      (digits * 10 ^ (point - count).toNat) (10 ^ (-(point - count)).toNat) = true := by
    rw [neg_sub, ← neg_sub (count : Int) point]
    exact @holds_of_choice (fun digits =>
      (neighbourhood mantissa exponent).holds
        (digits * Nat.pow 10 (-((count : Int) - point)).toNat)
        (Nat.pow 10 ((count : Int) - point).toNat)) _ _ _ found
  rw [scaledValue_eq_div]
  exact (holds_iff positive exponent _ (by positivity)).mp held

/-- The nearest of seventeen digits are closer than the ends. -/
theorem within_of_close {mantissa : Nat} {exponent : Int}
    (canonical : Canonical mantissa exponent) {value : ℚ}
    (positive : 0 < mantissa)
    (close : |value - mantissa * 2 ^ exponent| ≤
      mantissa * 2 ^ exponent / (2 * 10 ^ 16)) :
    Within mantissa exponent value := by
  have unit := unit_pos exponent
  have bound : (mantissa : ℚ) < 2 ^ 53 := by exact_mod_cast canonical.mantissa_lt
  have mantissaPos : (0 : ℚ) < mantissa := by exact_mod_cast positive
  obtain ⟨above, below⟩ := abs_le.mp close
  have share : (mantissa : ℚ) / (2 * 10 ^ 16) < reach mantissa exponent := by
    unfold reach
    split
    case isTrue bottom =>
      rw [bottom.1]
      norm_num
    case isFalse inside =>
      rw [div_lt_iff₀ (by positivity)]
      linarith
  have half := reach_le mantissa exponent
  have error : (mantissa : ℚ) * 2 ^ exponent / (2 * 10 ^ 16) <
      reach mantissa exponent * 2 ^ exponent := by
    calc (mantissa : ℚ) * 2 ^ exponent / (2 * 10 ^ 16)
      _ = mantissa / (2 * 10 ^ 16) * 2 ^ exponent := by ring
      _ < reach mantissa exponent * 2 ^ exponent := mul_lt_mul_of_pos_right share unit
  have errorHalf := mul_le_mul_of_nonneg_right half unit.le
  apply Within.of_strict
  · unfold lowerEnd
    linarith
  · unfold upperEnd
    linarith

theorem nearest_close (mantissa : Nat) (exponent shift : Int) :
    |scaledValue (roundedQuotient
        ((neighbourhood mantissa exponent).middle * 10 ^ shift.toNat)
        ((neighbourhood mantissa exponent).denominator * 10 ^ (-shift).toNat)) (-shift)
      - mantissa * 2 ^ exponent| ≤ 1 / 2 * 10 ^ (-shift) := by
  have width := denominator_pos mantissa exponent
  have middle := cast_middle mantissa exponent
  generalize neighbourhood mantissa exponent = interval at *
  have widthNat : 0 < interval.denominator := by exact_mod_cast width
  have power : (0 : ℚ) < 10 ^ (-shift) := zpow_pos (by norm_num) _
  have rounded := @abs_roundedQuotient_sub (interval.middle * 10 ^ shift.toNat)
    (interval.denominator * 10 ^ (-shift).toNat) (by positivity)
  have exact : ((interval.middle * 10 ^ shift.toNat : ℕ) : ℚ) /
      ((interval.denominator * 10 ^ (-shift).toNat : ℕ) : ℚ) * 10 ^ (-shift) =
        mantissa * 2 ^ exponent := by
    rw [zpow_eq_div (by norm_num) (-shift), neg_neg]
    push_cast
    rw [middle]
    field_simp
  have scaled := mul_le_mul_of_nonneg_right rounded power.le
  rw [← abs_of_pos power, ← abs_mul, abs_of_pos power, sub_mul, exact] at scaled
  exact scaled

theorem candidate?_seventeen {mantissa : Nat} (positive : 0 < mantissa)
    {exponent : Int} (canonical : Canonical mantissa exponent) :
    ∃ digits, candidate? (neighbourhood mantissa exponent)
      (pointOf (neighbourhood mantissa exponent)) 17 = some digits := by
  have least := pow_pointOf_le positive exponent
  generalize pointOf (neighbourhood mantissa exponent) = point at *
  have close := nearest_close mantissa exponent (17 - point)
  have power : (10 : ℚ) ^ (-(17 - point)) = 10 ^ (point - 1) / 10 ^ 16 := by
    rw [show -(17 - point) = point - 1 - (16 : ℕ) by omega,
      zpow_sub₀ (by norm_num), zpow_natCast]
  have error : 1 / 2 * (10 : ℚ) ^ (-(17 - point)) ≤
      mantissa * 2 ^ exponent / (2 * 10 ^ 16) := by
    rw [power]
    calc (1 / 2 : ℚ) * (10 ^ (point - 1) / 10 ^ 16)
      _ = 10 ^ (point - 1) / (2 * 10 ^ 16) := by ring
      _ ≤ mantissa * 2 ^ exponent / (2 * 10 ^ 16) := by gcongr
  have within := within_of_close canonical positive (close.trans error)
  rw [scaledValue_eq_div, neg_neg] at within
  have held := (holds_iff positive exponent _ (by positivity)).mpr within
  refine ⟨roundedQuotient
    ((neighbourhood mantissa exponent).middle * 10 ^ (17 - point).toNat)
    ((neighbourhood mantissa exponent).denominator * 10 ^ (-(17 - point)).toNat), ?_⟩
  unfold candidate?
  simp only [Nat.pow_eq, Nat.cast_ofNat]
  rw [if_pos held]

theorem candidate?_shortestFrom (interval : Neighbourhood) (point : Int) :
    ∀ rest count, (∃ digits, candidate? interval point (count + rest) = some digits) →
      candidate? interval point (shortestFrom interval point count rest).1 =
        some (shortestFrom interval point count rest).2 := by
  intro rest
  induction rest with
  | zero =>
      intro count ⟨digits, found⟩
      simp only [Nat.add_zero] at found
      simp [shortestFrom, found]
  | succ rest ih =>
      intro count last
      unfold shortestFrom
      cases found : candidate? interval point count with
      | some digits => exact found
      | none =>
          apply ih
          rwa [Nat.add_right_comm]

def Decimal.value (decimal : Decimal) : ℚ :=
  scaledValue (Nat.ofDigitChars 10 decimal.digits 0)
    (decimal.point - decimal.digits.length)

theorem exists_trailingZeros (digits : List Char) :
    ∃ count, digits = withoutTrailingZeros digits ++ List.replicate count '0' := by
  refine ⟨(digits.reverse.takeWhile (· == '0')).length, ?_⟩
  have zeros : digits.reverse.takeWhile (· == '0') =
      List.replicate (digits.reverse.takeWhile (· == '0')).length '0' := by
    rw [List.eq_replicate_iff]
    refine ⟨rfl, fun digit member => ?_⟩
    have all := List.all_takeWhile (p := (· == '0')) (l := digits.reverse)
    simpa using List.all_eq_true.mp all digit member
  have parts := congrArg List.reverse
    (List.takeWhile_append_dropWhile (p := (· == '0')) (l := digits.reverse))
  rw [List.reverse_append, List.reverse_reverse] at parts
  rw [withoutTrailingZeros, ← List.reverse_replicate, ← zeros, parts]

theorem ofDigitChars_append_zeros (digits : List Char) (count : Nat) :
    Nat.ofDigitChars 10 (digits ++ List.replicate count '0') 0 =
      Nat.ofDigitChars 10 digits 0 * 10 ^ count := by
  rw [Nat.ofDigitChars_append, Nat.ofDigitChars_replicate_zero, mul_comm]

theorem scaledValue_mul_pow (digits count : Nat) (exponent : Int) :
    scaledValue (digits * 10 ^ count) exponent =
      scaledValue digits (exponent + count) := by
  rw [scaledValue, scaledValue, zpow_add₀ (by norm_num), zpow_natCast]
  push_cast
  ring

/-- The shortest decimal rounds to the number it is made from. -/
theorem shortest_within {mantissa : Nat} (positive : 0 < mantissa)
    {exponent : Int} (canonical : Canonical mantissa exponent) :
    Within mantissa exponent (shortest mantissa exponent).value := by
  have found := candidate?_shortestFrom (neighbourhood mantissa exponent)
    (pointOf (neighbourhood mantissa exponent)) 16 1
    (candidate?_seventeen positive canonical)
  have within := within_of_candidate? positive found
  unfold shortest
  rw [if_neg positive.ne']
  simp only
  generalize pointOf (neighbourhood mantissa exponent) = point at *
  generalize shortestFrom (neighbourhood mantissa exponent) point 1 16 = chosen at *
  obtain ⟨count, digits⟩ := chosen
  obtain ⟨zeros, split⟩ := exists_trailingZeros (Nat.toDigits 10 digits)
  have value : digits =
      Nat.ofDigitChars 10 (withoutTrailingZeros (Nat.toDigits 10 digits)) 0
        * 10 ^ zeros := by
    rw [← ofDigitChars_append_zeros, ← split, Nat.ofDigitChars_ten_toDigits]
  have length : (Nat.toDigits 10 digits).length =
      (withoutTrailingZeros (Nat.toDigits 10 digits)).length + zeros := by
    conv_lhs => rw [split]
    simp
  simp only at within
  rw [value, scaledValue_mul_pow] at within
  unfold Decimal.value
  convert within using 2
  simp only
  omega

theorem shortest_zero (exponent : Int) : (shortest 0 exponent).value = 0 := by
  simp [shortest, Decimal.value, scaledValue, Nat.ofDigitChars]

end AccessControl.Binary64
