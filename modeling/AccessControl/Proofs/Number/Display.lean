import AccessControl.Proofs.Number.Shortest

namespace AccessControl.Binary64

def readPositional (text : List Char) : ℚ :=
  let whole := text.takeWhile (· != '.')
  let fraction := (text.dropWhile (· != '.')).tail
  scaledValue (Nat.ofDigitChars 10 (whole ++ fraction) 0) (-fraction.length)

def readExponent : List Char → Int
  | '-' :: digits => -(Nat.ofDigitChars 10 digits 0 : Int)
  | '+' :: digits => Nat.ofDigitChars 10 digits 0
  | _ => 0

def readDecimal (text : List Char) : ℚ :=
  readPositional (text.takeWhile (· != 'e'))
    * 10 ^ readExponent (text.dropWhile (· != 'e')).tail

def Digits (text : List Char) : Prop :=
  ∀ digit ∈ text, digit.isDigit = true

theorem Digits.ne {text : List Char} (digits : Digits text) (mark : Char)
    (noDigit : mark.isDigit = false) : ∀ digit ∈ text, (digit != mark) = true := by
  intro digit member
  rw [bne_iff_ne]
  rintro rfl
  rw [digits digit member] at noDigit
  cases noDigit

theorem Digits.append {left right : List Char} (first : Digits left)
    (second : Digits right) : Digits (left ++ right) := by
  intro digit member
  rcases List.mem_append.mp member with inFirst | inSecond
  · exact first digit inFirst
  · exact second digit inSecond

theorem Digits.take {text : List Char} (digits : Digits text) (count : Nat) :
    Digits (text.take count) :=
  fun digit member => digits digit (List.mem_of_mem_take member)

theorem Digits.drop {text : List Char} (digits : Digits text) (count : Nat) :
    Digits (text.drop count) :=
  fun digit member => digits digit (List.mem_of_mem_drop member)

theorem digits_replicate_zero (count : Nat) : Digits (List.replicate count '0') := by
  intro digit member
  rw [List.eq_of_mem_replicate member]
  rfl

theorem digits_toDigits (number : Nat) : Digits (Nat.toDigits 10 number) :=
  fun _ member => Nat.isDigit_of_mem_toDigits (by omega) (by omega) member

theorem readPositional_digits {whole : List Char} (digits : Digits whole) :
    readPositional whole = scaledValue (Nat.ofDigitChars 10 whole 0) 0 := by
  have plain := digits.ne '.' rfl
  have all := @List.takeWhile_append_of_pos _ _ whole [] plain
  have dropped := @List.dropWhile_append_of_pos _ _ whole [] plain
  simp only [List.append_nil, List.takeWhile_nil, List.dropWhile_nil] at all dropped
  simp [readPositional, all, dropped]

theorem readPositional_point {whole : List Char} (digits : Digits whole)
    (fraction : List Char) :
    readPositional (whole ++ '.' :: fraction) =
      scaledValue (Nat.ofDigitChars 10 (whole ++ fraction) 0) (-fraction.length) := by
  have plain := digits.ne '.' rfl
  simp [readPositional, List.takeWhile_append_of_pos plain,
    List.dropWhile_append_of_pos plain]

theorem readDecimal_scientific {mantissa : List Char}
    (plain : ∀ character ∈ mantissa, (character != 'e') = true)
    (exponent : List Char) :
    readDecimal (mantissa ++ 'e' :: exponent) =
      readPositional mantissa * 10 ^ readExponent exponent := by
  simp [readDecimal, List.takeWhile_append_of_pos plain,
    List.dropWhile_append_of_pos plain]

theorem readDecimal_positional {text : List Char}
    (plain : ∀ character ∈ text, (character != 'e') = true) :
    readDecimal text = readPositional text := by
  have all := @List.takeWhile_append_of_pos _ _ text [] plain
  have dropped := @List.dropWhile_append_of_pos _ _ text [] plain
  simp only [List.append_nil, List.takeWhile_nil, List.dropWhile_nil] at all dropped
  simp [readDecimal, all, dropped, readExponent]

theorem ofDigitChars_padded (width : Nat) (digits : List Char) :
    Nat.ofDigitChars 10 (padded width digits) 0 = Nat.ofDigitChars 10 digits 0 := by
  rw [padded, Nat.ofDigitChars_append, Nat.ofDigitChars_replicate_zero, mul_zero]

theorem readExponent_written (exponent : Int) :
    readExponent ((if exponent < 0 then '-' else '+')
      :: padded 2 (Nat.toDigits 10 exponent.natAbs)) = exponent := by
  split
  · simp only [readExponent, ofDigitChars_padded, Nat.ofDigitChars_ten_toDigits]
    omega
  · simp only [readExponent, ofDigitChars_padded, Nat.ofDigitChars_ten_toDigits]
    omega

theorem scaledValue_mul_zpow (digits : Nat) (exponent further : Int) :
    scaledValue digits exponent * 10 ^ further =
      scaledValue digits (exponent + further) := by
  rw [scaledValue, scaledValue, zpow_add₀ (by norm_num), mul_assoc]

/-- Digits as they stand in front of an exponent, the first before a point. -/
def pointed : List Char → List Char
  | [] => []
  | [only] => [only]
  | first :: rest => first :: '.' :: rest

theorem pointed_mem {digits : List Char} {character : Char}
    (member : character ∈ pointed digits) : character ∈ digits ∨ character = '.' := by
  unfold pointed at member
  split at member
  · exact .inl member
  · exact .inl member
  · simp only [List.mem_cons] at member ⊢
    tauto

theorem readPositional_pointed {digits : List Char} (all : Digits digits) :
    readPositional (pointed digits) =
      scaledValue (Nat.ofDigitChars 10 digits 0) (1 - digits.length) := by
  unfold pointed
  split
  · simp [readPositional, scaledValue]
  · rw [readPositional_digits all]
    simp
  · next first rest _ =>
      have read := @readPositional_point [first]
        (fun digit member => all digit (by simp_all)) rest
      rw [List.singleton_append] at read
      rw [read, List.singleton_append]
      congr 1
      simp

theorem write_scientific (decimal : Decimal)
    (far : 16 < decimal.point ∨ decimal.point < -3) :
    decimal.write = pointed decimal.digits ++ 'e' ::
      (if decimal.point - 1 < 0 then '-' else '+')
        :: padded 2 (Nat.toDigits 10 (decimal.point - 1).natAbs) := by
  unfold Decimal.write
  simp only
  rw [if_pos far]
  cases decimal.digits with
  | nil => rfl
  | cons first rest => cases rest <;> simp [pointed]

theorem write_positional (decimal : Decimal)
    (near : ¬ (16 < decimal.point ∨ decimal.point < -3)) (digits : Digits decimal.digits) :
    ∃ whole fraction, Digits whole ∧ Digits fraction ∧ whole ≠ [] ∧
      decimal.write = whole ++ '.' :: fraction ∧
      scaledValue (Nat.ofDigitChars 10 (whole ++ fraction) 0) (-fraction.length) =
        decimal.value := by
  unfold Decimal.write Decimal.value
  simp only
  rw [if_neg near]
  split
  case isTrue small =>
    refine ⟨['0'], List.replicate (-decimal.point).toNat '0' ++ decimal.digits,
      digits_replicate_zero 1, (digits_replicate_zero _).append digits, by simp,
      by simp, ?_⟩
    have zeros : ['0'] ++ (List.replicate (-decimal.point).toNat '0' ++ decimal.digits)
        = List.replicate ((-decimal.point).toNat + 1) '0' ++ decimal.digits := by
      simp [List.replicate_succ]
    rw [zeros, Nat.ofDigitChars_append, Nat.ofDigitChars_replicate_zero, mul_zero]
    congr 1
    simp only [List.length_append, List.length_replicate]
    omega
  case isFalse large =>
    refine ⟨decimal.digits.take decimal.point.toNat
        ++ List.replicate (decimal.point.toNat - decimal.digits.length) '0',
      if (decimal.digits.drop decimal.point.toNat).isEmpty then ['0']
        else decimal.digits.drop decimal.point.toNat,
      (digits.take _).append (digits_replicate_zero _), ?_, ?_, by simp, ?_⟩
    · split
      · exact digits_replicate_zero 1
      · exact digits.drop _
    · intro empty
      have length := congrArg List.length empty
      simp only [List.length_append, List.length_take, List.length_replicate,
        List.length_nil] at length
      omega
    · by_cases short : decimal.digits.length ≤ decimal.point.toNat
      · have all := List.take_of_length_le short
        have dropped := List.drop_of_length_le short
        have zeros : decimal.digits
            ++ List.replicate (decimal.point.toNat - decimal.digits.length) '0' ++ ['0']
              = decimal.digits ++ List.replicate
                (decimal.point.toNat - decimal.digits.length + 1) '0' := by
          rw [List.append_assoc, List.replicate_succ']
        rw [all, dropped, List.isEmpty_nil, if_pos rfl, zeros, ofDigitChars_append_zeros,
          scaledValue_mul_pow]
        congr 1
        simp only [List.length_singleton]
        omega
      · have noZeros : decimal.point.toNat - decimal.digits.length = 0 := by omega
        have fraction : (decimal.digits.drop decimal.point.toNat).isEmpty = false := by
          rw [List.isEmpty_eq_false_iff, ne_eq, List.drop_eq_nil_iff]
          omega
        rw [noZeros, fraction, List.replicate_zero, List.append_nil]
        simp only [Bool.false_eq_true, if_false, List.take_append_drop,
          List.length_drop]
        congr 1
        omega

theorem readDecimal_write {decimal : Decimal} (digits : Digits decimal.digits) :
    readDecimal decimal.write = decimal.value := by
  by_cases far : 16 < decimal.point ∨ decimal.point < -3
  · have plain : ∀ character ∈ pointed decimal.digits, (character != 'e') = true := by
      intro character member
      rcases pointed_mem member with digit | rfl
      · exact digits.ne 'e' rfl character digit
      · rfl
    rw [write_scientific decimal far, readDecimal_scientific plain,
      readPositional_pointed digits, readExponent_written, scaledValue_mul_zpow,
      Decimal.value]
    congr 1
    omega
  · obtain ⟨whole, fraction, wholeDigits, fractionDigits, -, written, value⟩ :=
      write_positional decimal far digits
    have plain : ∀ character ∈ whole ++ '.' :: fraction,
        (character != 'e') = true := by
      intro character member
      rcases List.mem_append.mp member with digit | rest
      · exact wholeDigits.ne 'e' rfl character digit
      · rcases List.mem_cons.mp rest with rfl | digit
        · rfl
        · exact fractionDigits.ne 'e' rfl character digit
    rw [written, readDecimal_positional plain, readPositional_point wholeDigits, value]

theorem write_mem {decimal : Decimal} (digits : Digits decimal.digits)
    {character : Char} (member : character ∈ decimal.write) :
    character.isDigit = true ∨ character ∈ ['.', 'e', '-', '+'] := by
  by_cases far : 16 < decimal.point ∨ decimal.point < -3
  · rw [write_scientific decimal far] at member
    simp only [List.mem_append, List.mem_cons] at member
    rcases member with mantissa | rfl | rfl | exponent
    · rcases pointed_mem mantissa with digit | rfl
      · exact .inl (digits character digit)
      · exact .inr (by simp)
    · exact .inr (by simp)
    · exact .inr (by split <;> simp)
    · exact .inl (((digits_replicate_zero _).append (digits_toDigits _))
        character exponent)
  · obtain ⟨whole, fraction, wholeDigits, fractionDigits, -, written, -⟩ :=
      write_positional decimal far digits
    rw [written] at member
    simp only [List.mem_append, List.mem_cons] at member
    rcases member with digit | rfl | digit
    · exact .inl (wholeDigits character digit)
    · exact .inr (by simp)
    · exact .inl (fractionDigits character digit)

theorem write_marked {decimal : Decimal} (digits : Digits decimal.digits) :
    '.' ∈ decimal.write ∨ 'e' ∈ decimal.write := by
  by_cases far : 16 < decimal.point ∨ decimal.point < -3
  · rw [write_scientific decimal far]
    simp
  · obtain ⟨whole, fraction, -, -, -, written, -⟩ :=
      write_positional decimal far digits
    rw [written]
    simp

theorem head?_write_ne {decimal : Decimal} (digits : Digits decimal.digits) :
    decimal.write.head? ≠ some '-' := by
  by_cases far : 16 < decimal.point ∨ decimal.point < -3
  · rw [write_scientific decimal far]
    cases spelled : decimal.digits with
    | nil => simp [pointed]
    | cons first rest =>
        have digit := digits first (by simp [spelled])
        intro sign
        have same : first = '-' := by
          cases rest <;> simpa [pointed] using sign
        rw [same] at digit
        cases digit
  · obtain ⟨whole, fraction, wholeDigits, -, nonempty, written, -⟩ :=
      write_positional decimal far digits
    rw [written]
    cases whole with
    | nil => exact absurd rfl nonempty
    | cons first rest =>
        have digit := wholeDigits first (by simp)
        intro sign
        have same : first = '-' := by simpa using sign
        rw [same] at digit
        cases digit

theorem digits_shortest (mantissa : Nat) (exponent : Int) :
    Digits (shortest mantissa exponent).digits := by
  unfold shortest
  split
  · exact digits_replicate_zero 1
  · intro digit member
    simp only [withoutTrailingZeros, List.mem_reverse] at member
    have inside := (List.dropWhile_sublist _).mem member
    exact digits_toDigits _ digit (List.mem_reverse.mp inside)

theorem shortest_pos {mantissa : Nat} {exponent : Int}
    (canonical : Canonical mantissa exponent) (positive : 0 < mantissa) :
    0 < (shortest mantissa exponent).value := by
  have within := shortest_within positive canonical
  have unit := unit_pos exponent
  have short := reach_le mantissa exponent
  have whole : (1 : ℚ) ≤ mantissa := by exact_mod_cast positive
  have above : 0 < lowerEnd mantissa exponent := by
    unfold lowerEnd
    exact mul_pos (by linarith) unit
  exact above.trans_le within.lower

theorem shortest_inj {mantissa other : Nat} {exponent further : Int}
    (canonical : Canonical mantissa exponent)
    (canonicalOther : Canonical other further)
    (agree : (shortest mantissa exponent).value = (shortest other further).value) :
    mantissa = other ∧ exponent = further := by
  rcases Nat.eq_zero_or_pos mantissa with rfl | positive
  · rcases Nat.eq_zero_or_pos other with rfl | otherPositive
    · have lowest := canonical.normal
      have lowestOther := canonicalOther.normal
      omega
    · have above := shortest_pos canonicalOther otherPositive
      rw [← agree, shortest_zero] at above
      exact absurd above (lt_irrefl 0)
  · rcases Nat.eq_zero_or_pos other with rfl | otherPositive
    · have above := shortest_pos canonical positive
      rw [agree, shortest_zero] at above
      exact absurd above (lt_irrefl 0)
    · have within := shortest_within positive canonical
      rw [agree] at within
      exact within.unique canonical canonicalOther
        (shortest_within otherPositive canonicalOther)

theorem display_finite {number : Binary64} {negative : Bool} {mantissa : Nat}
    {exponent : Int} (read : number.reading = .finite negative mantissa exponent) :
    number.display.toList = if negative then '-' :: (shortest mantissa exponent).write
      else (shortest mantissa exponent).write := by
  simp [display, read]

theorem display_inj {left right : Binary64} {negative other : Bool}
    {mantissa otherMantissa : Nat} {exponent otherExponent : Int}
    (first : left.reading = .finite negative mantissa exponent)
    (second : right.reading = .finite other otherMantissa otherExponent)
    (agree : left.display.toList = right.display.toList) : left = right := by
  have digits := digits_shortest mantissa exponent
  have otherDigits := digits_shortest otherMantissa otherExponent
  rw [display_finite first, display_finite second] at agree
  have same : negative = other ∧ (shortest mantissa exponent).write =
      (shortest otherMantissa otherExponent).write := by
    cases negative <;> cases other
    · exact ⟨rfl, agree⟩
    · exact absurd (congrArg List.head? agree) (head?_write_ne digits)
    · exact absurd (congrArg List.head? agree.symm) (head?_write_ne otherDigits)
    · exact ⟨rfl, List.tail_eq_of_cons_eq agree⟩
  have values := congrArg readDecimal same.2
  rw [readDecimal_write digits, readDecimal_write otherDigits] at values
  obtain ⟨rfl, rfl⟩ := shortest_inj (canonical_of_finite first)
    (canonical_of_finite second) values
  obtain ⟨rfl, -⟩ := same
  exact eq_of_finite first second

end AccessControl.Binary64
