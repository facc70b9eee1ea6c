namespace AccessControl

/-! Double precision numbers as their sixty-four bits. Order and rounding are
computed exactly, in integers. -/

structure Binary64 where
  bits : UInt64
deriving DecidableEq, Repr

namespace Binary64

/-- What the bits stand for: a finite number is its mantissa times the power of
two of its exponent. -/
inductive Reading
  | undefined
  | infinite (negative : Bool)
  | finite (negative : Bool) (mantissa : Nat) (exponent : Int)
deriving DecidableEq, Repr

def negative (number : Binary64) : Bool :=
  Nat.pow 2 63 ≤ number.bits.toNat

def exponentField (number : Binary64) : Nat :=
  number.bits.toNat / Nat.pow 2 52 % Nat.pow 2 11

def fractionField (number : Binary64) : Nat :=
  number.bits.toNat % Nat.pow 2 52

def reading (number : Binary64) : Reading :=
  if number.exponentField = 2047 then
    if number.fractionField = 0 then .infinite number.negative
    else .undefined
  else if number.exponentField = 0 then
    .finite number.negative number.fractionField (-1074)
  else
    .finite number.negative (number.fractionField + Nat.pow 2 52)
      (number.exponentField - 1075)

private def ofFields (negative : Bool) (exponent fraction : Nat) : Binary64 :=
  ⟨((if negative then Nat.pow 2 63 else 0) + exponent * Nat.pow 2 52 + fraction).toUInt64⟩

def zero (negative : Bool) : Binary64 :=
  ofFields negative 0 0

def infinity (negative : Bool) : Binary64 :=
  ofFields negative 2047 0

/-- The undefined number that carries a tag; different tags are different
undefined numbers. -/
def undefined (tag : Nat) : Binary64 :=
  ofFields false 2047 (Nat.pow 2 51 + tag % Nat.pow 2 51)

def isUndefined (number : Binary64) : Bool :=
  match number.reading with
  | .undefined => true
  | _ => false

def negate (number : Binary64) : Binary64 :=
  ⟨number.bits ^^^ 0x8000000000000000⟩

/-- The quotient to the nearest integer, a half to the even neighbour. -/
def roundedQuotient (numerator denominator : Nat) : Nat :=
  let quotient := numerator / denominator
  let twice := 2 * (numerator % denominator)
  if twice < denominator then quotient
  else if denominator < twice then quotient + 1
  else quotient + quotient % 2

/-- The nearest number to a positive quotient, a half to the even neighbour;
too large a quotient is infinite. -/
def ofQuotient (negative : Bool) (numerator denominator : Nat) : Binary64 :=
  let estimate : Int := (numerator.log2 : Int) - denominator.log2 - 52
  let scaled (exponent : Int) : Nat × Nat :=
    (numerator * Nat.pow 2 (-exponent).toNat, denominator * Nat.pow 2 exponent.toNat)
  let short := (scaled estimate).1 < Nat.pow 2 52 * (scaled estimate).2
  let exponent := max (if short then estimate - 1 else estimate) (-1074)
  let mantissa := roundedQuotient (scaled exponent).1 (scaled exponent).2
  if mantissa < Nat.pow 2 52 then ofFields negative 0 mantissa
  else if mantissa = Nat.pow 2 53 then
    if 970 < exponent then infinity negative
    else ofFields negative (exponent + 1076).toNat 0
  else if 971 < exponent then infinity negative
  else ofFields negative (exponent + 1075).toNat (mantissa - Nat.pow 2 52)

def ofDecimal (negative : Bool) (significand : Nat) (exponent : Int) :
    Binary64 :=
  if significand = 0 then zero negative
  else
    let magnitude := (Nat.toDigits 10 significand).length + exponent
    if 310 < magnitude then infinity negative
    else if magnitude < -330 then zero negative
    else
      ofQuotient negative (significand * Nat.pow 10 exponent.toNat)
        (Nat.pow 10 (-exponent).toNat)

def ofInt (number : Int) : Binary64 :=
  if number = 0 then zero false
  else ofQuotient (number < 0) number.natAbs 1

def toInt? (number : Binary64) : Option Int :=
  match number.reading with
  | .finite negative mantissa exponent =>
      let scaled := mantissa * Nat.pow 2 exponent.toNat
      let divisor := Nat.pow 2 (-exponent).toNat
      if scaled % divisor = 0 then
        let magnitude : Int := (scaled / divisor : Nat)
        some (if negative then -magnitude else magnitude)
      else none
  | _ => none

def plusInt (number : Binary64) (addend : Int) : Binary64 :=
  match number.reading with
  | .finite negative mantissa exponent =>
      let scaled : Int := (mantissa * Nat.pow 2 exponent.toNat : Nat)
      let divisor : Nat := Nat.pow 2 (-exponent).toNat
      let sum := (if negative then -scaled else scaled) + addend * divisor
      if sum = 0 then zero false
      else ofQuotient (sum < 0) sum.natAbs divisor
  | _ => number

/-- Position on the number line with its two infinite ends. -/
inductive Position
  | below
  | at (numerator : Int) (exponent : Int)
  | above
deriving DecidableEq, Repr

def Position.ofInt (number : Int) : Position :=
  .at number 0

def position? (number : Binary64) : Option Position :=
  match number.reading with
  | .undefined => none
  | .infinite true => some .below
  | .infinite false => some .above
  | .finite true mantissa exponent => some (.at (-mantissa) exponent)
  | .finite false mantissa exponent => some (.at mantissa exponent)

def Position.compare : Position → Position → Ordering
  | .below, .below => .eq
  | .below, _ => .lt
  | _, .below => .gt
  | .above, .above => .eq
  | .above, _ => .gt
  | _, .above => .lt
  | .at left leftExponent, .at right rightExponent =>
      Ord.compare (left * Nat.pow 2 (leftExponent - rightExponent).toNat)
        (right * Nat.pow 2 (rightExponent - leftExponent).toNat)

end Binary64

end AccessControl
