import AccessControl.Number.Binary64
import AccessControl.Text.Decimal

namespace AccessControl

/-! Decimal texts of numbers. A double is written with the fewest digits that
read back to it, and of those with the nearest. -/

namespace Binary64

/-- A decimal fraction: its digits follow the point, which then moves right by
the exponent. -/
structure Decimal where
  digits : List Char
  point : Int
deriving DecidableEq, Repr

/-- The reals that round to a positive finite number, as numerators over one
denominator, with the number itself. The ends belong to the interval when the
mantissa is even. -/
structure Neighbourhood where
  low : Nat
  middle : Nat
  high : Nat
  denominator : Nat
  closed : Bool

def neighbourhood (mantissa : Nat) (exponent : Int) : Neighbourhood :=
  let scale := 4 * Nat.pow 2 exponent.toNat
  let unit := Nat.pow 2 exponent.toNat
  let gap := if mantissa = Nat.pow 2 52 ∧ -1074 < exponent then unit else 2 * unit
  { low := mantissa * scale - gap
    middle := mantissa * scale
    high := mantissa * scale + 2 * unit
    denominator := 4 * Nat.pow 2 (-exponent).toNat
    closed := mantissa % 2 = 0 }

def Neighbourhood.holds (interval : Neighbourhood) (numerator denominator : Nat) :
    Bool :=
  let low := interval.low * denominator
  let high := interval.high * denominator
  let value := numerator * interval.denominator
  if interval.closed then low ≤ value && value ≤ high
  else low < value && value < high

/-- The least exponent whose power of ten exceeds the number. -/
def pointOf (interval : Neighbourhood) : Int :=
  let numerator := interval.middle
  let denominator := interval.denominator
  if denominator ≤ numerator then
    ((Nat.toDigits 10 (numerator / denominator)).length : Nat)
  else
    1 - ((Nat.toDigits 10 (denominator / numerator)).length : Nat)

def candidate? (interval : Neighbourhood) (point : Int) (count : Nat) :
    Option Nat :=
  let shift := (count : Int) - point
  let numerator := interval.middle * Nat.pow 10 shift.toNat
  let denominator := interval.denominator * Nat.pow 10 (-shift).toNat
  let floor := numerator / denominator
  let nearest := roundedQuotient numerator denominator
  let other := if nearest = floor then floor + 1 else floor
  let holds (digits : Nat) :=
    interval.holds (digits * Nat.pow 10 (-shift).toNat) (Nat.pow 10 shift.toNat)
  if holds nearest then some nearest
  else if holds other then some other
  else none

def shortestFrom (interval : Neighbourhood) (point : Int) (count : Nat) :
    Nat → Nat × Nat
  | 0 => (count, (candidate? interval point count).getD 0)
  | rest + 1 =>
      match candidate? interval point count with
      | some digits => (count, digits)
      | none => shortestFrom interval point (count + 1) rest

def withoutTrailingZeros (digits : List Char) : List Char :=
  (digits.reverse.dropWhile (· == '0')).reverse

def shortest (mantissa : Nat) (exponent : Int) : Decimal :=
  if mantissa = 0 then ⟨['0'], 1⟩
  else
    let interval := neighbourhood mantissa exponent
    let point := pointOf interval
    let (count, digits) := shortestFrom interval point 1 16
    let text := Nat.toDigits 10 digits
    ⟨withoutTrailingZeros text, point + (text.length - count : Int)⟩

def padded (width : Nat) (digits : List Char) : List Char :=
  List.replicate (width - digits.length) '0' ++ digits

/-- Positional from one ten-thousandth up to sixteen digits before the point,
with an exponent of at least two digits otherwise. -/
def Decimal.write (decimal : Decimal) : List Char :=
  let digits := decimal.digits
  if 16 < decimal.point ∨ decimal.point < -3 then
    let exponent := decimal.point - 1
    let mantissa :=
      match digits with
      | [] => []
      | [only] => [only]
      | first :: rest => first :: '.' :: rest
    mantissa ++ ['e', if exponent < 0 then '-' else '+']
      ++ padded 2 (Nat.toDigits 10 exponent.natAbs)
  else if decimal.point ≤ 0 then
    ['0', '.'] ++ List.replicate (-decimal.point).toNat '0' ++ digits
  else
    let whole := digits.take decimal.point.toNat
    let fraction := digits.drop decimal.point.toNat
    whole ++ List.replicate (decimal.point.toNat - digits.length) '0' ++ ['.']
      ++ (if fraction.isEmpty then ['0'] else fraction)

def display (number : Binary64) : String :=
  match number.reading with
  | .undefined => "nan"
  | .infinite true => "-inf"
  | .infinite false => "inf"
  | .finite negative mantissa exponent =>
      let text := (shortest mantissa exponent).write
      String.ofList (if negative then '-' :: text else text)

end Binary64

def decimalValue (digits : List Char) : Nat :=
  digits.foldl (fun value digit => value * 10 + (digit.toNat - '0'.toNat)) 0

/-- The most decimal digits that a whole number is read or written with. -/
def decimalLimit : Nat := 4300

def isWritable (number : Int) : Bool :=
  number.natAbs < Nat.pow 10 decimalLimit

def Binary64.ofParts (negative : Bool) (whole fraction : List Char)
    (exponent : Int) : Binary64 :=
  .ofDecimal negative (decimalValue (whole ++ fraction))
    (exponent - fraction.length)

end AccessControl
