import AccessControl.Text.Blank
import AccessControl.Text.Decimal

namespace AccessControl.Text

def digitValue (character : Char) : Nat :=
  if isAsciiDigit character then character.toNat - '0'.toNat
  else
    match decimalRanges.bounds.find? fun bound =>
      bound.1 ≤ character.toNat && character.toNat ≤ bound.2 with
    | some bound => (character.toNat - bound.1) % 10
    | none => 0

/-- Digits with single underscores between them. -/
def groupedDigits? : List Char → Option (List Nat)
  | [] => none
  | [only] => if isDecimal only then some [digitValue only] else none
  | first :: '_' :: rest =>
      if isDecimal first then (groupedDigits? rest).map (digitValue first :: ·)
      else none
  | first :: rest =>
      if isDecimal first then (groupedDigits? rest).map (digitValue first :: ·)
      else none

def ofDigits (digits : List Nat) : Nat :=
  digits.foldl (fun value digit => value * 10 + digit) 0

def integer? (text : List Char) : Option Int :=
  match trim text with
  | '-' :: digits => (groupedDigits? digits).map fun digits => -(ofDigits digits : Int)
  | '+' :: digits => (groupedDigits? digits).map fun digits => (ofDigits digits : Int)
  | digits => (groupedDigits? digits).map fun digits => (ofDigits digits : Int)

end AccessControl.Text
