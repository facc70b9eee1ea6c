import AccessControl.Number.Decimal
import AccessControl.Text.Integer

namespace AccessControl

/-! Texts that stand for doubles: decimal numerals with white space around, and
the names of the numbers that no numeral reaches. -/

namespace Binary64

private def partDigits? (part : List Char) : Option (List Char) :=
  if part.isEmpty then some []
  else (Text.groupedDigits? part).map fun digits => digits.map Nat.digitChar

private def exponentOf? : List Char → Option Int
  | [] => some 0
  | _ :: written => Text.integer? written

private def endsMantissa (character : Char) : Bool :=
  character == 'e' || character == 'E'

def ofNumeral? (negative : Bool) (numeral : List Char) : Option Binary64 := do
  let mantissa := numeral.takeWhile fun character => !endsMantissa character
  let written := numeral.drop mantissa.length
  let whole ← partDigits? (mantissa.takeWhile (· != '.'))
  let fraction ← partDigits? ((mantissa.dropWhile (· != '.')).drop 1)
  let exponent ← exponentOf? written
  if whole.isEmpty && fraction.isEmpty then none
  else if written.any Text.isBlank then none
  else return .ofParts negative whole fraction exponent

/-- The double that a text stands for. The name of the undefined number always
stands for the same one, another spelling of it for one of its own, which the
tag tells apart. -/
def ofText? (tag : Nat) (text : String) : Option Binary64 :=
  let (negative, body) :=
    match Text.trim text.toList with
    | '-' :: rest => (true, rest)
    | '+' :: rest => (false, rest)
    | rest => (false, rest)
  match (String.ofList body).toLower with
  | "inf" | "infinity" => some (.infinity negative)
  | "nan" => some (.undefined (if text = "NaN" then 0 else tag + 1))
  | _ => ofNumeral? negative body

end Binary64

end AccessControl
