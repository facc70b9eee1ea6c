import AccessControl.Value

namespace AccessControl

/-! Keys of requests for the decision cache: the context and the values, one
after the other, between square brackets. -/

namespace RequestKey

/-- Why a request of scalars has no key. -/
inductive Fault
  | unwritable
deriving DecidableEq, Repr

def truth (value : Bool) : List Char :=
  (if value then "true" else "false").toList

def double (number : Binary64) : List Char :=
  match number.reading with
  | .undefined => "NaN".toList
  | .infinite true => "-Infinity".toList
  | .infinite false => "Infinity".toList
  | .finite .. => number.display.toList

/-- The part of a scalar that can be written; other values have none. -/
def part? : Value → Option (List Char)
  | .bool value => some (truth value)
  | .int value => if isWritable value then some (toString value).toList else none
  | .float value => some (double value)
  | .text value => some (Text.ascii value)
  | _ => none

def parts? : List Value → Option (List (List Char))
  | [] => some []
  | value :: values =>
      match part? value, parts? values with
      | some part, some parts => some (part :: parts)
      | _, _ => none

def join : List (List Char) → List Char
  | [] => []
  | [only] => only
  | part :: parts => part ++ ',' :: join parts

end RequestKey

/-- The key of a request, if all its values are scalars. -/
def requestKey (context : String) (values : List Value) :
    Except RequestKey.Fault (Option String) :=
  if values.all Value.isScalar then
    match RequestKey.parts? values with
    | some parts =>
        let row := RequestKey.join (Text.ascii context :: parts)
        .ok (some (String.ofList ('[' :: row ++ [']'])))
    | none => .error .unwritable
  else .ok none

def requestKey? (context : String) (values : List Value) : Option String :=
  (requestKey context values).toOption.join

end AccessControl
