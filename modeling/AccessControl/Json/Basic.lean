import AccessControl.Entries
import AccessControl.Text.Escape

namespace AccessControl

inductive Json
  | null
  | bool (value : Bool)
  | number (digits : String)
  | text (value : String)
  | array (items : List Json)
  | object (members : List (String × Json))
deriving Repr, Inhabited

namespace Json

def ofNat (number : Nat) : Json :=
  .number (toString number)

def texts (values : List String) : Json :=
  .array (values.map .text)

def members : Json → Entries String Json
  | .object members => members
  | _ => []

def items : Json → List Json
  | .array items => items
  | _ => []

def member (json : Json) (key : String) : Json :=
  (json.members.lookup key).getD .null

def item (json : Json) (index : Nat) : Json :=
  json.items[index]?.getD .null

def text? : Json → Option String
  | .text value => some value
  | _ => none

def string (json : Json) : String :=
  json.text?.getD ""

def flag : Json → Bool
  | .bool value => value
  | _ => false

def isNull : Json → Bool
  | .null => true
  | _ => false

def join : List (List Char) → List Char
  | [] => []
  | [only] => only
  | first :: rest => first ++ ',' :: join rest

mutual
def written : Json → List Char
  | .null => "null".toList
  | .bool value => (if value then "true" else "false").toList
  | .number digits => digits.toList
  | .text value => Text.ascii value
  | .array items => '[' :: join (writtenItems items) ++ [']']
  | .object members => '\x7b' :: join (writtenMembers members) ++ ['\x7d']

def writtenItems : List Json → List (List Char)
  | [] => []
  | item :: items => item.written :: writtenItems items

def writtenMembers : List (String × Json) → List (List Char)
  | [] => []
  | (key, value) :: members =>
      (Text.ascii key ++ ':' :: value.written) :: writtenMembers members
end

def render (json : Json) : String :=
  String.ofList json.written

end Json

end AccessControl
