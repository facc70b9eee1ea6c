import AccessControl.Number.Decimal
import AccessControl.Text.Escape

namespace AccessControl

inductive Value
  | null
  | bool (value : Bool)
  | int (value : Int)
  | float (value : Binary64)
  | text (value : String)
  | list (items : List Value)
  | tuple (items : List Value)
  | set (items : List Value)
  | mapping (entries : List (String × Value))
  | object (attributes : List (String × Value))
  | user (name age tenant : Value)
deriving Repr, Inhabited

namespace Value

def typeName : Value → String
  | .null => "NoneType"
  | .bool _ => "bool"
  | .int _ => "int"
  | .float _ => "float"
  | .text _ => "str"
  | .list _ => "list"
  | .tuple _ => "tuple"
  | .set _ => "set"
  | .mapping _ => "dict"
  | .object _ => "SimpleNamespace"
  | .user .. => "TestUser"

def isText : Value → Bool
  | .text _ => true
  | _ => false

def text? : Value → Option String
  | .text value => some value
  | _ => none

def texts (values : List String) : Value :=
  .list (values.map .text)

def nat (number : Nat) : Value :=
  .int number

/-- The place of a number, truth values standing for zero and one. -/
def position? : Value → Option Binary64.Position
  | .bool value => some (.ofInt (if value then 1 else 0))
  | .int value => some (.ofInt value)
  | .float value => value.position?
  | _ => none

def isNumeric : Value → Bool
  | .bool _ | .int _ | .float _ => true
  | _ => false

def isScalar : Value → Bool
  | .bool _ | .int _ | .float _ | .text _ => true
  | _ => false

def numericEqual (left right : Value) : Bool :=
  match left.position?, right.position? with
  | some first, some second => first.compare second == .eq
  | _, _ => false

def sameFloat : Value → Value → Bool
  | .float left, .float right => left == right
  | _, _ => false

/-! Equality. Members of collections are equal also when they are one and the
same undefined number. -/

mutual
def equal : Value → Value → Bool
  | .null, right => match right with
      | .null => true
      | _ => false
  | .bool left, right => numericEqual (.bool left) right
  | .int left, right => numericEqual (.int left) right
  | .float left, right => numericEqual (.float left) right
  | .text left, right => match right with
      | .text other => left == other
      | _ => false
  | .list left, right => match right with
      | .list other => equalLists left other
      | _ => false
  | .tuple left, right => match right with
      | .tuple other => equalLists left other
      | _ => false
  | .set left, right => match right with
      | .set other => left.length == other.length && within left other
      | _ => false
  | .mapping left, right => match right with
      | .mapping other => left.length == other.length && entriesWithin left other
      | _ => false
  | .object left, right => match right with
      | .object other => left.length == other.length && entriesWithin left other
      | _ => false
  | .user name age tenant, right => match right with
      | .user otherName otherAge otherTenant =>
          (equal name otherName || sameFloat name otherName)
            && (equal age otherAge || sameFloat age otherAge)
            && (equal tenant otherTenant || sameFloat tenant otherTenant)
      | _ => false

def equalLists : List Value → List Value → Bool
  | [], [] => true
  | left :: lefts, right :: rights =>
      (equal left right || sameFloat left right) && equalLists lefts rights
  | _, _ => false

def within : List Value → List Value → Bool
  | [], _ => true
  | left :: lefts, rights =>
      (rights.any fun right => equal left right || sameFloat left right)
        && within lefts rights

def entriesWithin : List (String × Value) → List (String × Value) → Bool
  | [], _ => true
  | (key, left) :: lefts, rights =>
      (match rights.lookup key with
        | some right => equal left right || sameFloat left right
        | none => false)
        && entriesWithin lefts rights
end

/-- Equality of members of a collection. -/
def same (left right : Value) : Bool :=
  equal left right || sameFloat left right

def hasMember (members : List Value) (value : Value) : Bool :=
  members.any (same value)

mutual
def hashable : Value → Bool
  | .null | .bool _ | .int _ | .float _ | .text _ => true
  | .tuple items => allHashable items
  | _ => false

def allHashable : List Value → Bool
  | [] => true
  | item :: items => hashable item && allHashable items
end

/-- Whether a condition holds of the value taken as a truth value. -/
def truthy : Value → Bool
  | .null => false
  | .bool value => value
  | .int value => value != 0
  | .float value =>
      match value.position? with
      | some position => position.compare (.ofInt 0) != .eq
      | none => true
  | .text value => !value.isEmpty
  | .list items | .tuple items | .set items => !items.isEmpty
  | .mapping entries => !entries.isEmpty
  | .object _ | .user .. => true

/-- What a value holds under a name: an entry, an attribute, or a part of a number.
What all values of its type have is not told. -/
def attribute? (value : Value) (name : String) : Option Value :=
  match value with
  | .mapping entries => entries.lookup name
  | .object attributes => attributes.lookup name
  | .user userName age tenant =>
      if name = "name" then some userName
      else if name = "age" then some age
      else if name = "tenant_id" then some tenant
      else none
  | .bool truth =>
      let number : Int := if truth then 1 else 0
      if name = "real" ∨ name = "numerator" then some (.int number)
      else if name = "imag" then some (.int 0)
      else if name = "denominator" then some (.int 1)
      else none
  | .int number =>
      if name = "real" ∨ name = "numerator" then some (.int number)
      else if name = "imag" then some (.int 0)
      else if name = "denominator" then some (.int 1)
      else none
  | .float number =>
      if name = "real" then some (.float number)
      else if name = "imag" then some (.float (.zero false))
      else none
  | _ => none

/-- The members that a walk over the value meets; keys for a mapping and
characters for a text. -/
def members? : Value → Option (List Value)
  | .list items | .tuple items | .set items => some items
  | .mapping entries => some (entries.map fun entry => .text entry.1)
  | .text value => some (value.toList.map fun character => .text character.toString)
  | _ => none

private def commaSeparated (items : List String) : String :=
  ", ".intercalate items

mutual
def quoted : Value → String
  | .null => "None"
  | .bool value => if value then "True" else "False"
  | .int value => toString value
  | .float value => value.display
  | .text value => Text.quoted value
  | .list items => "[" ++ commaSeparated (quotedItems items) ++ "]"
  | .tuple items =>
      match quotedItems items with
      | [only] => "(" ++ only ++ ",)"
      | all => "(" ++ commaSeparated all ++ ")"
  | .set items =>
      match quotedItems items with
      | [] => "set()"
      | all => "\x7b" ++ commaSeparated all ++ "\x7d"
  | .mapping entries =>
      "\x7b" ++ commaSeparated (quotedEntries entries) ++ "\x7d"
  | .object attributes =>
      "namespace(" ++ commaSeparated (quotedAttributes attributes) ++ ")"
  | .user name age tenant =>
      "TestUser(name=" ++ quoted name ++ ", age=" ++ quoted age
        ++ ", tenant_id=" ++ quoted tenant ++ ")"

def quotedItems : List Value → List String
  | [] => []
  | item :: items => quoted item :: quotedItems items

def quotedEntries : List (String × Value) → List String
  | [] => []
  | (key, value) :: entries =>
      (Text.quoted key ++ ": " ++ quoted value) :: quotedEntries entries

def quotedAttributes : List (String × Value) → List String
  | [] => []
  | (key, value) :: entries =>
      (key ++ "=" ++ quoted value) :: quotedAttributes entries
end

/-- The text of a value: texts as they are, anything else in its quoted form. -/
def display : Value → String
  | .text value => value
  | value => value.quoted

end Value

end AccessControl
