import AccessControl.Fault
import AccessControl.Text.Blank
import AccessControl.Text.Identifier
import AccessControl.Text.Split

namespace AccessControl

/-- The names of the fields, in the order in which a row holds them. -/
abbrev Shape := List String

inductive RoleScope
  | everywhere
  | inDomain
deriving DecidableEq, Repr

def RoleScope.arity : RoleScope → Nat
  | .everywhere => 2
  | .inDomain => 3

def sectionTokens? : Value → Option (List String)
  | .text text =>
      some ((Text.splitAt ',' text.toList).map fun token =>
        String.ofList (Text.trim token))
  | .list items | .tuple items =>
      some (items.map fun item => Text.trimmed item.display)
  | _ => none

def sectionTokens (key : String) (definition : Value) :
    Except ModelFault (List String) :=
  match sectionTokens? definition with
  | none => .error (.shapelessSection key)
  | some tokens =>
      if tokens.isEmpty || tokens.any (·.isEmpty) then
        .error (.emptyField key definition)
      else .ok tokens

def isFieldName (token : String) : Bool :=
  Text.isIdentifier token && !Text.isKeyword token

/-- The first token that is no name, or a name that was given before. -/
def fieldFault? (key : String) (seen : List String) :
    List String → Option ModelFault
  | [] => none
  | token :: tokens =>
      if !isFieldName token then some (.invalidField key token)
      else if seen.contains token then some (.duplicateField key token)
      else fieldFault? key (token :: seen) tokens

def Shape.read (key : String) (definition : Value) : Except ModelFault Shape := do
  let tokens ← sectionTokens key definition
  match fieldFault? key [] tokens with
  | some fault => throw fault
  | none => return tokens

def RoleScope.placeholder : String := "_"

def RoleScope.read (key : String) (definition : Value) :
    Except ModelFault RoleScope := do
  let tokens ← sectionTokens key definition
  if tokens.any (· != placeholder) then throw (.rolePlaceholder key)
  match tokens.length with
  | 2 => return .everywhere
  | 3 => return .inDomain
  | count => throw (.roleArity key count)

end AccessControl
