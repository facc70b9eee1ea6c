import AccessControl.Entries
import AccessControl.Policy.Mutation

namespace AccessControl

/-! Commands: operations that are asked for by name. The operation, and not the
command, says what happens; a command only has to be read as one. -/

structure Command where
  name : String
  arguments : List Value
  named : Entries String Value

inductive Reply
  | done
  | flag (value : Bool)
  | count (number : Nat)
  | texts (values : List String)
  | rows (rows : List Row)
deriving DecidableEq, Repr

namespace Value

/-- The text that a value is; any other value stands for the usual text. -/
def asTextOr (usual : String) (value : Value) : String :=
  value.text?.getD usual

def asText (value : Value) : String :=
  value.asTextOr ""

/-- The whole number that a value is; any other value stands for zero. -/
def asIndex : Value → Int
  | .int number => number
  | _ => 0

def asRow (value : Value) : Row :=
  (value.members?.getD []).map asText

def asRows (value : Value) : List Row :=
  (value.members?.getD []).map asRow

def fields? (value : Value) : Option (List Fields) := do
  (← value.members?).mapM members?

end Value

def RowFilter.ofValues (start : Value) (values : List Value) : RowFilter :=
  ⟨start.asIndex, values.map Value.asText⟩

namespace Command

def plain (name : String) (arguments : List Value) : Command :=
  ⟨name, arguments, []⟩

/-- The values of parameters, of which so many must be given; the others are
null where nothing is given for them. There is none where a parameter is given
twice, or what is given has no parameter. -/
def bind? (command : Command) (required : Nat) (parameters : List String) :
    Option (List Value) :=
  let later := parameters.drop command.arguments.length
  let missing := (parameters.take required).drop command.arguments.length
  if parameters.length < command.arguments.length then none
  else if command.named.any fun entry => !later.contains entry.1 then none
  else if missing.any fun name => (command.named.lookup name).isNone then none
  else
    some (command.arguments ++ later.map fun name =>
      (command.named.lookup name).getD .null)

def bindRest? (command : Command) (parameters : List String) :
    Option (List Value × List Value) :=
  let count := parameters.length
  if count ≤ command.arguments.length then
    if command.named.isEmpty then
      some (command.arguments.take count, command.arguments.drop count)
    else none
  else
    (command.bind? count parameters).map fun values => (values, [])

end Command

def misfit : Failure :=
  .trap .argumentCount

end AccessControl
