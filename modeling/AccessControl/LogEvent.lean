import AccessControl.Entries
import AccessControl.Fault
import AccessControl.Text.Case

namespace AccessControl

inductive LogLevel
  | unset
  | debug
  | info
  | warning
  | error
  | critical
deriving DecidableEq, Repr

namespace LogLevel

def rank : LogLevel → Nat
  | .unset => 0
  | .debug => 10
  | .info => 20
  | .warning => 30
  | .error => 40
  | .critical => 50

def name : LogLevel → String
  | .unset => "notset"
  | .debug => "debug"
  | .info => "info"
  | .warning => "warning"
  | .error => "error"
  | .critical => "critical"

def ofMethod? (method : String) : Option LogLevel :=
  match method with
  | "debug" => some .debug
  | "info" => some .info
  | "warning" | "warn" => some .warning
  | "error" | "exception" => some .error
  | "critical" | "fatal" => some .critical
  | _ => none

private def raised (text : String) : String :=
  text.map fun character => Char.ofNat (Text.upperCode character.toNat)

/-- The level that a name stands for in any case. Two names stand for something
that is no level. -/
def ofName (name : String) : Answer LogLevel :=
  match raised name with
  | "NOTSET" => .ok .unset
  | "DEBUG" => .ok .debug
  | "INFO" => .ok .info
  | "WARNING" | "WARN" => .ok .warning
  | "ERROR" => .ok .error
  | "CRITICAL" | "FATAL" => .ok .critical
  | "BASIC_FORMAT" => .error (.trap .wrongLabels)
  | "_STYLES" => .error (.trap .wrongKind)
  | _ => .error (.trap .missingAttribute)

end LogLevel

structure LogContext where
  requestId : Option String
  subject : Option String
deriving DecidableEq, Repr

namespace LogContext

def empty : LogContext := ⟨none, none⟩

/-- An empty subject is none. -/
def withSubject (context : LogContext) (subject : Option String) : LogContext :=
  { context with subject := subject.filter fun text => !text.isEmpty }

end LogContext

namespace Value

mutual
/-- What an event can hold of a value: sets and objects give their quoted
text. -/
def logged : Value → Value
  | .list items => .list (loggedItems items)
  | .tuple items => .list (loggedItems items)
  | .mapping entries => .mapping (loggedEntries entries)
  | .set items => .text (set items).quoted
  | .object attributes => .text (object attributes).quoted
  | .user name age tenant => .text (user name age tenant).quoted
  | value => value

def loggedItems : List Value → List Value
  | [] => []
  | item :: items => item.logged :: loggedItems items

def loggedEntries : List (String × Value) → List (String × Value)
  | [] => []
  | (key, value) :: entries => (key, value.logged) :: loggedEntries entries
end

end Value

abbrev LogEvent := Entries String Value

namespace LogEvent

def afterPoint? (text : String) : Option String :=
  match text.toList.dropWhile (· != '.') with
  | [] => none
  | _ :: rest => some (String.ofList rest)

/-- The component is what follows the first point in the name of the logger. -/
def withComponent (event : LogEvent) : LogEvent :=
  match event.lookup "logger" with
  | some (.text logger) =>
      match afterPoint? logger with
      | some component => Entries.put "component" (.text component) event
      | none => event
  | _ => event

private def putText (key : String) (text? : Option String) (event : LogEvent) :
    LogEvent :=
  match text? with
  | some text => if text.isEmpty then event else Entries.put key (.text text) event
  | none => event

def withContext (event : LogEvent) (context : LogContext) : LogEvent :=
  putText "subject" context.subject (putText "request_id" context.requestId event)

/-- The event that a logger emits, if its level is high enough. It has no time of
its own. -/
def emitted? (threshold : LogLevel) (context : LogContext) (logger : String)
    (level : LogLevel) (message : Value) (given : LogEvent) : Option LogEvent :=
  if level.rank < threshold.rank then none
  else
    let named := Entries.put "logger" (.text logger)
      (Entries.put "event" message.logged
        (Value.loggedEntries (Entries.erase "timestamp" given)))
    let levelled := Entries.put "level" (.text level.name) named
    some ((withComponent levelled).withContext context)

end LogEvent

end AccessControl
