import AccessControl.Value

namespace AccessControl

/-! Causes of failure, grouped by the part of the engine that finds them, and
the report that each cause makes. -/

inductive Category
  | model
  | compile
  | eval
  | enforce
  | adapter
deriving DecidableEq, Repr

def Category.code : Category → String
  | .model => "MODEL_ERROR"
  | .compile => "COMPILE_ERROR"
  | .eval => "EVAL_ERROR"
  | .enforce => "ENFORCE_ERROR"
  | .adapter => "ADAPTER_ERROR"

def Category.defaultMessage : Category → String
  | .model => "Invalid model"
  | .compile => "Expression compile failed"
  | .eval => "Expression evaluation failed"
  | .enforce => "Enforcement failed"
  | .adapter => "Adapter error"

abbrev Details := List (String × Value)

structure Report where
  category : Category
  message : String
  details : Details
deriving Repr

/-- A storage report names its storage in front of the message. -/
def storageMessage (label message : String) : String :=
  label ++ ": " ++ message

inductive RowFault
  | unknownType (key : String)
  | arity (key : String) (expected given : Nat)
  | notText (key : String)
deriving DecidableEq, Repr

def RowFault.message : RowFault → String
  | .unknownType _ => "Unknown policy type"
  | .arity .. => "Policy row arity mismatch"
  | .notText _ => "Policy row fields must be strings"

def RowFault.details : RowFault → Details
  | .unknownType key => [("ptype", .text key)]
  | .arity key expected given =>
      [("ptype", .text key), ("expected", .nat expected), ("given", .nat given)]
  | .notText key => [("ptype", .text key)]

inductive ModelFault
  | notMapping
  | unknownSection (key : Value)
  | missingSection (letter name : String)
  | shapelessSection (key : String)
  | emptyField (key : String) (definition : Value)
  | invalidField (key field : String)
  | duplicateField (key field : String)
  | rolePlaceholder (key : String)
  | roleArity (key : String) (placeholders : Nat)
  | effectNotText (key : String)
  | unsupportedEffect (effect : Value)
  | emptyMatcher (key : String)
  | unpairedMatcher (key : String) (missing : List String)
  | unknownFields (key : String) (fields : List String)
  | unknownShape (key : String)
  | unknownRole (key : String)
  | row (fault : RowFault)
deriving Repr

def ModelFault.message : ModelFault → String
  | .notMapping => "Model definition must be a mapping"
  | .unknownSection _ => "Unknown model section"
  | .missingSection letter _ => "Missing required section '" ++ letter ++ "'"
  | .shapelessSection _ => "Section definition must be a string or a sequence"
  | .emptyField .. => "Empty field in section definition"
  | .invalidField .. => "Invalid field name"
  | .duplicateField .. => "Duplicate field name"
  | .rolePlaceholder _ => "Role definitions only accept '_' placeholders"
  | .roleArity .. =>
      "Role definitions take two placeholders, or three with a domain"
  | .effectNotText _ => "Effect must be an expression string"
  | .unsupportedEffect _ => "Unsupported effect expression"
  | .emptyMatcher _ => "Empty matcher"
  | .unpairedMatcher .. => "Matcher has no paired request or policy definition"
  | .unknownFields .. => "Matcher references unknown fields"
  | .unknownShape _ => "Unknown shape"
  | .unknownRole _ => "Unknown role definition"
  | .row fault => fault.message

def ModelFault.details : ModelFault → Details
  | .notMapping => []
  | .unknownSection key => [("section", key)]
  | .missingSection letter name =>
      [("section", .text letter), ("name", .text name)]
  | .shapelessSection key => [("section", .text key)]
  | .emptyField key definition =>
      [("section", .text key), ("definition", definition)]
  | .invalidField key field => [("section", .text key), ("field", .text field)]
  | .duplicateField key field => [("section", .text key), ("field", .text field)]
  | .rolePlaceholder key => [("section", .text key)]
  | .roleArity key placeholders =>
      [("section", .text key), ("placeholders", .nat placeholders)]
  | .effectNotText key => [("section", .text key)]
  | .unsupportedEffect effect => [("effect", effect)]
  | .emptyMatcher key => [("section", .text key)]
  | .unpairedMatcher key missing =>
      [("section", .text key), ("missing", .texts missing)]
  | .unknownFields key fields =>
      [("section", .text key), ("fields", .texts fields)]
  | .unknownShape key => [("section", .text key)]
  | .unknownRole key => [("section", .text key)]
  | .row fault => fault.details

inductive Defect
  | literal (shown : String)
  | identifier (name : String)
  | indirectCall
  | keywordArgument
  | starArgument
  | unaryOperator
  | foreignField
  | comparison (name : String)
  | form (name : String)
deriving DecidableEq, Repr

def Defect.message : Defect → String
  | .literal shown => "Unsupported literal " ++ shown
  | .identifier name => "Unknown identifier '" ++ name ++ "'"
  | .indirectCall => "Only direct function calls are allowed"
  | .keywordArgument => "Keyword arguments are not allowed"
  | .starArgument => "Star arguments are not allowed"
  | .unaryOperator => "Unsupported unary operator"
  | .foreignField =>
      "Field references must start with a request or policy token"
  | .comparison name => "Unsupported comparison: " ++ name
  | .form name => "Unsupported syntax: " ++ name

inductive CompileCause
  | unterminatedText
  | empty
  | malformed
  | unsupported (defect : Defect) (offset : Nat)
  | unknownFields (fields : List String)
  | unknownFunctions (functions : List String)
deriving DecidableEq, Repr

structure CompileFault where
  expression : String
  cause : CompileCause
deriving DecidableEq, Repr

def CompileFault.message (fault : CompileFault) : String :=
  match fault.cause with
  | .unterminatedText => "Unterminated string literal"
  | .empty => "Empty expression"
  | .malformed => "Malformed expression"
  | .unsupported defect _ => defect.message
  | .unknownFields _ => "Unknown field reference"
  | .unknownFunctions _ => "Unknown function"

def CompileFault.details (fault : CompileFault) : Details :=
  ("expression", .text fault.expression) ::
    match fault.cause with
    | .unsupported _ offset => [("offset", .nat offset)]
    | .unknownFields fields => [("fields", .texts fields)]
    | .unknownFunctions functions => [("functions", .texts functions)]
    | _ => []

inductive EvalFault
  | notBoolean (place : String) (got : String)
  | unboundField (field : String)
  | unknownAttribute (field name : String)
  | unknownFunction (name : String)
  | functionFailed (name : String)
  | unequalKinds (left right : String)
  | unorderedKinds (left right : String)
  | notCollection (got : String)
  | notSubtext (left : String)
  | undecided (expression got : String)
  | notTextArgument (function got : String)
  | malformedPattern (pattern : String)
  | malformedAddress (value : String)
  | malformedRange (value : String)
  | roleArity (role : String) (arity given : Nat)
  | roleNotText (role : String)
  | custom (given : Nat)
deriving DecidableEq, Repr

def EvalFault.message : EvalFault → String
  | .notBoolean place _ => "Type mismatch: " ++ place ++ " expects a boolean"
  | .unboundField _ => "Unbound field"
  | .unknownAttribute .. => "Unknown attribute"
  | .unknownFunction _ => "Unknown function invoked"
  | .functionFailed name => "Function '" ++ name ++ "' failed"
  | .unequalKinds .. => "Type mismatch in equality"
  | .unorderedKinds .. => "Type mismatch in ordering comparison"
  | .notCollection _ => "Membership test needs a collection"
  | .notSubtext _ => "Type mismatch in membership test"
  | .undecided .. => "Matcher did not produce a boolean"
  | .notTextArgument function _ => function ++ " expects string arguments"
  | .malformedPattern _ => "Malformed regular expression"
  | .malformedAddress _ => "Malformed IP address"
  | .malformedRange _ => "Malformed IP address or CIDR"
  | .roleArity role arity _ =>
      "Role predicate '" ++ role ++ "' takes " ++ toString arity ++ " arguments"
  | .roleNotText role =>
      "Role predicate '" ++ role ++ "' expects string arguments"
  | .custom _ => "custom failure"

def EvalFault.details : EvalFault → Details
  | .notBoolean _ got => [("got", .text got)]
  | .unboundField field => [("field", .text field)]
  | .unknownAttribute field name =>
      [("field", .text field), ("attribute", .text name)]
  | .unknownFunction name => [("function", .text name)]
  | .functionFailed name => [("function", .text name)]
  | .unequalKinds left right => [("left", .text left), ("right", .text right)]
  | .unorderedKinds left right => [("left", .text left), ("right", .text right)]
  | .notCollection got => [("got", .text got)]
  | .notSubtext left => [("left", .text left)]
  | .undecided expression got =>
      [("expression", .text expression), ("got", .text got)]
  | .notTextArgument function got =>
      [("function", .text function), ("argument_type", .text got)]
  | .malformedPattern pattern => [("pattern", .text pattern)]
  | .malformedAddress value => [("value", .text value)]
  | .malformedRange value => [("value", .text value)]
  | .roleArity role _ given => [("function", .text role), ("given", .nat given)]
  | .roleNotText role => [("function", .text role)]
  | .custom given => [("given", .nat given)]

inductive EnforceFault
  | unknownContext (key : String)
  | requestArity (expected given : Nat) (request : String)
  | row (fault : RowFault)
  | unknownRole (key : String)
deriving DecidableEq, Repr

def EnforceFault.message : EnforceFault → String
  | .unknownContext _ => "Unknown enforce context"
  | .requestArity .. => "Request arity mismatch"
  | .row fault => fault.message
  | .unknownRole _ => "Unknown role definition"

def EnforceFault.details : EnforceFault → Details
  | .unknownContext key => [("context", .text key)]
  | .requestArity expected given request =>
      [("expected", .nat expected), ("given", .nat given),
        ("request", .text request)]
  | .row fault => fault.details
  | .unknownRole key => [("gtype", .text key)]

inductive StorageCause
  | notSynchronous (operation : String)
  | missing
  | failed (reason operation : String)
  | unfit (fault : ModelFault)
deriving Repr

structure StorageFault where
  label : String
  cause : StorageCause
deriving Repr

def StorageFault.message (fault : StorageFault) : String :=
  storageMessage fault.label <|
    match fault.cause with
    | .notSynchronous operation => operation ++ " requires a synchronous adapter"
    | .missing => "No adapter configured"
    | .failed reason _ => reason
    | .unfit cause => cause.message

def StorageFault.details (fault : StorageFault) : Details :=
  match fault.cause with
  | .failed _ operation => [("operation", .text operation)]
  | .unfit cause => cause.details
  | _ => []

inductive Fault
  | model (fault : ModelFault)
  | compile (fault : CompileFault)
  | eval (fault : EvalFault)
  | enforce (fault : EnforceFault)
  | storage (fault : StorageFault)
deriving Repr

def Fault.category : Fault → Category
  | .model _ => .model
  | .compile _ => .compile
  | .eval _ => .eval
  | .enforce _ => .enforce
  | .storage _ => .adapter

def Fault.report (fault : Fault) : Report :=
  { category := fault.category
    message := match fault with
      | .model cause => cause.message
      | .compile cause => cause.message
      | .eval cause => cause.message
      | .enforce cause => cause.message
      | .storage cause => cause.message
    details := match fault with
      | .model cause => cause.details
      | .compile cause => cause.details
      | .eval cause => cause.details
      | .enforce cause => cause.details
      | .storage cause => cause.details }

/-- Failures that no report describes. -/
inductive Trap
  | unhashable
  | wrongKind
  | argumentCount
  | indexRange
  | repeatTooLarge
  | conflictingFlags
  | divisionByZero
  | missingAttribute
  | wrongLabels
deriving DecidableEq, Repr

inductive Failure
  | fault (cause : Fault)
  | trap (cause : Trap)
deriving Repr

abbrev Answer := Except Failure

def Failure.model (cause : ModelFault) : Failure := .fault (.model cause)
def Failure.compile (cause : CompileFault) : Failure := .fault (.compile cause)
def Failure.eval (cause : EvalFault) : Failure := .fault (.eval cause)
def Failure.enforce (cause : EnforceFault) : Failure := .fault (.enforce cause)
def Failure.storage (cause : StorageFault) : Failure := .fault (.storage cause)

end AccessControl
