import AccessControl.DecisionCache
import AccessControl.Metrics
import AccessControl.Model.Basic
import AccessControl.Policy.Table
import AccessControl.Predicate.Basic
import AccessControl.Role.Graph
import AccessControl.Settings
import AccessControl.Storage.Lines

namespace AccessControl

/-- A function that an application adds, and the label under which its calls are
recorded. -/
structure CustomFunction where
  run : Matcher.Function
  label? : Option String

structure RoleMatching where
  names? : Option NameMatching
  domains? : Option NameMatching

def RoleMatching.exact : RoleMatching := ⟨none, none⟩

/-- Settings that may change while the enforcer is in use. -/
structure Switches where
  enabled : Bool
  autoSave : Bool
  notifyWatcher : Bool
  buildRoleLinks : Bool
  cacheEnabled : Bool
deriving DecidableEq, Repr

def Settings.switches (settings : Settings) : Switches :=
  { enabled := settings.enabled
    autoSave := settings.autoSave
    notifyWatcher := settings.notifyWatcher
    buildRoleLinks := settings.buildRoleLinks
    cacheEnabled := settings.cacheEnabled }

structure Enforcer where
  settings : Settings
  switches : Switches
  functions : Entries String CustomFunction
  matchings : Entries String RoleMatching
  model : Model
  matchers : Entries String Matcher
  table : PolicyTable
  graphs : Entries String RoleGraph
  cache : DecisionCache
  version : Nat
  metrics? : Option Metrics

namespace Enforcer

def record (enforcer : Enforcer) (change : Metrics → Metrics) : Enforcer :=
  { enforcer with metrics? := enforcer.metrics?.map change }

def knownFunctions (functions : Entries String CustomFunction) (model : Model) :
    List String :=
  Predicate.all.map Predicate.name ++ Entries.keys functions
    ++ Entries.keys model.roles

def compileMatchers (functions : Entries String CustomFunction) (model : Model) :
    Answer (Entries String Matcher) :=
  model.matchers.mapM fun entry => do
    let fields ← model.matcherFields entry.1
    return (entry.1,
      ← Matcher.compile entry.2 fields (knownFunctions functions model))

/-- Whether the first text has the second one as a role, in a domain if the role
has domains. -/
def rolePredicate (role : String) (scope : RoleScope) (graph : RoleGraph) :
    Matcher.Function := fun arguments =>
  if arguments.length ≠ scope.arity then
    .error (.eval (.roleArity role scope.arity arguments.length))
  else
    match scope, arguments with
    | .everywhere, [.text subject, .text target] => do
        return .bool (← graph.hasLink subject target RoleLinks.defaultDomain none)
    | .inDomain, [.text subject, .text target, .text domain] => do
        return .bool (← graph.hasLink subject target domain none)
    | _, _ => .error (.eval (.roleNotText role))

/-- The function that a name calls: a role comes first, then what the
application adds, then the predicates. -/
def function? (enforcer : Enforcer) (name : String) : Option Matcher.Function :=
  match enforcer.graphs.lookup name, enforcer.model.roles.lookup name with
  | some graph, some scope => some (rolePredicate name scope graph)
  | _, _ =>
      match enforcer.functions.lookup name with
      | some function => some function.run
      | none => Predicate.function? name

def callLabel? (enforcer : Enforcer) (name : String) : Option String :=
  if (enforcer.graphs.lookup name).isSome then none
  else (enforcer.functions.lookup name).bind (·.label?)

def newTable (settings : Settings) (model : Model) : PolicyTable :=
  if settings.uniquePolicies then
    model.rowKeys.foldl (fun table key => table.setUnique key true) .empty
  else .empty

def newGraphs (settings : Settings) (matchings : Entries String RoleMatching)
    (model : Model) : Entries String RoleGraph :=
  model.roles.map fun entry =>
    let matching := (matchings.lookup entry.1).getD .exact
    (entry.1,
      { levels := settings.levels
        links := []
        names? := matching.names?
        domains? := matching.domains? })

def linkOf? (scope : RoleScope) (row : Row) : Option (String × String × String) :=
  match scope, row with
  | .everywhere, subject :: role :: _ =>
      some (subject, role, RoleLinks.defaultDomain)
  | .inDomain, subject :: role :: domain :: _ => some (subject, role, domain)
  | _, _ => none

def addRow (scope : RoleScope) (graph : RoleGraph) (row : Row) : RoleGraph :=
  match linkOf? scope row with
  | some (subject, role, domain) => graph.addLink subject role domain
  | none => graph

def deleteRow (scope : RoleScope) (graph : RoleGraph) (row : Row) : RoleGraph :=
  match linkOf? scope row with
  | some (subject, role, domain) => graph.deleteLink subject role domain
  | none => graph

def linkAll (model : Model) (table : PolicyTable)
    (graphs : Entries String RoleGraph) : Entries String RoleGraph :=
  graphs.map fun entry =>
    match model.roles.lookup entry.1 with
    | some scope => (entry.1, (table.rows entry.1).foldl (addRow scope) entry.2)
    | none => entry

/-- Puts stored lines into a table; a unique key takes the first of equal ones. -/
def stageRows (model : Model) (table : PolicyTable) :
    Lines → Except RowFault PolicyTable
  | [] => return table
  | line :: lines => do
      let row ← model.readRow line.key line.fields
      stageRows model ((table.insert? line.key row).getD table) lines

def stage (enforcer : Enforcer) (model : Model) (lines : Lines) :
    Except RowFault (PolicyTable × Entries String RoleGraph) := do
  let table ← stageRows model (newTable enforcer.settings model) lines
  let graphs := newGraphs enforcer.settings enforcer.matchings model
  return (table,
    if enforcer.switches.buildRoleLinks then linkAll model table graphs
    else graphs)

def linesUnder (table : PolicyTable) (keys : List String) : Lines :=
  keys.flatMap fun key =>
    (table.rows key).map fun row => ⟨key, row.map .text⟩

/-- All rows of the enforcer, in the order of the keys of the model. -/
def lines (enforcer : Enforcer) : Lines :=
  linesUnder enforcer.table enforcer.model.rowKeys

def build (settings : Settings) (functions : Entries String CustomFunction)
    (metrics? : Option Metrics) (model : Model) : Answer Enforcer := do
  let matchers ← compileMatchers functions model
  return {
    settings
    switches := settings.switches
    functions
    matchings := []
    model
    matchers
    table := newTable settings model
    graphs := newGraphs settings [] model
    cache := .empty settings.cacheLimit
    version := 0
    metrics? }

end Enforcer

end AccessControl
