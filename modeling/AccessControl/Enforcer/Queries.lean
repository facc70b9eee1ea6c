import AccessControl.Enforcer.Basic

namespace AccessControl.Enforcer

def rows (enforcer : Enforcer) (key : String) : List Row :=
  enforcer.table.rows key

/-- The rows that a filter accepts. A single value is looked up among the
remembered fields. -/
def filteredRows (enforcer : Enforcer) (key : String) (filter : RowFilter) :
    Answer (List Row × Enforcer) :=
  match filter.values with
  | [value] =>
      if value.isEmpty then .ok (enforcer.table.filtered key filter, enforcer)
      else do
        let (rows, table) ← enforcer.table.withField key filter.start value
        return (rows, { enforcer with table })
  | _ => .ok (enforcer.table.filtered key filter, enforcer)

/-- Whether a row is there; its fields must be fit for comparison by hash. -/
def hasRow (enforcer : Enforcer) (key : String) (fields : List Value) :
    Answer Bool :=
  if !Value.allHashable fields then .error (.trap .unhashable)
  else
    match fields.mapM Value.text? with
    | some row => .ok (enforcer.table.has key row)
    | none => .ok false

def graph (enforcer : Enforcer) (role : String) : Except EnforceFault RoleGraph :=
  match enforcer.graphs.lookup role with
  | some graph => .ok graph
  | none => .error (.unknownRole role)

def askGraph (enforcer : Enforcer) (role : String)
    (question : RoleGraph → Answer α) : Answer α := do
  question (← (enforcer.graph role).mapError .enforce)

def rolesFor (enforcer : Enforcer) (name domain role : String) :
    Answer (List String) :=
  enforcer.askGraph role (·.roles name domain)

def usersFor (enforcer : Enforcer) (name domain role : String) :
    Answer (List String) :=
  enforcer.askGraph role (·.users name domain)

def implicitRolesFor (enforcer : Enforcer) (name domain role : String) :
    Answer (List String) :=
  enforcer.askGraph role (·.implicitRoles name domain)

def hasRoleFor (enforcer : Enforcer) (name target domain role : String) :
    Answer Bool := do
  return (← enforcer.rolesFor name domain role).contains target

def domainsFor (enforcer : Enforcer) (name role : String) :
    Answer (List String) :=
  enforcer.askGraph role fun graph => .ok (graph.domainsOf name)

/-- The values of a field of a policy, or of the field at an index where it has
none of that name. -/
def fieldValues (enforcer : Enforcer) (key field : String) (usual : Nat) :
    Answer (List String) :=
  match enforcer.model.policies.lookup key with
  | none => .ok []
  | some _ => do
      let index? ← (enforcer.model.fieldIndex? key field).mapError .model
      enforcer.table.fieldValues key (index?.getD usual : Nat)

def subjects (enforcer : Enforcer) (key : String) : Answer (List String) :=
  enforcer.fieldValues key "sub" 0

def objects (enforcer : Enforcer) (key : String) : Answer (List String) :=
  enforcer.fieldValues key "obj" 1

def actions (enforcer : Enforcer) (key : String) : Answer (List String) :=
  enforcer.fieldValues key "act" 2

def roleNames (enforcer : Enforcer) (role : String) : Answer (List String) :=
  enforcer.table.fieldValues role 1

structure Stats where
  enabled : Bool
  policyRows : Entries String Nat
  roleLinks : Entries String Nat
  cacheEnabled : Bool
  cache : DecisionCache.Stats
  levels : Nat
deriving DecidableEq, Repr

def stats (enforcer : Enforcer) : Stats :=
  { enabled := enforcer.switches.enabled
    policyRows := enforcer.model.policies.map fun entry =>
      (entry.1, enforcer.table.count entry.1)
    roleLinks := enforcer.graphs.map fun entry => (entry.1, entry.2.linkCount)
    cacheEnabled := enforcer.switches.cacheEnabled
    cache := enforcer.cache.stats
    levels := enforcer.settings.levels }

end AccessControl.Enforcer
