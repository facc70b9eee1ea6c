import AccessControl.Effect
import AccessControl.Matcher.Compiled
import AccessControl.Model.SectionKey
import AccessControl.Model.Shape

namespace AccessControl

structure EffectSection where
  text : String
  rule : EffectRule
deriving DecidableEq, Repr

structure Model where
  requests : List (String × Shape)
  policies : List (String × Shape)
  roles : List (String × RoleScope)
  effects : List (String × EffectSection)
  matchers : List (String × String)
deriving DecidableEq, Repr

namespace Model

/-- The names of the fields that a matcher sees: those of the request and of the
policy that share its number. -/
def pairedFields (requests policies : List (String × Shape))
    (matcherKey suffix : String) : Except ModelFault (List String) :=
  let requestKey := Section.request.key suffix
  let policyKey := Section.policy.key suffix
  match requests.lookup requestKey, policies.lookup policyKey with
  | some request, some policy =>
      .ok (request.map (Matcher.qualified requestKey) ++
        policy.map (Matcher.qualified policyKey))
  | request, policy =>
      .error (.unpairedMatcher matcherKey
        ((if request.isNone then [requestKey] else []) ++
          if policy.isNone then [policyKey] else []))

structure Entry where
  key : String
  place : SectionKey
  definition : Value

def entries : List (Value × Value) → Except ModelFault (List Entry)
  | [] => return []
  | (key, definition) :: rest =>
      match key with
      | .text text =>
          match SectionKey.ofText? text with
          | some place => return ⟨text, place, definition⟩ :: (← entries rest)
          | none => throw (.unknownSection key)
      | _ => throw (.unknownSection key)

def checkRequired (entries : List Entry) : List Section → Except ModelFault Unit
  | [] => return ()
  | kind :: kinds =>
      if entries.any (·.key == kind.key "") then checkRequired entries kinds
      else throw (.missingSection (kind.key "") kind.name)

def readKind (entries : List Entry) (kind : Section)
    (read : Entry → Answer α) : Answer (List (String × α)) :=
  (entries.filter (·.place.kind == kind)).mapM fun entry => do
    return (entry.key, ← read entry)

def readEffect (entry : Entry) : Answer EffectSection :=
  match entry.definition with
  | .text text =>
      match EffectRule.resolve (some text) with
      | .ok rule => .ok ⟨Text.trimmed text, rule⟩
      | .error fault => .error (.model fault)
  | _ => .error (.model (.effectNotText entry.key))

/-- A matcher must be readable, and may name only the fields that it sees. -/
def readMatcher (requests policies : List (String × Shape)) (entry : Entry) :
    Answer String :=
  match entry.definition with
  | .text text => do
      if Text.allBlank text then throw (.model (.emptyMatcher entry.key))
      let known ← (pairedFields requests policies entry.key
        entry.place.suffix).mapError .model
      let (_, used) ← Matcher.read text
      let unknown := used.fields.filter fun name => !known.contains name
      if !unknown.isEmpty then
        throw (.model (.unknownFields entry.key unknown))
      return Text.trimmed text
  | _ => .error (.model (.emptyMatcher entry.key))

/-- The model of a definition whose keys differ from one another. -/
def load (definition : List (Value × Value)) : Answer Model := do
  let entries ← (entries definition).mapError .model
  (checkRequired entries Section.required).mapError .model
  let requests ← readKind entries .request fun entry =>
    (Shape.read entry.key entry.definition).mapError .model
  let policies ← readKind entries .policy fun entry =>
    (Shape.read entry.key entry.definition).mapError .model
  let roles ← readKind entries .role fun entry =>
    (RoleScope.read entry.key entry.definition).mapError .model
  let effects ← readKind entries .effect readEffect
  let matchers ← readKind entries .matcher (readMatcher requests policies)
  return { requests, policies, roles, effects, matchers }

/-- An entry with the key of an earlier one takes its place. -/
def putEntry (key definition : Value) :
    List (Value × Value) → List (Value × Value)
  | [] => [(key, definition)]
  | entry :: entries =>
      if entry.1.same key then (entry.1, definition) :: entries
      else entry :: putEntry key definition entries

def ofEntries (given : List (Value × Value)) : Answer Model := do
  if given.all fun entry => entry.1.hashable then
    load (given.foldl (fun entries entry => putEntry entry.1 entry.2 entries) [])
  else throw (.trap .unhashable)

/-- The model of a value; only a mapping defines one. -/
def ofValue : Value → Answer Model
  | .mapping entries => load (entries.map fun entry => (.text entry.1, entry.2))
  | _ => .error (.model .notMapping)

def fields (model : Model) (key : String) : Except ModelFault Shape :=
  match (model.requests.lookup key).orElse fun _ => model.policies.lookup key with
  | some shape => .ok shape
  | none => .error (.unknownShape key)

def fieldIndex? (model : Model) (key name : String) :
    Except ModelFault (Option Nat) := do
  return (← model.fields key).idxOf? name

def matcherFields (model : Model) (key : String) : Answer (List String) :=
  match SectionKey.ofText? key with
  | some place =>
      ((pairedFields model.requests model.policies key place.suffix).map
        Matcher.sortedNames).mapError .model
  | none => .error (.trap .missingAttribute)

def roleScope (model : Model) (key : String) : Except ModelFault RoleScope :=
  match model.roles.lookup key with
  | some scope => .ok scope
  | none => .error (.unknownRole key)

def rowKeys (model : Model) : List String :=
  model.policies.map (·.1) ++ model.roles.map (·.1)

def arity? (model : Model) (key : String) : Option Nat :=
  match model.policies.lookup key, model.roles.lookup key with
  | some shape, _ => some shape.length
  | none, some scope => some scope.arity
  | none, none => none

/-- Rows have the fields that the model gives them, and all of them are texts. -/
def readRow (model : Model) (key : String) (fields : List Value) :
    Except RowFault (List String) :=
  match model.arity? key with
  | none => .error (.unknownType key)
  | some expected =>
      if fields.length ≠ expected then
        .error (.arity key expected fields.length)
      else
        match fields.mapM Value.text? with
        | some row => .ok row
        | none => .error (.notText key)

def definition (model : Model) : List (String × String) :=
  let join (tokens : List String) := ", ".intercalate tokens
  model.requests.map (fun entry => (entry.1, join entry.2)) ++
    model.policies.map (fun entry => (entry.1, join entry.2)) ++
    model.roles.map (fun entry =>
      (entry.1, join (List.replicate entry.2.arity RoleScope.placeholder))) ++
    model.effects.map (fun entry => (entry.1, entry.2.text)) ++
    model.matchers

end Model

end AccessControl
