import AccessControl.Role.Links

namespace AccessControl

/-- Whether a name fits a name of the graph that is taken as a pattern. -/
abbrev NameMatching := String → String → Answer Bool

structure RoleGraph where
  levels : Nat
  links : RoleLinks
  names? : Option NameMatching
  domains? : Option NameMatching

namespace RoleGraph

def empty (levels : Nat) : RoleGraph :=
  { levels, links := [], names? := none, domains? := none }

/-- A graph has no negative number of levels. -/
def ofLevels? (levels : Int) : Option RoleGraph :=
  if levels < 0 then none else some (empty levels.toNat)

def withLinks (graph : RoleGraph) (links : RoleLinks) : RoleGraph :=
  { graph with links }

def addLink (graph : RoleGraph) (subject role domain : String) : RoleGraph :=
  graph.withLinks (graph.links.add subject role domain)

def deleteLink (graph : RoleGraph) (subject role domain : String) : RoleGraph :=
  graph.withLinks (graph.links.delete subject role domain)

def clear (graph : RoleGraph) : RoleGraph :=
  graph.withLinks []

/-- The links that hold in a domain: those of the domain, and those of domains
whose pattern it fits. -/
def linksFor (graph : RoleGraph) (domain : String) : Answer (List DomainLinks) :=
  match graph.domains? with
  | some fits =>
      if domain = RoleLinks.defaultDomain then
        return (graph.links.lookup domain).toList
      else do
        let fitting ← graph.links.filterM fun entry =>
          if entry.1 == domain then pure true else fits domain entry.1
        return fitting.map (·.2)
  | none => return (graph.links.lookup domain).toList

/-- A name that fits a pattern has the pattern as a role, and its roles. -/
def joinPattern (fits : NameMatching) (name : String) (found : List String)
    (entry : String × List String) : Answer (List String) := do
  if entry.1 != name then
    if ← fits name entry.1 then
      return addNames (addName found entry.1) entry.2
  return found

def joinDomain (graph : RoleGraph) (name : String) (found : List String)
    (links : DomainLinks) : Answer (List String) :=
  let found := addNames found (links.rolesOf name)
  match graph.names? with
  | some fits => links.foldlM (joinPattern fits name) found
  | none => .ok found

/-- The roles one link away from a name. -/
def neighbours (graph : RoleGraph) (domains : List DomainLinks) (name : String) :
    Answer (List String) := do
  let found ← domains.foldlM (graph.joinDomain name) []
  return found.filter (· != name)

/-- What one round finds: the target, or names that were not seen before. -/
inductive Round
  | found
  | fresh (seen next : List String)

def round (graph : RoleGraph) (domains : List DomainLinks) (target : String)
    (seen next : List String) : List String → Answer Round
  | [] => return .fresh seen next
  | name :: names => do
      let around ← graph.neighbours domains name
      if around.contains target then return .found
      else
        let fresh := around.filter fun other => !seen.contains other
        graph.round domains target (seen ++ fresh) (next ++ fresh) names

def reaches (graph : RoleGraph) (domains : List DomainLinks) (target : String)
    (seen names : List String) : Nat → Answer Bool
  | 0 => return false
  | depth + 1 => do
      match ← graph.round domains target seen [] names with
      | .found => return true
      | .fresh seen next =>
          if next.isEmpty then return false
          else graph.reaches domains target seen next depth

/-- Whether a subject is the role, or has it over so many links at most. -/
def hasLink (graph : RoleGraph) (subject role domain : String)
    (depth : Option Int) : Answer Bool := do
  if subject = role then return true
  let domains ← graph.linksFor domain
  if domains.isEmpty then return false
  graph.reaches domains role [subject] [subject]
    ((depth.getD graph.levels).toNat)

def roles (graph : RoleGraph) (subject domain : String) :
    Answer (List String) := do
  graph.neighbours (← graph.linksFor domain) subject

def implicitRound (graph : RoleGraph) (domains : List DomainLinks)
    (subject : String) (seen next : List String) :
    List String → Answer (List String × List String)
  | [] => return (seen, next)
  | name :: names => do
      let around ← graph.neighbours domains name
      let fresh := around.filter fun other =>
        other != subject && !seen.contains other
      graph.implicitRound domains subject (seen ++ fresh) (next ++ fresh) names

def implicitFrom (graph : RoleGraph) (domains : List DomainLinks)
    (subject : String) (seen names : List String) : Nat → Answer (List String)
  | 0 => return seen
  | depth + 1 => do
      let (seen, next) ← graph.implicitRound domains subject seen [] names
      if next.isEmpty then return seen
      else graph.implicitFrom domains subject seen next depth

/-- All roles that a subject has within the levels of the graph, nearest first. -/
def implicitRoles (graph : RoleGraph) (subject domain : String) :
    Answer (List String) := do
  graph.implicitFrom (← graph.linksFor domain) subject [] [subject] graph.levels

def users (graph : RoleGraph) (role domain : String) : Answer (List String) := do
  let domains ← graph.linksFor domain
  let names := domains.flatMap Entries.keys
  let holders ← names.filterM fun name =>
    if name == role then pure false
    else return (← graph.neighbours domains name).contains role
  return addNames [] holders

def domainsOf (graph : RoleGraph) (subject : String) : List String :=
  graph.links.domainsOf subject

def linkCount (graph : RoleGraph) : Nat :=
  graph.links.count

end RoleGraph

end AccessControl
