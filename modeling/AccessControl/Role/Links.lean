import AccessControl.Entries
import AccessControl.Fault

namespace AccessControl

def addName (names : List String) (name : String) : List String :=
  if names.contains name then names else names ++ [name]

def addNames (names added : List String) : List String :=
  added.foldl addName names

/-- The names of one domain, each with its roles. A name remains when its links
are gone. -/
abbrev DomainLinks := Entries String (List String)

namespace DomainLinks

def rolesOf (links : DomainLinks) (name : String) : List String :=
  (links.lookup name).getD []

def withName (links : DomainLinks) (name : String) : DomainLinks :=
  Entries.put name (links.rolesOf name) links

def add (links : DomainLinks) (subject role : String) : DomainLinks :=
  withName (Entries.put subject (addName (links.rolesOf subject) role) links) role

def delete (links : DomainLinks) (subject role : String) : DomainLinks :=
  if (links.rolesOf subject).contains role then
    Entries.put subject ((links.rolesOf subject).erase role) links
  else links

def count (links : DomainLinks) : Nat :=
  (links.map fun entry => entry.2.length).foldr (· + ·) 0

end DomainLinks

abbrev RoleLinks := Entries String DomainLinks

namespace RoleLinks

/-- The domain of the links that were made without one. -/
def defaultDomain : String := ""

def inDomain (links : RoleLinks) (domain : String) : DomainLinks :=
  (links.lookup domain).getD []

def add (links : RoleLinks) (subject role domain : String) : RoleLinks :=
  Entries.put domain ((links.inDomain domain).add subject role) links

def delete (links : RoleLinks) (subject role domain : String) : RoleLinks :=
  if (links.lookup domain).isSome then
    Entries.put domain ((links.inDomain domain).delete subject role) links
  else links

def count (links : RoleLinks) : Nat :=
  (links.map fun entry => DomainLinks.count entry.2).foldr (· + ·) 0

/-- The domains in which a subject has a role; the default domain is none. -/
def domainsOf (links : RoleLinks) (subject : String) : List String :=
  (links.filter fun entry =>
    entry.1 != defaultDomain && !(DomainLinks.rolesOf entry.2 subject).isEmpty).map
    (·.1)

end RoleLinks

end AccessControl
