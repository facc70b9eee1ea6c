import AccessControl.Command.Basic
import AccessControl.Predicate.Basic
import AccessControl.Role.Graph

namespace AccessControl

/-- The matching that a value names; a value that names no predicate stands for
none, so that names are taken as they are. -/
def NameMatching.ofValue? (value : Value) : Option NameMatching :=
  (value.text?.bind Predicate.ofName?).map Predicate.holds

def RoleLinks.domainOf (value : Value) : String :=
  value.asTextOr defaultDomain

namespace RoleGraph

inductive Operation
  | addLink (subject role domain : String)
  | deleteLink (subject role domain : String)
  | hasLink (subject role domain : String) (depth : Option Int)
  | roles (subject domain : String)
  | users (role domain : String)
  | implicitRoles (subject domain : String)
  | domains (subject : String)
  | clear
  | linkCount
  | matchNames (names? : Option NameMatching)
  | matchDomains (domains? : Option NameMatching)

def perform (graph : RoleGraph) : Operation → Answer Reply × RoleGraph
  | .addLink subject role domain =>
      (.ok .done, graph.addLink subject role domain)
  | .deleteLink subject role domain =>
      (.ok .done, graph.deleteLink subject role domain)
  | .hasLink subject role domain depth =>
      ((graph.hasLink subject role domain depth).map Reply.flag, graph)
  | .roles subject domain => ((graph.roles subject domain).map Reply.texts, graph)
  | .users role domain => ((graph.users role domain).map Reply.texts, graph)
  | .implicitRoles subject domain =>
      ((graph.implicitRoles subject domain).map Reply.texts, graph)
  | .domains subject => (.ok (.texts (graph.domainsOf subject)), graph)
  | .clear => (.ok .done, graph.clear)
  | .linkCount => (.ok (.count graph.linkCount), graph)
  | .matchNames names? => (.ok .done, { graph with names? })
  | .matchDomains domains? => (.ok .done, { graph with domains? })

namespace Operation

private def depthOf : Value → Option Int
  | .int number => some number
  | _ => none

def ofCommand? (command : Command) : Option Operation :=
  match command.name with
  | "add_link" => do
      let [subject, role, domain] ←
        command.bind? 2 ["subject", "role", "domain"] | none
      return .addLink subject.asText role.asText (RoleLinks.domainOf domain)
  | "delete_link" => do
      let [subject, role, domain] ←
        command.bind? 2 ["subject", "role", "domain"] | none
      return .deleteLink subject.asText role.asText (RoleLinks.domainOf domain)
  | "has_link" => do
      let [subject, role, domain, depth] ←
        command.bind? 2 ["subject", "role", "domain", "max_depth"] | none
      return .hasLink subject.asText role.asText (RoleLinks.domainOf domain)
        (depthOf depth)
  | "get_roles" => do
      let [subject, domain] ← command.bind? 1 ["subject", "domain"] | none
      return .roles subject.asText (RoleLinks.domainOf domain)
  | "get_users" => do
      let [role, domain] ← command.bind? 1 ["role", "domain"] | none
      return .users role.asText (RoleLinks.domainOf domain)
  | "get_implicit_roles" => do
      let [subject, domain] ← command.bind? 1 ["subject", "domain"] | none
      return .implicitRoles subject.asText (RoleLinks.domainOf domain)
  | "get_domains" => do
      let [subject] ← command.bind? 1 ["subject"] | none
      return .domains subject.asText
  | "clear" => some .clear
  | "link_count" => some .linkCount
  | "add_matching_fn" => do
      let [name] ← command.bind? 1 ["matcher"] | none
      return .matchNames (NameMatching.ofValue? name)
  | "add_domain_matching_fn" => do
      let [name] ← command.bind? 1 ["matcher"] | none
      return .matchDomains (NameMatching.ofValue? name)
  | _ => none

end Operation

def obey (graph : RoleGraph) (command : Command) : Answer Reply × RoleGraph :=
  match Operation.ofCommand? command with
  | some operation => graph.perform operation
  | none => (.error misfit, graph)

end RoleGraph

end AccessControl
