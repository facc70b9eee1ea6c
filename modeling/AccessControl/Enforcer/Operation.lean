import AccessControl.Command.Mutation
import AccessControl.Enforcer.Lifecycle
import AccessControl.Enforcer.Queries
import AccessControl.Role.Operation

namespace AccessControl

namespace Enforcer

inductive Question
  | rows (key : String)
  | filteredRows (key : String) (filter : RowFilter)
  | hasRow (key : String) (fields : Fields)
  | rolesFor (name domain role : String)
  | usersFor (name domain role : String)
  | implicitRolesFor (name domain role : String)
  | hasRoleFor (name target domain role : String)
  | domainsFor (name role : String)
  | subjects (key : String)
  | objects (key : String)
  | actions (key : String)
  | roleNames (role : String)

/-- The answer to a question, and the enforcer, which may remember fields. -/
def answer (enforcer : Enforcer) (question : Question) :
    Answer Reply × Enforcer :=
  let texts (answer : Answer (List String)) : Answer Reply × Enforcer :=
    (answer.map Reply.texts, enforcer)
  match question with
  | .rows key => (.ok (.rows (enforcer.rows key)), enforcer)
  | .filteredRows key filter =>
      match enforcer.filteredRows key filter with
      | .ok (rows, enforcer) => (.ok (.rows rows), enforcer)
      | .error failure => (.error failure, enforcer)
  | .hasRow key fields => ((enforcer.hasRow key fields).map Reply.flag, enforcer)
  | .rolesFor name domain role => texts (enforcer.rolesFor name domain role)
  | .usersFor name domain role => texts (enforcer.usersFor name domain role)
  | .implicitRolesFor name domain role =>
      texts (enforcer.implicitRolesFor name domain role)
  | .hasRoleFor name target domain role =>
      ((enforcer.hasRoleFor name target domain role).map Reply.flag, enforcer)
  | .domainsFor name role => texts (enforcer.domainsFor name role)
  | .subjects key => texts (enforcer.subjects key)
  | .objects key => texts (enforcer.objects key)
  | .actions key => texts (enforcer.actions key)
  | .roleNames role => texts (enforcer.roleNames role)

inductive Adjustment
  | enable (enabled : Bool)
  | enableCache (enabled : Bool)
  | enableAutoSave (enabled : Bool)
  | enableNotifyWatcher (enabled : Bool)
  | enableBuildRoleLinks (enabled : Bool)
  | clear
  | rebuildLinks
  | matchNames (role : String) (names? : Option NameMatching)
  | matchDomains (role : String) (domains? : Option NameMatching)
  | loadModel (model : Model)

def tried (enforcer : Enforcer) : Answer Enforcer → Answer Unit × Enforcer
  | .ok adjusted => (.ok (), adjusted)
  | .error failure => (.error failure, enforcer)

def adjust (enforcer : Enforcer) : Adjustment → Answer Unit × Enforcer
  | .enable enabled => (.ok (), enforcer.enable enabled)
  | .enableCache enabled => (.ok (), enforcer.enableCache enabled)
  | .enableAutoSave enabled => (.ok (), enforcer.enableAutoSave enabled)
  | .enableNotifyWatcher enabled => (.ok (), enforcer.enableNotifyWatcher enabled)
  | .enableBuildRoleLinks enabled =>
      (.ok (), enforcer.enableBuildRoleLinks enabled)
  | .clear => (.ok (), enforcer.clear)
  | .rebuildLinks => (.ok (), enforcer.rebuildLinks)
  | .matchNames role names? =>
      enforcer.tried ((enforcer.setNameMatching role names?).mapError .enforce)
  | .matchDomains role domains? =>
      enforcer.tried ((enforcer.setDomainMatching role domains?).mapError .enforce)
  | .loadModel model => enforcer.tried (enforcer.loadModel model)

private def placed? (command : Command) : Option (String × String × String) := do
  let [name, domain, role] ← command.bind? 1 ["name", "domain", "gtype"] | none
  return (name.asText, RoleLinks.domainOf domain, role.asTextOr "g")

def Question.ofCommand? (command : Command) : Option Question :=
  match command.name with
  | "get_policy" => some (.rows "p")
  | "get_grouping_policy" => some (.rows "g")
  | "get_named_policy" => (command.key? "ptype").map .rows
  | "get_named_grouping_policy" => (command.key? "gtype").map .rows
  | "get_filtered_policy" => command.filter?.map (.filteredRows "p")
  | "get_filtered_grouping_policy" => command.filter?.map (.filteredRows "g")
  | "get_filtered_named_policy" => do
      let (key, filter) ← command.keyedFilter?
      return .filteredRows key filter
  | "has_policy" => command.row?.map (.hasRow "p")
  | "has_grouping_policy" => command.row?.map (.hasRow "g")
  | "has_named_policy" => do
      let (key, fields) ← command.keyedRow? "ptype"
      return .hasRow key fields
  | "get_roles_for_user" => do
      let (name, domain, role) ← placed? command
      return .rolesFor name domain role
  | "get_users_for_role" => do
      let (name, domain, role) ← placed? command
      return .usersFor name domain role
  | "get_implicit_roles_for_user" => do
      let (name, domain, role) ← placed? command
      return .implicitRolesFor name domain role
  | "has_role_for_user" => do
      let [name, target, domain, role] ←
        command.bind? 2 ["name", "role", "domain", "gtype"] | none
      return .hasRoleFor name.asText target.asText (RoleLinks.domainOf domain)
        (role.asTextOr "g")
  | "get_domains_for_user" => do
      let [name, role] ← command.bind? 1 ["name", "gtype"] | none
      return .domainsFor name.asText (role.asTextOr "g")
  | "get_all_subjects" => (command.keyOr? "p" "ptype").map .subjects
  | "get_all_objects" => (command.keyOr? "p" "ptype").map .objects
  | "get_all_actions" => (command.keyOr? "p" "ptype").map .actions
  | "get_all_roles" => (command.keyOr? "g" "gtype").map .roleNames
  | _ => none

/-- Whether something is to be enabled; it is if nothing is said. -/
private def enabled? (command : Command) : Option Bool := do
  let [enabled] ← command.bind? 0 ["enabled"] | none
  return (command.arguments.isEmpty && command.named.isEmpty) || enabled.truthy

private def matching? (command : Command) :
    Option (String × Option NameMatching) := do
  let [role, name] ← command.bind? 2 ["gtype", "fn"] | none
  return (role.asText, NameMatching.ofValue? name)

def Adjustment.ofCommand? (command : Command) : Option Adjustment :=
  match command.name with
  | "enable_enforce" => (enabled? command).map .enable
  | "enable_cache" => (enabled? command).map .enableCache
  | "enable_auto_save" => (enabled? command).map .enableAutoSave
  | "enable_auto_notify_watcher" => (enabled? command).map .enableNotifyWatcher
  | "enable_auto_build_role_links" =>
      (enabled? command).map .enableBuildRoleLinks
  | "clear_policy" => some .clear
  | "build_role_links" => some .rebuildLinks
  | "add_matching_fn" => do
      let (role, names?) ← matching? command
      return .matchNames role names?
  | "add_domain_matching_fn" => do
      let (role, domains?) ← matching? command
      return .matchDomains role domains?
  | _ => none

end Enforcer

end AccessControl
