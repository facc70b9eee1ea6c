import AccessControl.Proofs.Entries
import AccessControl.Role.Links
import Mathlib.Data.List.Nodup
import Mathlib.Data.List.Perm.Basic

namespace AccessControl

theorem mem_addName {names : List String} {name other : String} :
    other ∈ addName names name ↔ other ∈ names ∨ other = name := by
  unfold addName
  split
  · next known =>
      rw [List.contains_iff_mem] at known
      constructor
      · exact .inl
      · rintro (old | rfl)
        · exact old
        · exact known
  · simp

theorem nodup_addName {names : List String} (nodup : names.Nodup) (name : String) :
    (addName names name).Nodup := by
  unfold addName
  split
  · exact nodup
  · next new =>
      rw [List.contains_iff_mem] at new
      exact nodup.append (List.nodup_singleton name) (List.disjoint_singleton.mpr new)

theorem nodup_addNames {names : List String} (nodup : names.Nodup) (added : List String) :
    (addNames names added).Nodup := by
  induction added generalizing names with
  | nil => exact nodup
  | cons name added ih => exact ih (nodup_addName nodup name)

theorem mem_addNames {names added : List String} {other : String} :
    other ∈ addNames names added ↔ other ∈ names ∨ other ∈ added := by
  induction added generalizing names with
  | nil => simp [addNames]
  | cons name added ih =>
      rw [addNames, List.foldl_cons, ← addNames, ih, mem_addName, List.mem_cons, or_assoc]

namespace DomainLinks

def Has (links : DomainLinks) (subject role : String) : Prop :=
  role ∈ links.rolesOf subject

def Knows (links : DomainLinks) (name : String) : Prop :=
  name ∈ Entries.keys links

/-- Names and their roles occur once, and all roles are names. -/
structure Sound (links : DomainLinks) : Prop where
  nodup : (Entries.keys links).Nodup
  distinct : ∀ name, (links.rolesOf name).Nodup
  knows : ∀ {subject role}, links.Has subject role → links.Knows role

theorem sound_nil : Sound [] :=
  ⟨.nil, fun _ => .nil, fun has => by cases has⟩

theorem Has.knows {links : DomainLinks} {subject role : String}
    (has : links.Has subject role) : links.Knows subject := by
  unfold Has rolesOf at has
  cases found : links.lookup subject with
  | none =>
      rw [found] at has
      cases has
  | some roles => exact Entries.mem_keys_of_lookup found

theorem rolesOf_put_self (links : DomainLinks) (name : String) (roles : List String) :
    rolesOf (Entries.put name roles links) name = roles := by
  simp [rolesOf, Entries.lookup_put_self]

theorem rolesOf_put_of_ne (links : DomainLinks) {name other : String}
    (different : other ≠ name) (roles : List String) :
    rolesOf (Entries.put name roles links) other = links.rolesOf other := by
  simp [rolesOf, Entries.lookup_put_of_ne different]

theorem rolesOf_withName (links : DomainLinks) (name other : String) :
    (links.withName name).rolesOf other = links.rolesOf other := by
  by_cases same : other = name
  · rw [same]
    exact rolesOf_put_self _ _ _
  · exact rolesOf_put_of_ne _ same _

theorem rolesOf_of_mem {links : DomainLinks} (sound : links.Sound)
    {entry : String × List String} (member : entry ∈ links) :
    links.rolesOf entry.1 = entry.2 := by
  rw [rolesOf, Entries.lookup_of_mem sound.nodup member, Option.getD_some]

theorem rolesOf_add_self (links : DomainLinks) (subject role : String) :
    (links.add subject role).rolesOf subject = addName (links.rolesOf subject) role := by
  rw [add, rolesOf_withName, rolesOf_put_self]

theorem rolesOf_add_of_ne (links : DomainLinks) {subject other : String}
    (different : other ≠ subject) (role : String) :
    (links.add subject role).rolesOf other = links.rolesOf other := by
  rw [add, rolesOf_withName, rolesOf_put_of_ne links different]

theorem has_add {links : DomainLinks} {subject role other target : String} :
    (links.add subject role).Has other target ↔
      other = subject ∧ target = role ∨ links.Has other target := by
  unfold Has
  by_cases same : other = subject
  · subst same
    rw [rolesOf_add_self, mem_addName]
    tauto
  · rw [rolesOf_add_of_ne links same]
    simp [same]

theorem knows_put {links : DomainLinks} {name other : String} {roles : List String} :
    Knows (Entries.put name roles links) other ↔ other = name ∨ links.Knows other :=
  Entries.mem_keys_put_iff

theorem knows_add {links : DomainLinks} {subject role name : String} :
    (links.add subject role).Knows name ↔
      name = role ∨ name = subject ∨ links.Knows name := by
  rw [add, withName, knows_put, knows_put]

theorem Sound.add {links : DomainLinks} (sound : links.Sound) (subject role : String) :
    (links.add subject role).Sound where
  nodup := Entries.nodup_keys_put (Entries.nodup_keys_put sound.nodup)
  distinct name := by
    by_cases same : name = subject
    · rw [same, rolesOf_add_self]
      exact nodup_addName (sound.distinct subject) role
    · rw [rolesOf_add_of_ne links same]
      exact sound.distinct name
  knows has := by
    rw [knows_add]
    rcases has_add.mp has with ⟨-, rfl⟩ | old
    · exact .inl rfl
    · exact .inr (.inr (sound.knows old))

theorem has_delete {links : DomainLinks} (sound : links.Sound)
    {subject role other target : String} :
    (links.delete subject role).Has other target ↔
      links.Has other target ∧ ¬ (other = subject ∧ target = role) := by
  unfold delete Has
  split
  · by_cases same : other = subject
    · subst same
      rw [rolesOf_put_self, (sound.distinct other).mem_erase_iff]
      tauto
    · rw [rolesOf_put_of_ne links same]
      simp [same]
  · next absent =>
      rw [List.contains_iff_mem] at absent
      constructor
      · intro has
        refine ⟨has, ?_⟩
        rintro ⟨rfl, rfl⟩
        exact absent has
      · exact And.left

theorem knows_delete {links : DomainLinks} {subject role name : String} :
    (links.delete subject role).Knows name ↔ links.Knows name := by
  unfold delete
  split
  · next present =>
      have known : links.Knows subject := Has.knows (List.contains_iff_mem.mp present)
      rw [knows_put]
      constructor
      · rintro (rfl | old)
        · exact known
        · exact old
      · exact .inr
  · rfl

theorem Sound.delete {links : DomainLinks} (sound : links.Sound) (subject role : String) :
    (links.delete subject role).Sound where
  nodup := by
    unfold DomainLinks.delete
    split
    · exact Entries.nodup_keys_put sound.nodup
    · exact sound.nodup
  distinct name := by
    unfold DomainLinks.delete
    split
    · by_cases same : name = subject
      · rw [same, rolesOf_put_self]
        exact (sound.distinct subject).erase role
      · rw [rolesOf_put_of_ne links same]
        exact sound.distinct name
    · exact sound.distinct name
  knows has := knows_delete.mpr (sound.knows ((has_delete sound).mp has).1)

end DomainLinks

namespace RoleLinks

def Has (links : RoleLinks) (subject role domain : String) : Prop :=
  (links.inDomain domain).Has subject role

def Knows (links : RoleLinks) (name domain : String) : Prop :=
  (links.inDomain domain).Knows name

structure Sound (links : RoleLinks) : Prop where
  nodup : (Entries.keys links).Nodup
  domains : ∀ domain, (links.inDomain domain).Sound

theorem sound_nil : Sound [] :=
  ⟨.nil, fun _ => DomainLinks.sound_nil⟩

theorem Has.knows {links : RoleLinks} {subject role domain : String}
    (has : links.Has subject role domain) : links.Knows subject domain :=
  DomainLinks.Has.knows has

theorem Sound.knows {links : RoleLinks} (sound : links.Sound) {subject role domain : String}
    (has : links.Has subject role domain) : links.Knows role domain :=
  (sound.domains domain).knows has

theorem inDomain_put_self (links : RoleLinks) (domain : String) (others : DomainLinks) :
    inDomain (Entries.put domain others links) domain = others := by
  simp [inDomain, Entries.lookup_put_self]

theorem inDomain_put_of_ne (links : RoleLinks) {domain other : String}
    (different : other ≠ domain) (others : DomainLinks) :
    inDomain (Entries.put domain others links) other = links.inDomain other := by
  simp [inDomain, Entries.lookup_put_of_ne different]

theorem inDomain_of_mem {links : RoleLinks} (sound : links.Sound)
    {entry : String × DomainLinks} (member : entry ∈ links) :
    links.inDomain entry.1 = entry.2 := by
  rw [inDomain, Entries.lookup_of_mem sound.nodup member, Option.getD_some]

theorem mem_of_has {links : RoleLinks} {subject role domain : String}
    (has : links.Has subject role domain) : (domain, links.inDomain domain) ∈ links := by
  unfold Has inDomain at has
  unfold inDomain
  cases found : links.lookup domain with
  | none =>
      rw [found] at has
      cases has
  | some others => exact Entries.mem_of_lookup found

theorem inDomain_delete (links : RoleLinks) (subject role domain : String) :
    (links.delete subject role domain).inDomain domain =
      (links.inDomain domain).delete subject role := by
  unfold delete
  split
  · exact inDomain_put_self _ _ _
  · next absent =>
      rw [Option.not_isSome_iff_eq_none] at absent
      simp [inDomain, absent, DomainLinks.delete, DomainLinks.rolesOf]

theorem inDomain_delete_of_ne (links : RoleLinks) (subject role : String)
    {domain other : String} (different : other ≠ domain) :
    (links.delete subject role domain).inDomain other = links.inDomain other := by
  unfold delete
  split
  · exact inDomain_put_of_ne links different _
  · rfl

theorem has_add {links : RoleLinks} {subject role domain other target place : String} :
    (links.add subject role domain).Has other target place ↔
      (other = subject ∧ target = role ∧ place = domain) ∨ links.Has other target place := by
  unfold Has add
  by_cases same : place = domain
  · subst same
    rw [inDomain_put_self, DomainLinks.has_add]
    simp
  · rw [inDomain_put_of_ne links same]
    simp [same]

theorem knows_add {links : RoleLinks} {subject role domain name place : String} :
    (links.add subject role domain).Knows name place ↔
      (place = domain ∧ (name = role ∨ name = subject)) ∨ links.Knows name place := by
  unfold Knows add
  by_cases same : place = domain
  · subst same
    rw [inDomain_put_self, DomainLinks.knows_add]
    simp [or_assoc]
  · rw [inDomain_put_of_ne links same]
    simp [same]

theorem Sound.add {links : RoleLinks} (sound : links.Sound) (subject role domain : String) :
    (links.add subject role domain).Sound where
  nodup := Entries.nodup_keys_put sound.nodup
  domains place := by
    unfold RoleLinks.add
    by_cases same : place = domain
    · rw [same, inDomain_put_self]
      exact (sound.domains domain).add subject role
    · rw [inDomain_put_of_ne links same]
      exact sound.domains place

theorem has_delete {links : RoleLinks} (sound : links.Sound)
    {subject role domain other target place : String} :
    (links.delete subject role domain).Has other target place ↔
      links.Has other target place ∧
        ¬ (other = subject ∧ target = role ∧ place = domain) := by
  unfold Has
  by_cases same : place = domain
  · subst same
    rw [inDomain_delete, DomainLinks.has_delete (sound.domains place)]
    simp
  · rw [inDomain_delete_of_ne links subject role same]
    simp [same]

theorem Sound.delete {links : RoleLinks} (sound : links.Sound)
    (subject role domain : String) : (links.delete subject role domain).Sound where
  nodup := by
    unfold RoleLinks.delete
    split
    · exact Entries.nodup_keys_put sound.nodup
    · exact sound.nodup
  domains place := by
    by_cases same : place = domain
    · rw [same, inDomain_delete]
      exact (sound.domains domain).delete subject role
    · rw [inDomain_delete_of_ne links subject role same]
      exact sound.domains place

def all (links : RoleLinks) : List (String × String × String) :=
  links.flatMap fun entry => entry.2.flatMap fun named =>
    named.2.map fun role => (named.1, role, entry.1)

theorem length_all (links : RoleLinks) : links.all.length = links.count := by
  have inner : ∀ (domain : String) (others : DomainLinks),
      (others.flatMap fun named =>
        named.2.map fun role => (named.1, role, domain)).length = others.count := by
    intro domain others
    simp only [List.length_flatMap, List.length_map]
    rfl
  simp only [all, List.length_flatMap, inner]
  rfl

theorem mem_all {links : RoleLinks} (sound : links.Sound) {subject role domain : String} :
    (subject, role, domain) ∈ links.all ↔ links.Has subject role domain := by
  simp only [all, List.mem_flatMap, List.mem_map, Prod.mk.injEq]
  constructor
  · rintro ⟨entry, inside, named, there, target, has, rfl, rfl, rfl⟩
    rw [Has, inDomain_of_mem sound inside, DomainLinks.Has]
    have others := sound.domains entry.1
    rw [inDomain_of_mem sound inside] at others
    rwa [DomainLinks.rolesOf_of_mem others there]
  · intro has
    unfold Has inDomain at has
    cases found : links.lookup domain with
    | none =>
        rw [found] at has
        cases has
    | some others =>
        rw [found, Option.getD_some, DomainLinks.Has, DomainLinks.rolesOf] at has
        cases named : others.lookup subject with
        | none =>
            rw [named] at has
            cases has
        | some roles =>
            rw [named, Option.getD_some] at has
            exact ⟨(domain, others), Entries.mem_of_lookup found, (subject, roles),
              Entries.mem_of_lookup named, role, has, rfl, rfl, rfl⟩

theorem nodup_all {links : RoleLinks} (sound : links.Sound) : links.all.Nodup := by
  rw [all, List.nodup_flatMap]
  constructor
  · intro entry inside
    have others := sound.domains entry.1
    rw [inDomain_of_mem sound inside] at others
    rw [List.nodup_flatMap]
    constructor
    · intro named there
      have roles := others.distinct named.1
      rw [DomainLinks.rolesOf_of_mem others there] at roles
      exact roles.map fun _ _ same => (Prod.mk.inj (Prod.mk.inj same).2).1
    · have apart := List.pairwise_map.mp others.nodup
      refine apart.imp fun different => List.disjoint_left.mpr ?_
      simp only [List.mem_map, not_exists, not_and]
      rintro _ ⟨_, -, rfl⟩ _ _ same
      exact different (Prod.mk.inj same).1.symm
  · have apart := List.pairwise_map.mp sound.nodup
    refine apart.imp fun different => List.disjoint_left.mpr ?_
    simp only [List.mem_flatMap, List.mem_map, not_exists, not_and]
    rintro _ ⟨_, -, _, -, rfl⟩ _ _ _ _ same
    exact different (Prod.mk.inj (Prod.mk.inj same).2).2.symm

theorem count_eq {links : RoleLinks} (sound : links.Sound)
    {held : List (String × String × String)} (nodup : held.Nodup)
    (has_iff : ∀ subject role domain,
      (subject, role, domain) ∈ held ↔ links.Has subject role domain) :
    links.count = held.length := by
  rw [← length_all]
  refine ((List.perm_ext_iff_of_nodup (nodup_all sound) nodup).mpr ?_).length_eq
  rintro ⟨subject, role, domain⟩
  rw [mem_all sound, has_iff]

end RoleLinks

end AccessControl
