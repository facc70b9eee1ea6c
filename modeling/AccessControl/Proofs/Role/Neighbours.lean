import AccessControl.Proofs.Answer
import AccessControl.Proofs.Role.Links
import AccessControl.Role.Graph

namespace AccessControl

/-! The roles one link away from a name, and the names one link away from a role, in a
graph whose matchings always have an answer. -/

def NameMatching.Total (fits : NameMatching) : Prop :=
  ∀ name pattern, ∃ holds, fits name pattern = .ok holds

def Fits (matching? : Option NameMatching) (name pattern : String) : Prop :=
  ∃ fits, matching? = some fits ∧ fits name pattern = .ok true

theorem not_fits_none (name pattern : String) : ¬ Fits none name pattern := by
  rintro ⟨fits, given, -⟩
  cases given

theorem fits_some_iff {fits : NameMatching} {name pattern : String} :
    Fits (some fits) name pattern ↔ fits name pattern = .ok true := by
  constructor
  · rintro ⟨other, given, holds⟩
    cases given
    exact holds
  · intro holds
    exact ⟨fits, rfl, holds⟩

namespace RoleGraph

structure Total (graph : RoleGraph) : Prop where
  names : ∀ fits, graph.names? = some fits → fits.Total
  domains : ∀ fits, graph.domains? = some fits → fits.Total

/-- Whether the links of a place hold in a domain: the place is the domain, or a pattern
that it fits. The default domain fits no pattern. -/
def Covers (graph : RoleGraph) (place domain : String) : Prop :=
  place = domain ∨ domain ≠ RoleLinks.defaultDomain ∧ Fits graph.domains? domain place

/-- Whether some links give a role to a subject: by a link of its own, or by a pattern that
it fits, which is a role of its own and passes on its roles. -/
def Joins (graph : RoleGraph) (links : DomainLinks) (subject role : String) : Prop :=
  links.Has subject role ∨
    ∃ pattern, pattern ≠ subject ∧ Fits graph.names? subject pattern ∧
      links.Knows pattern ∧ (role = pattern ∨ links.Has pattern role)

def Adjacent (graph : RoleGraph) (domain subject role : String) : Prop :=
  role ≠ subject ∧ ∃ place, graph.Covers place domain ∧
    graph.Joins (graph.links.inDomain place) subject role

def KnowsIn (graph : RoleGraph) (domain name : String) : Prop :=
  ∃ place, graph.Covers place domain ∧ graph.links.Knows name place

section

variable {graph : RoleGraph} (total : graph.Total) (sound : graph.links.Sound)
include total sound

theorem linksFor_eq (domain : String) :
    ∃ found, graph.linksFor domain = .ok found ∧
      ∀ links, links ∈ found ↔
        ∃ place, graph.Covers place domain ∧ (place, links) ∈ graph.links := by
  have own : ∀ links, links ∈ (graph.links.lookup domain).toList ↔
      (domain, links) ∈ graph.links := by
    intro links
    rw [Option.mem_toList]
    constructor
    · exact Entries.mem_of_lookup
    · exact Entries.lookup_of_mem sound.nodup
  -- Only the own links of the domain hold in it.
  have alone : (∀ place, graph.Covers place domain ↔ place = domain) →
      ∀ links, links ∈ (graph.links.lookup domain).toList ↔
        ∃ place, graph.Covers place domain ∧ (place, links) ∈ graph.links := by
    intro covers links
    rw [own]
    simp [covers]
  unfold linksFor
  cases given : graph.domains? with
  | none => exact ⟨_, rfl, alone fun place => by simp [Covers, given, not_fits_none]⟩
  | some fits =>
      simp only
      split
      · next standard => exact ⟨_, rfl, alone fun place => by simp [Covers, standard]⟩
      · next other =>
          have tested : ∀ entry : String × DomainLinks,
              (if entry.1 == domain then pure true else fits domain entry.1) =
                Except.ok (entry.1 == domain || Answer.gives (fits domain entry.1) true) := by
            intro entry
            cases same : entry.1 == domain with
            | true => rfl
            | false => exact Answer.eq_ok_gives (total.domains fits given domain entry.1)
          rw [Answer.filterM_eq_ok tested]
          refine ⟨_, rfl, fun links => ?_⟩
          have covers : ∀ place, graph.Covers place domain ↔
              (place == domain || Answer.gives (fits domain place) true) = true := by
            intro place
            rw [Covers, given, fits_some_iff, Bool.or_eq_true, beq_iff_eq,
              Answer.gives_true_iff]
            simp [other]
          simp [covers, and_comm]

omit total in
theorem exists_links_iff {domain : String} {found : List DomainLinks}
    (holding : ∀ links, links ∈ found ↔
      ∃ place, graph.Covers place domain ∧ (place, links) ∈ graph.links)
    {P : DomainLinks → Prop} (notEmpty : ¬ P []) :
    (∃ links ∈ found, P links) ↔
      ∃ place, graph.Covers place domain ∧ P (graph.links.inDomain place) := by
  constructor
  · rintro ⟨links, member, holds⟩
    obtain ⟨place, covers, there⟩ := (holding links).mp member
    refine ⟨place, covers, ?_⟩
    rwa [RoleLinks.inDomain_of_mem sound there]
  · rintro ⟨place, covers, holds⟩
    unfold RoleLinks.inDomain at holds
    cases there : graph.links.lookup place with
    | none =>
        rw [there] at holds
        exact absurd holds notEmpty
    | some links =>
        rw [there] at holds
        exact ⟨links, (holding links).mpr ⟨place, covers, Entries.mem_of_lookup there⟩, holds⟩

omit sound in
theorem joinDomain_collects (names : List String) {subject : String} {links : DomainLinks}
    (linksSound : links.Sound) :
    ∃ more, graph.joinDomain subject names links = .ok more ∧
      ∀ role, role ∈ more ↔ role ∈ names ∨ graph.Joins links subject role := by
  unfold joinDomain Joins
  cases given : graph.names? with
  | none =>
      refine ⟨_, rfl, fun role => ?_⟩
      simp [mem_addNames, not_fits_none, DomainLinks.Has]
  | some fits =>
      have collected := @Answer.foldlM_collects _ _ _ (joinPattern fits subject)
        (fun entry role => entry.1 ≠ subject ∧ fits subject entry.1 = .ok true ∧
          (role = entry.1 ∨ role ∈ entry.2)) links ?_
        (addNames names (links.rolesOf subject))
      · obtain ⟨more, done, all⟩ := collected
        refine ⟨more, done, fun role => ?_⟩
        rw [all, mem_addNames, or_assoc]
        refine or_congr_right (or_congr_right ?_)
        simp only [fits_some_iff]
        constructor
        · rintro ⟨entry, member, different, holds, brought⟩
          refine ⟨entry.1, different, holds, List.mem_map_of_mem member, ?_⟩
          rwa [DomainLinks.Has, DomainLinks.rolesOf_of_mem linksSound member]
        · rintro ⟨pattern, different, holds, known, brought⟩
          obtain ⟨entry, member, rfl⟩ := List.mem_map.mp known
          refine ⟨entry, member, different, holds, ?_⟩
          rwa [DomainLinks.Has, DomainLinks.rolesOf_of_mem linksSound member] at brought
      · intro found entry _
        unfold joinPattern
        by_cases same : entry.1 = subject
        · refine ⟨found, ?_, by simp [same]⟩
          simp [same, pure, Except.pure]
        · have differs : (entry.1 != subject) = true := by simpa using same
          rw [if_pos differs]
          obtain ⟨holds, answered⟩ := total.names fits given subject entry.1
          rw [answered]
          cases holds with
          | true => exact ⟨_, rfl, fun role => by
              simp [mem_addNames, mem_addName, same, or_assoc]⟩
          | false => exact ⟨_, rfl, fun role => by simp⟩

theorem neighbours_eq {domain : String} {found : List DomainLinks}
    (holding : ∀ links, links ∈ found ↔
      ∃ place, graph.Covers place domain ∧ (place, links) ∈ graph.links)
    (subject : String) :
    ∃ around, graph.neighbours found subject = .ok around ∧
      ∀ role, role ∈ around ↔ graph.Adjacent domain subject role := by
  obtain ⟨more, done, all⟩ := @Answer.foldlM_collects _ _ _ (graph.joinDomain subject)
    (fun links role => graph.Joins links subject role) found (by
      intro names links member
      obtain ⟨place, -, there⟩ := (holding links).mp member
      have linksSound := sound.domains place
      rw [RoleLinks.inDomain_of_mem sound there] at linksSound
      exact joinDomain_collects total names linksSound) []
  refine ⟨more.filter (· != subject), ?_, fun role => ?_⟩
  · rw [neighbours, done]
    rfl
  · have notEmpty : ¬ graph.Joins [] subject role := by
      rintro (member | ⟨pattern, -, -, member, -⟩) <;> cases member
    rw [List.mem_filter, all, bne_iff_ne, and_comm, Adjacent,
      exists_links_iff sound holding notEmpty]
    simp

theorem roles_eq (subject domain : String) :
    ∃ found, graph.roles subject domain = .ok found ∧
      ∀ role, role ∈ found ↔ graph.Adjacent domain subject role := by
  obtain ⟨links, done, holding⟩ := linksFor_eq total sound domain
  rw [roles, done]
  exact neighbours_eq total sound holding subject

theorem users_eq (role domain : String) :
    ∃ found, graph.users role domain = .ok found ∧
      ∀ name, name ∈ found ↔ graph.KnowsIn domain name ∧ graph.Adjacent domain name role := by
  obtain ⟨links, done, holding⟩ := linksFor_eq total sound domain
  choose around found adjacent using neighbours_eq total sound holding
  have tested : ∀ name, (if name == role then pure false
      else return (← graph.neighbours links name).contains role) =
        (Except.ok (name != role && (around name).contains role) : Answer Bool) := by
    intro name
    rw [found, bne]
    cases name == role <;> rfl
  have holders := Answer.filterM_eq_ok tested (links.flatMap Entries.keys)
  refine ⟨addNames [] ((links.flatMap Entries.keys).filter fun name =>
    name != role && (around name).contains role), ?_, fun name => ?_⟩
  · exact Answer.bind_eq_ok.mpr ⟨links, done, Answer.bind_eq_ok.mpr ⟨_, holders, rfl⟩⟩
  · have known : (∃ own ∈ links, name ∈ Entries.keys own) ↔ graph.KnowsIn domain name :=
      exists_links_iff sound holding fun member => by cases member
    rw [mem_addNames, List.mem_filter, List.mem_flatMap, known, Bool.and_eq_true, bne_iff_ne,
      List.contains_iff_mem, adjacent]
    constructor
    · rintro (member | ⟨knows, -, has⟩)
      · cases member
      · exact ⟨knows, has⟩
    · rintro ⟨knows, has⟩
      exact .inr ⟨knows, has.1.symm, has⟩

end

end RoleGraph

end AccessControl
