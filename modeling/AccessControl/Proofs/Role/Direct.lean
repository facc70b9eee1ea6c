import AccessControl.Proofs.Role.Nearest

namespace AccessControl.RoleGraph

/-! The roles that a subject has itself, the subjects that have a role themselves, and the
domains in which a subject has a role, told by the links that stand: those that were added, and
not taken away since. -/

/-- The link was added, and after that neither deleted nor cleared away. -/
def Standing (operations : List Operation) (subject role domain : String) : Prop :=
  ∃ before after, operations = before ++ .addLink subject role domain :: after ∧
    .deleteLink subject role domain ∉ after ∧ .clear ∉ after

theorem standing_concat {operations : List Operation} {operation : Operation}
    {subject role domain : String} :
    Standing (operations ++ [operation]) subject role domain ↔
      operation = .addLink subject role domain ∨
        Standing operations subject role domain ∧
          operation ≠ .deleteLink subject role domain ∧ operation ≠ .clear := by
  constructor
  · rintro ⟨before, after, split, undeleted, uncleared⟩
    rcases List.eq_nil_or_concat after with rfl | ⟨others, last, rfl⟩
    · obtain ⟨-, same⟩ := List.append_inj' split rfl
      exact .inl (List.head_eq_of_cons_eq same)
    · rw [List.concat_eq_append, ← List.cons_append, ← List.append_assoc] at split
      obtain ⟨rfl, same⟩ := List.append_inj' split rfl
      cases same
      rw [List.concat_eq_append, List.mem_append, not_or, List.mem_singleton] at undeleted
      rw [List.concat_eq_append, List.mem_append, not_or, List.mem_singleton] at uncleared
      exact .inr ⟨⟨before, others, rfl, undeleted.1, uncleared.1⟩, Ne.symm undeleted.2,
        Ne.symm uncleared.2⟩
  · rintro (rfl | ⟨⟨before, after, rfl, undeleted, uncleared⟩, notDelete, notClear⟩)
    · exact ⟨operations, [], rfl, List.not_mem_nil, List.not_mem_nil⟩
    · refine ⟨before, after ++ [operation], by simp, ?_, ?_⟩
      · simp [undeleted, Ne.symm notDelete]
      · simp [uncleared, Ne.symm notClear]

/-- One operation adds its own link, takes its own link or all links away, and changes no
other link. -/
theorem has_perform {graph : RoleGraph} (sound : graph.links.Sound) (operation : Operation)
    {subject role domain : String} :
    (graph.perform operation).2.links.Has subject role domain ↔
      operation = .addLink subject role domain ∨
        graph.links.Has subject role domain ∧
          operation ≠ .deleteLink subject role domain ∧ operation ≠ .clear := by
  cases operation with
  | addLink other target place =>
      refine RoleLinks.has_add.trans ?_
      simp [eq_comm]
  | deleteLink other target place =>
      refine (RoleLinks.has_delete sound).trans ?_
      simp [eq_comm]
  | clear =>
      have unlinked : ¬ (graph.perform .clear).2.links.Has subject role domain := by
        intro has
        cases has
      simp [unlinked]
  | hasLink | roles | users | implicitRoles | domains | linkCount | matchNames | matchDomains =>
      simp [perform]

/-- The links of a graph are those that stand after all that was done to it. -/
theorem has_after_iff_standing (levels : Nat) (operations : List Operation)
    {subject role domain : String} :
    ((empty levels).after operations).links.Has subject role domain ↔
      Standing operations subject role domain := by
  induction operations using List.reverseRecOn with
  | nil =>
      constructor
      · intro has
        cases has
      · rintro ⟨before, after, empty, -⟩
        simp at empty
  | append_singleton operations operation ih =>
      have step : (empty levels).after (operations ++ [operation]) =
          (((empty levels).after operations).perform operation).2 := by
        rw [after, List.foldl_append]
        rfl
      rw [step, has_perform (sound_after_empty levels operations), ih, standing_concat]

theorem joins_iff_has {graph : RoleGraph} (exact : graph.names? = none) (links : DomainLinks)
    (subject role : String) : graph.Joins links subject role ↔ links.Has subject role := by
  unfold Joins
  simp [exact, not_fits_none]

theorem adjacent_iff_has {graph : RoleGraph} (exact : graph.names? = none)
    (domain subject role : String) :
    graph.Adjacent domain subject role ↔
      role ≠ subject ∧ ∃ place, graph.Covers place domain ∧
        graph.links.Has subject role place := by
  unfold Adjacent
  simp only [joins_iff_has exact]
  rfl

theorem KnowsIn.of_adjacent {graph : RoleGraph} (exact : graph.names? = none)
    {domain subject role : String} (adjacent : graph.Adjacent domain subject role) :
    graph.KnowsIn domain subject := by
  obtain ⟨-, place, covers, has⟩ := (adjacent_iff_has exact domain subject role).mp adjacent
  exact ⟨place, covers, has.knows⟩

theorem within_one {near : String → String → Prop} {start name : String} :
    Within near start 1 name ↔ name = start ∨ near start name := by
  rw [within_succ, within_zero]
  refine or_congr_right ⟨?_, fun adjacent => ⟨start, .here, adjacent⟩⟩
  rintro ⟨other, reached, adjacent⟩
  rwa [within_zero.mp reached] at adjacent

theorem nodup_users {graph : RoleGraph} {role domain : String} {found : List String}
    (done : graph.users role domain = .ok found) : found.Nodup := by
  obtain ⟨domains, -, rest⟩ := Answer.bind_eq_ok.mp done
  obtain ⟨holders, -, listed⟩ := Answer.bind_eq_ok.mp rest
  cases listed
  exact nodup_addNames List.nodup_nil holders

theorem nodup_roles {graph : RoleGraph} {subject domain : String} {found : List String}
    (done : graph.roles subject domain = .ok found) : found.Nodup := by
  obtain ⟨domains, -, around⟩ := Answer.bind_eq_ok.mp done
  exact nodup_neighbours around

/-- Whatever was done to a graph that takes names as they are, and whose matching of domains,
if there is one, always has an answer: a subject is among the users of a role if and only if
the role is among its roles, which is if they differ and one link leads from the subject to
the role. It does if such a link stands at a place that covers the domain. -/
theorem direct_queries_agree (levels : Nat) (operations : List Operation) {graph : RoleGraph}
    (made : (empty levels).after operations = graph) (exact : graph.names? = none)
    (total : ∀ fits, graph.domains? = some fits → fits.Total)
    (subject role domain : String) :
    ∃ users roles holds,
      graph.users role domain = .ok users ∧ graph.roles subject domain = .ok roles ∧
      graph.hasLink subject role domain (some 1) = .ok holds ∧
      (subject ∈ users ↔ role ∈ roles) ∧
      (role ∈ roles ↔ subject ≠ role ∧ holds = true) ∧
      (role ∈ roles ↔ subject ≠ role ∧ ∃ place, graph.Covers place domain ∧
        Standing operations subject role place) ∧
      users.Nodup ∧ roles.Nodup := by
  have sound : graph.links.Sound := made ▸ sound_after_empty levels operations
  have both : graph.Total := ⟨fun fits given => by simp [exact] at given, total⟩
  obtain ⟨users, usersDone, isUser⟩ := users_eq both sound role domain
  obtain ⟨roles, rolesDone, isRole⟩ := roles_eq both sound subject domain
  obtain ⟨holds, linkDone, within⟩ := hasLink_eq both sound subject role domain (some 1)
  refine ⟨users, roles, holds, usersDone, rolesDone, linkDone, ?_, ?_, ?_,
    nodup_users usersDone, nodup_roles rolesDone⟩
  · rw [isUser, isRole]
    exact and_iff_right_of_imp (KnowsIn.of_adjacent exact)
  · rw [isRole, within]
    change _ ↔ subject ≠ role ∧ Within (graph.Adjacent domain) subject 1 role
    rw [within_one]
    constructor
    · intro adjacent
      exact ⟨adjacent.1.symm, .inr adjacent⟩
    · rintro ⟨different, same | adjacent⟩
      · exact absurd same.symm different
      · exact adjacent
  · rw [isRole, adjacent_iff_has exact, ne_comm]
    simp only [← made, has_after_iff_standing]

namespace Sample

def offices : List Operation :=
  [.matchDomains (some fun _ pattern => .ok (pattern == "*")),
    .addLink "alice" "alice" "acme", .addLink "alice" "staff" "*",
    .addLink "alice" "staff" "acme", .addLink "bob" "staff" "acme",
    .addLink "carol" "carol" "globex", .deleteLink "bob" "staff" "acme"]

end Sample

/-- The link that all tenants share counts once, and the deleted one no more. -/
theorem direct_queries_agree_offices :
    ((empty 10).after Sample.offices).users "staff" "acme" = .ok ["alice"] ∧
    ((empty 10).after Sample.offices).roles "alice" "acme" = .ok ["staff"] ∧
    ((empty 10).after Sample.offices).hasLink "alice" "staff" "acme" (some 1) = .ok true ∧
    (∃ place, ((empty 10).after Sample.offices).Covers place "acme" ∧
      Standing Sample.offices "alice" "staff" place) ∧
    ((empty 10).after Sample.offices).hasLink "bob" "staff" "acme" (some 1) = .ok false := by
  have staff : ((empty 10).after Sample.offices).roles "alice" "acme" = .ok ["staff"] :=
    Answer.eq_ok_of_gives (by decide +kernel)
  have users : ((empty 10).after Sample.offices).users "staff" "acme" = .ok ["alice"] :=
    Answer.eq_ok_of_gives (by decide +kernel)
  have agree := direct_queries_agree 10 Sample.offices rfl rfl
    (fun fits given => by cases given; exact fun _ _ => ⟨_, rfl⟩)
  obtain ⟨_, _, holds, usersToo, rolesToo, linked, -, direct, standing, -⟩ :=
    agree "alice" "staff" "acme"
  cases staff.symm.trans rolesToo
  obtain ⟨-, rfl⟩ := direct.mp List.mem_cons_self
  obtain ⟨others, roles, bobs, othersDone, -, bob, listed, one, -⟩ :=
    agree "bob" "staff" "acme"
  cases users.symm.trans othersDone
  refine ⟨users, staff, linked, (standing.mp List.mem_cons_self).2, ?_⟩
  cases bobs with
  | false => exact bob
  | true =>
      exact absurd (listed.mpr (one.mpr ⟨by decide, rfl⟩)) (by decide)

theorem mem_domainsOf {links : RoleLinks} (sound : links.Sound) {subject domain : String} :
    domain ∈ links.domainsOf subject ↔
      domain ≠ RoleLinks.defaultDomain ∧ ∃ role, links.Has subject role domain := by
  have linked : ∀ entry ∈ links, (!(DomainLinks.rolesOf entry.2 subject).isEmpty) = true ↔
      ∃ role, links.Has subject role entry.1 := by
    intro entry member
    unfold RoleLinks.Has DomainLinks.Has
    rw [RoleLinks.inDomain_of_mem sound member, Bool.not_eq_true',
      List.isEmpty_eq_false_iff_exists_mem]
  simp only [RoleLinks.domainsOf, List.mem_map, List.mem_filter, Bool.and_eq_true, bne_iff_ne]
  constructor
  · rintro ⟨entry, ⟨member, named, nonempty⟩, rfl⟩
    exact ⟨named, (linked entry member).mp nonempty⟩
  · rintro ⟨named, role, has⟩
    have there := RoleLinks.mem_of_has has
    exact ⟨_, ⟨there, named, (linked _ there).mpr ⟨role, has⟩⟩, rfl⟩

theorem nodup_domainsOf {links : RoleLinks} (sound : links.Sound) (subject : String) :
    (links.domainsOf subject).Nodup :=
  sound.nodup.sublist (List.filter_sublist.map _)

theorem covers_iff_eq {graph : RoleGraph} (apart : graph.domains? = none)
    (place domain : String) : graph.Covers place domain ↔ place = domain := by
  unfold Covers
  simp [apart, not_fits_none]

/-- Where neither names nor domains are matched, a subject has the roles of its own links in
the domain, other than itself. -/
theorem roles_ne_nil_iff {graph : RoleGraph} (sound : graph.links.Sound)
    (exact : graph.names? = none) (apart : graph.domains? = none) (subject domain : String) :
    ∃ found, graph.roles subject domain = .ok found ∧
      (found ≠ [] ↔ ∃ role, role ≠ subject ∧ graph.links.Has subject role domain) := by
  have total : graph.Total :=
    ⟨fun fits given => by simp [exact] at given, fun fits given => by simp [apart] at given⟩
  obtain ⟨found, done, isRole⟩ := roles_eq total sound subject domain
  refine ⟨found, done, ?_⟩
  rw [ne_eq, List.eq_nil_iff_forall_not_mem, not_forall]
  refine exists_congr fun role => ?_
  rw [not_not, isRole, adjacent_iff_has exact]
  simp [covers_iff_eq apart]

/-- Whatever was done to a graph that matches neither names nor domains: the domains of a
subject are listed once, and are those in which a link of the subject stands, even one that
leads back to it. So a domain is among them exactly if the subject has roles there, unless the
only link of the subject that stands there leads back to it. -/
theorem domainsOf_agrees_iff (levels : Nat) (operations : List Operation) {graph : RoleGraph}
    (made : (empty levels).after operations = graph) (exact : graph.names? = none)
    (apart : graph.domains? = none) (subject domain : String)
    (named : domain ≠ RoleLinks.defaultDomain) :
    ∃ roles, graph.roles subject domain = .ok roles ∧ (graph.domainsOf subject).Nodup ∧
      (domain ∈ graph.domainsOf subject ↔ ∃ role, Standing operations subject role domain) ∧
      ((domain ∈ graph.domainsOf subject ↔ roles ≠ []) ↔
        (Standing operations subject subject domain →
          ∃ role, role ≠ subject ∧ Standing operations subject role domain)) := by
  have sound : graph.links.Sound := made ▸ sound_after_empty levels operations
  have stands : ∀ role, graph.links.Has subject role domain ↔
      Standing operations subject role domain := by
    intro role
    rw [← made, has_after_iff_standing]
  obtain ⟨roles, done, hasRole⟩ := roles_ne_nil_iff sound exact apart subject domain
  have listed : domain ∈ graph.domainsOf subject ↔
      ∃ role, Standing operations subject role domain := by
    rw [domainsOf, mem_domainsOf sound, and_iff_right named]
    exact exists_congr stands
  refine ⟨roles, done, nodup_domainsOf sound subject, listed, ?_⟩
  rw [listed, hasRole]
  simp only [stands]
  constructor
  · intro agree self
    exact agree.mp ⟨subject, self⟩
  · intro other
    constructor
    · rintro ⟨role, standing⟩
      by_cases same : role = subject
      · exact other (same ▸ standing)
      · exact ⟨role, same, standing⟩
    · rintro ⟨role, -, standing⟩
      exact ⟨role, standing⟩

namespace Sample

def branches : List Operation :=
  [.addLink "alice" "staff" "acme", .addLink "alice" "alice" "acme",
    .addLink "alice" "admin" "globex", .deleteLink "alice" "admin" "globex",
    .addLink "alice" "staff" ""]

end Sample

theorem domainsOf_agrees_branches :
    ((empty 10).after Sample.branches).domainsOf "alice" = ["acme"] ∧
    ∃ roles, ((empty 10).after Sample.branches).roles "alice" "acme" = .ok roles ∧
      roles ≠ [] := by
  obtain ⟨roles, done, -, -, agrees⟩ := domainsOf_agrees_iff 10 Sample.branches rfl rfl rfl
    "alice" "acme" (by decide)
  have staff : Standing Sample.branches "alice" "staff" "acme" :=
    ⟨[], _, rfl, by simp, by simp⟩
  exact ⟨rfl, roles, done, (agrees.mpr fun _ => ⟨"staff", by decide, staff⟩).mp (by decide)⟩

/-- A link that leads back to its subject gives it no role, and yet the domain is listed. -/
theorem domainsOf_lists_lone :
    ((empty 10).after [.addLink "alice" "alice" "acme"]).domainsOf "alice" = ["acme"] ∧
      ((empty 10).after [.addLink "alice" "alice" "acme"]).roles "alice" "acme" = .ok [] :=
  ⟨rfl, rfl⟩

end AccessControl.RoleGraph
