import AccessControl.Proofs.Role.Search

namespace AccessControl

/-! A graph whose links came and went, and a graph that has the same links from the start.
Names that remain without links are all that tells them apart, and only where a pattern is
involved. -/

def SameNames (left right : Answer (List String)) : Prop :=
  ∃ names others, left = .ok names ∧ right = .ok others ∧
    ∀ name, name ∈ names ↔ name ∈ others

namespace RoleGraph

def LinkedIn (graph : RoleGraph) (domain name : String) : Prop :=
  ∃ place, graph.Covers place domain ∧
    ((∃ role, graph.links.Has name role place) ∨ ∃ subject, graph.links.Has subject name place)

/-- The name is known in the domain, but no link of it is left there. -/
def Remains (graph : RoleGraph) (domain name : String) : Prop :=
  graph.KnowsIn domain name ∧ ¬ graph.LinkedIn domain name

/-- The name is no pattern that another name fits, and fits no other name of the domain. -/
def Aloof (graph : RoleGraph) (domain name : String) : Prop :=
  ∀ other, other ≠ name → ¬ Fits graph.names? other name ∧
    (graph.KnowsIn domain other → ¬ Fits graph.names? name other)

structure SameAnswers (graph other : RoleGraph) : Prop where
  hasLink : ∀ subject role domain depth,
    graph.hasLink subject role domain depth = other.hasLink subject role domain depth
  roles : ∀ subject domain, SameNames (graph.roles subject domain) (other.roles subject domain)
  users : ∀ role domain, SameNames (graph.users role domain) (other.users role domain)
  implicitRoles : ∀ subject domain,
    SameNames (graph.implicitRoles subject domain) (other.implicitRoles subject domain)

/-- The fresh graph has the links of the other one, and knows no other names than theirs. -/
structure Fresh (graph fresh : RoleGraph) : Prop where
  levels : fresh.levels = graph.levels
  names : fresh.names? = graph.names?
  domains : fresh.domains? = graph.domains?
  sound : fresh.links.Sound
  has_iff : ∀ subject role domain,
    fresh.links.Has subject role domain ↔ graph.links.Has subject role domain
  linked : ∀ {name domain}, fresh.links.Knows name domain →
    (∃ role, fresh.links.Has name role domain) ∨ ∃ subject, fresh.links.Has subject name domain

theorem sameNames_iff {left right : Answer (List String)} {P Q : String → Prop}
    (first : ∃ names, left = .ok names ∧ ∀ name, name ∈ names ↔ P name)
    (second : ∃ names, right = .ok names ∧ ∀ name, name ∈ names ↔ Q name) :
    SameNames left right ↔ ∀ name, P name ↔ Q name := by
  obtain ⟨names, done, mem⟩ := first
  obtain ⟨others, doneOther, memOther⟩ := second
  constructor
  · rintro ⟨found, foundOther, given, givenOther, same⟩ name
    rw [done] at given
    rw [doneOther] at givenOther
    cases given
    cases givenOther
    rw [← mem, ← memOther, same]
  · intro same
    refine ⟨names, others, done, doneOther, fun name => ?_⟩
    rw [mem, memOther, same]

theorem SameAnswers.symm {graph other : RoleGraph} (same : SameAnswers graph other) :
    SameAnswers other graph := by
  have turned : ∀ {left right : Answer (List String)}, SameNames left right →
      SameNames right left := by
    rintro left right ⟨names, others, done, doneOther, mem⟩
    exact ⟨others, names, doneOther, done, fun name => (mem name).symm⟩
  exact ⟨fun _ _ _ _ => (same.hasLink _ _ _ _).symm, fun _ _ => turned (same.roles _ _),
    fun _ _ => turned (same.users _ _), fun _ _ => turned (same.implicitRoles _ _)⟩

theorem SameAnswers.trans {first second third : RoleGraph} (before : SameAnswers first second)
    (after : SameAnswers second third) : SameAnswers first third := by
  have chained : ∀ {left middle right : Answer (List String)}, SameNames left middle →
      SameNames middle right → SameNames left right := by
    rintro left middle right ⟨names, others, done, rfl, mem⟩ ⟨again, rest, same, last, memRest⟩
    cases same
    exact ⟨names, rest, done, last, fun name => (mem name).trans (memRest name)⟩
  exact ⟨fun _ _ _ _ => (before.hasLink _ _ _ _).trans (after.hasLink _ _ _ _),
    fun _ _ => chained (before.roles _ _) (after.roles _ _),
    fun _ _ => chained (before.users _ _) (after.users _ _),
    fun _ _ => chained (before.implicitRoles _ _) (after.implicitRoles _ _)⟩

section

variable {graph fresh : RoleGraph} (sound : graph.links.Sound) (made : Fresh graph fresh)
include made

theorem Fresh.covers_iff (place domain : String) :
    fresh.Covers place domain ↔ graph.Covers place domain := by
  rw [Covers, Covers, made.domains]

theorem Fresh.total (total : graph.Total) : fresh.Total :=
  ⟨by rw [made.names]; exact total.names, by rw [made.domains]; exact total.domains⟩

theorem Fresh.linkedIn_iff (domain name : String) :
    fresh.LinkedIn domain name ↔ graph.LinkedIn domain name := by
  simp only [LinkedIn, made.covers_iff, made.has_iff]

theorem Fresh.knowsIn_iff (domain name : String) :
    fresh.KnowsIn domain name ↔ graph.LinkedIn domain name := by
  rw [← made.linkedIn_iff]
  constructor
  · rintro ⟨place, covers, knows⟩
    exact ⟨place, covers, made.linked knows⟩
  · rintro ⟨place, covers, ⟨role, has⟩ | ⟨subject, has⟩⟩
    · exact ⟨place, covers, has.knows⟩
    · exact ⟨place, covers, made.sound.knows has⟩

theorem Fresh.linkedIn_of_adjacent {domain subject role : String}
    (adjacent : fresh.Adjacent domain subject role) : graph.LinkedIn domain role := by
  rw [← made.linkedIn_iff]
  obtain ⟨-, place, covers, has | ⟨pattern, -, -, knows, rfl | has⟩⟩ := adjacent
  · exact ⟨place, covers, .inr ⟨subject, has⟩⟩
  · exact ⟨place, covers, made.linked knows⟩
  · exact ⟨place, covers, .inr ⟨pattern, has⟩⟩

include sound

theorem Fresh.adjacent {domain subject role : String}
    (adjacent : fresh.Adjacent domain subject role) : graph.Adjacent domain subject role := by
  obtain ⟨different, place, covers, joins⟩ := adjacent
  refine ⟨different, place, (made.covers_iff place domain).mp covers, ?_⟩
  obtain has | ⟨pattern, other, fits, knows, passes⟩ := joins
  · exact .inl ((made.has_iff _ _ _).mp has)
  · rw [made.names] at fits
    refine .inr ⟨pattern, other, fits, ?_, ?_⟩
    · rcases made.linked knows with ⟨target, has⟩ | ⟨holder, has⟩
      · exact ((made.has_iff _ _ _).mp has).knows
      · exact sound.knows ((made.has_iff _ _ _).mp has)
    · rcases passes with same | has
      · exact .inl same
      · exact .inr ((made.has_iff _ _ _).mp has)

/-- A name that remains is a role of the names that fit it; the graphs have all other roles
in common. -/
theorem Fresh.adjacent_iff {domain subject role : String} :
    graph.Adjacent domain subject role ↔ fresh.Adjacent domain subject role ∨
      role ≠ subject ∧ Fits graph.names? subject role ∧ graph.Remains domain role := by
  constructor
  · rintro ⟨different, place, covers, has | ⟨pattern, other, fits, knows, passes⟩⟩
    · exact .inl ⟨different, place, (made.covers_iff place domain).mpr covers,
        .inl ((made.has_iff _ _ _).mpr has)⟩
    · rcases passes with rfl | has
      · by_cases linked : graph.LinkedIn domain role
        · obtain ⟨place, covers, known⟩ := (made.knowsIn_iff domain role).mpr linked
          refine .inl ⟨different, place, covers, .inr ⟨role, other, ?_, known, .inl rfl⟩⟩
          rwa [made.names]
        · exact .inr ⟨different, fits, ⟨place, covers, knows⟩, linked⟩
      · have passed : fresh.links.Has pattern role place := (made.has_iff _ _ _).mpr has
        refine .inl ⟨different, place, (made.covers_iff place domain).mpr covers,
          .inr ⟨pattern, other, ?_, passed.knows, .inr passed⟩⟩
        rwa [made.names]
  · rintro (adjacent | ⟨different, fits, ⟨place, covers, knows⟩, -⟩)
    · exact made.adjacent sound adjacent
    · exact ⟨different, place, covers, .inr ⟨role, different, fits, knows, .inl rfl⟩⟩

theorem Fresh.aloof_of_sameAnswers (total : graph.Total) (same : SameAnswers graph fresh)
    {domain name : String} (remains : graph.Remains domain name) : graph.Aloof domain name := by
  have freshTotal := made.total total
  intro other different
  constructor
  · intro fits
    have agree := (sameNames_iff (roles_eq total sound other domain)
      (roles_eq freshTotal made.sound other domain)).mp (same.roles other domain)
    have adjacent := (made.adjacent_iff sound).mpr (.inr ⟨different.symm, fits, remains⟩)
    exact remains.2 (made.linkedIn_of_adjacent ((agree name).mp adjacent))
  · rintro ⟨place, covers, knows⟩ fits
    have agree := (sameNames_iff (users_eq total sound other domain)
      (users_eq freshTotal made.sound other domain)).mp (same.users other domain)
    have adjacent : graph.Adjacent domain name other :=
      ⟨different, place, covers, .inr ⟨other, different, fits, knows, .inl rfl⟩⟩
    have known := ((agree name).mp ⟨remains.1, adjacent⟩).1
    exact remains.2 ((made.knowsIn_iff domain name).mp known)

section

variable (aloof : ∀ domain name, graph.Remains domain name → graph.Aloof domain name)
include aloof

theorem Fresh.adjacent_iff_of_aloof (domain subject role : String) :
    graph.Adjacent domain subject role ↔ fresh.Adjacent domain subject role := by
  rw [made.adjacent_iff sound, or_iff_left]
  rintro ⟨different, fits, remains⟩
  exact (aloof domain role remains subject different.symm).1 fits

theorem Fresh.knowsIn_iff_of_aloof {domain name role : String}
    (adjacent : graph.Adjacent domain name role) :
    graph.KnowsIn domain name ↔ fresh.KnowsIn domain name := by
  rw [made.knowsIn_iff]
  constructor
  · intro known
    by_contra unlinked
    obtain ⟨-, place, covers, has | ⟨pattern, other, fits, knows, -⟩⟩ := adjacent
    · exact unlinked ⟨place, covers, .inl ⟨role, has⟩⟩
    · exact (aloof domain name ⟨known, unlinked⟩ pattern other).2 ⟨place, covers, knows⟩ fits
  · rintro ⟨place, covers, ⟨target, has⟩ | ⟨holder, has⟩⟩
    · exact ⟨place, covers, has.knows⟩
    · exact ⟨place, covers, sound.knows has⟩

theorem Fresh.sameAnswers_of_aloof (total : graph.Total) : SameAnswers graph fresh := by
  have freshTotal := made.total total
  have near := made.adjacent_iff_of_aloof sound aloof
  constructor
  · intro subject role domain depth
    obtain ⟨holds, done, iff⟩ := hasLink_eq total sound subject role domain depth
    obtain ⟨other, doneOther, iffOther⟩ :=
      hasLink_eq freshTotal made.sound subject role domain depth
    rw [made.levels, ← Within.congr (near domain), ← iff] at iffOther
    rw [done, doneOther, Bool.eq_iff_iff.mpr iffOther]
  · intro subject domain
    exact (sameNames_iff (roles_eq total sound subject domain)
      (roles_eq freshTotal made.sound subject domain)).mpr (near domain subject)
  · intro role domain
    refine (sameNames_iff (users_eq total sound role domain)
      (users_eq freshTotal made.sound role domain)).mpr fun name => ?_
    rw [← near]
    exact and_congr_left fun adjacent => made.knowsIn_iff_of_aloof sound aloof adjacent
  · intro subject domain
    refine (sameNames_iff (implicitRoles_eq total sound subject domain)
      (implicitRoles_eq freshTotal made.sound subject domain)).mpr fun role => ?_
    rw [made.levels, Within.congr (near domain)]

end

/-- The answers are the same if and only if the names that remain are aloof. -/
theorem Fresh.sameAnswers_iff (total : graph.Total) :
    SameAnswers graph fresh ↔
      ∀ domain name, graph.Remains domain name → graph.Aloof domain name := by
  constructor
  · intro same domain name remains
    exact made.aloof_of_sameAnswers sound total same remains
  · intro aloof
    exact made.sameAnswers_of_aloof sound aloof total

end

theorem aloof_of_no_matching {graph : RoleGraph} (exact : graph.names? = none)
    (domain name : String) : graph.Aloof domain name := by
  intro other _
  rw [exact]
  exact ⟨not_fits_none _ _, fun _ => not_fits_none _ _⟩

end RoleGraph

end AccessControl
