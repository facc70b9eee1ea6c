import AccessControl.Proofs.Enforcer.Rows
import AccessControl.Proofs.Role.Links
import Mathlib.Data.List.Dedup

namespace AccessControl

namespace RoleGraph

structure SameSetup (graph other : RoleGraph) : Prop where
  levels : other.levels = graph.levels
  names : other.names? = graph.names?
  domains : other.domains? = graph.domains?

theorem SameSetup.refl (graph : RoleGraph) : SameSetup graph graph :=
  ⟨rfl, rfl, rfl⟩

theorem SameSetup.trans {first second third : RoleGraph} (before : SameSetup first second)
    (after : SameSetup second third) : SameSetup first third :=
  ⟨after.levels.trans before.levels, after.names.trans before.names,
    after.domains.trans before.domains⟩

end RoleGraph

namespace Enforcer

/-- Whether a row for the link is stored. Without domains, links are those of the default
domain. -/
def StoresLink (scope : RoleScope) (rows : List Row) (subject role domain : String) : Prop :=
  match scope with
  | .everywhere => domain = RoleLinks.defaultDomain ∧ [subject, role] ∈ rows
  | .inDomain => [subject, role, domain] ∈ rows

section

variable {scope : RoleScope} {row other : Row} {subject role domain : String}

theorem linkOf?_eq_some (fits : row.length = scope.arity) :
    linkOf? scope row = some (subject, role, domain) ↔
      StoresLink scope [row] subject role domain := by
  cases scope with
  | everywhere =>
      obtain ⟨first, second, rfl⟩ := List.length_eq_two.mp fits
      simp only [linkOf?, StoresLink, List.mem_singleton, Option.some.injEq, Prod.mk.injEq,
        List.cons.injEq, and_true]
      constructor
      · rintro ⟨rfl, rfl, rfl⟩
        exact ⟨rfl, rfl, rfl⟩
      · rintro ⟨rfl, rfl, rfl⟩
        exact ⟨rfl, rfl, rfl⟩
  | inDomain =>
      obtain ⟨first, second, third, rfl⟩ := List.length_eq_three.mp fits
      simp [linkOf?, StoresLink, eq_comm]

theorem exists_linkOf? (fits : row.length = scope.arity) :
    ∃ link, linkOf? scope row = some link := by
  cases scope with
  | everywhere =>
      obtain ⟨first, second, rfl⟩ := List.length_eq_two.mp fits
      exact ⟨_, rfl⟩
  | inDomain =>
      obtain ⟨first, second, third, rfl⟩ := List.length_eq_three.mp fits
      exact ⟨_, rfl⟩

theorem eq_of_linkOf?_eq (fits : row.length = scope.arity)
    (fitsOther : other.length = scope.arity) {link : String × String × String}
    (isLink : linkOf? scope row = some link) (isOther : linkOf? scope other = some link) :
    row = other := by
  obtain ⟨subject, role, domain⟩ := link
  rw [linkOf?_eq_some fits] at isLink
  rw [linkOf?_eq_some fitsOther] at isOther
  cases scope with
  | everywhere =>
      exact (List.mem_singleton.mp isLink.2).symm.trans (List.mem_singleton.mp isOther.2)
  | inDomain => exact (List.mem_singleton.mp isLink).symm.trans (List.mem_singleton.mp isOther)

theorem storesLink_iff {rows : List Row} (fits : ∀ row ∈ rows, row.length = scope.arity) :
    StoresLink scope rows subject role domain ↔
      ∃ row ∈ rows, linkOf? scope row = some (subject, role, domain) := by
  constructor
  · intro stored
    cases scope with
    | everywhere =>
        obtain ⟨rfl, member⟩ := stored
        exact ⟨_, member, rfl⟩
    | inDomain => exact ⟨_, stored, rfl⟩
  · rintro ⟨row, member, isLink⟩
    rw [linkOf?_eq_some (fits row member)] at isLink
    cases scope with
    | everywhere => exact ⟨isLink.1, List.mem_singleton.mp isLink.2 ▸ member⟩
    | inDomain =>
        rw [StoresLink, List.mem_singleton] at isLink
        rwa [StoresLink, isLink]

end

section

variable {scope : RoleScope} {graph : RoleGraph} {rows : List Row} {row : Row}

theorem sameSetup_addRow : graph.SameSetup (addRow scope graph row) := by
  unfold addRow
  split
  · exact ⟨rfl, rfl, rfl⟩
  · exact .refl graph

theorem sameSetup_deleteRow : graph.SameSetup (deleteRow scope graph row) := by
  unfold deleteRow
  split
  · exact ⟨rfl, rfl, rfl⟩
  · exact .refl graph

theorem sameSetup_foldl {step : RoleGraph → Row → RoleGraph}
    (same : ∀ {graph row}, RoleGraph.SameSetup graph (step graph row)) (graph : RoleGraph)
    (rows : List Row) : graph.SameSetup (rows.foldl step graph) := by
  induction rows generalizing graph with
  | nil => exact .refl graph
  | cons row rows ih => exact same.trans (ih (step graph row))

theorem sound_addRow (sound : graph.links.Sound) : (addRow scope graph row).links.Sound := by
  unfold addRow
  split
  · exact sound.add _ _ _
  · exact sound

theorem sound_deleteRow (sound : graph.links.Sound) :
    (deleteRow scope graph row).links.Sound := by
  unfold deleteRow
  split
  · exact sound.delete _ _ _
  · exact sound

theorem sound_foldl {step : RoleGraph → Row → RoleGraph}
    (kept : ∀ {graph : RoleGraph} {row}, graph.links.Sound → (step graph row).links.Sound)
    (sound : graph.links.Sound) (rows : List Row) : (rows.foldl step graph).links.Sound := by
  induction rows generalizing graph with
  | nil => exact sound
  | cons row rows ih => exact ih (kept sound)

variable {subject role domain : String}

theorem has_addRow : (addRow scope graph row).links.Has subject role domain ↔
    linkOf? scope row = some (subject, role, domain) ∨
      graph.links.Has subject role domain := by
  unfold addRow
  cases linkOf? scope row with
  | none => simp
  | some link =>
      obtain ⟨own, target, place⟩ := link
      simp only [RoleGraph.addLink, RoleGraph.withLinks, RoleLinks.has_add, Option.some.injEq,
        Prod.mk.injEq]
      simp only [eq_comm]

theorem has_deleteRow (sound : graph.links.Sound) :
    (deleteRow scope graph row).links.Has subject role domain ↔
      graph.links.Has subject role domain ∧
        linkOf? scope row ≠ some (subject, role, domain) := by
  unfold deleteRow
  cases linkOf? scope row with
  | none => simp
  | some link =>
      obtain ⟨own, target, place⟩ := link
      simp only [RoleGraph.deleteLink, RoleGraph.withLinks, RoleLinks.has_delete sound, ne_eq,
        Option.some.injEq, Prod.mk.injEq]
      simp only [eq_comm]

theorem has_foldl_addRow :
    (rows.foldl (addRow scope) graph).links.Has subject role domain ↔
      (∃ row ∈ rows, linkOf? scope row = some (subject, role, domain)) ∨
        graph.links.Has subject role domain := by
  induction rows generalizing graph with
  | nil => simp
  | cons row rows ih =>
      rw [List.foldl_cons, ih, has_addRow, List.exists_mem_cons_iff, ← or_assoc]
      exact or_congr_left or_comm

theorem has_foldl_deleteRow (sound : graph.links.Sound) :
    (rows.foldl (deleteRow scope) graph).links.Has subject role domain ↔
      graph.links.Has subject role domain ∧
        ∀ row ∈ rows, linkOf? scope row ≠ some (subject, role, domain) := by
  induction rows generalizing graph with
  | nil => simp
  | cons row rows ih =>
      rw [List.foldl_cons, ih (sound_deleteRow sound), has_deleteRow sound, List.forall_mem_cons,
        and_assoc]

theorem knows_foldl_addRow {name : String}
    (knows : (rows.foldl (addRow scope) graph).links.Knows name domain) :
    graph.links.Knows name domain ∨
      ∃ row ∈ rows, ∃ subject role, linkOf? scope row = some (subject, role, domain) ∧
        (name = subject ∨ name = role) := by
  induction rows generalizing graph with
  | nil => exact .inl knows
  | cons row rows ih =>
      rcases ih knows with known | ⟨later, member, found⟩
      · unfold addRow at known
        cases isLink : linkOf? scope row with
        | none =>
            rw [isLink] at known
            exact .inl known
        | some link =>
            obtain ⟨subject, role, place⟩ := link
            simp only [isLink, RoleGraph.addLink, RoleGraph.withLinks,
              RoleLinks.knows_add] at known
            rcases known with ⟨rfl, named⟩ | old
            · exact .inr ⟨row, List.mem_cons_self, subject, role, isLink, named.symm⟩
            · exact .inl old
      · exact .inr ⟨later, List.mem_cons_of_mem row member, found⟩

end

/-- The links are those of the rows. -/
structure LinksOf (scope : RoleScope) (rows : List Row) (links : RoleLinks) : Prop where
  sound : links.Sound
  has_iff : ∀ subject role domain, links.Has subject role domain ↔
    ∃ row ∈ rows, linkOf? scope row = some (subject, role, domain)

theorem linksOf_nil (scope : RoleScope) : LinksOf scope [] [] := by
  refine ⟨RoleLinks.sound_nil, fun subject role domain => ?_⟩
  constructor
  · intro has
    cases has
  · rintro ⟨row, member, -⟩
    cases member

theorem linksOf_foldl_addRow {scope : RoleScope} {graph : RoleGraph}
    (empty : graph.links = []) (rows : List Row) :
    LinksOf scope rows (rows.foldl (addRow scope) graph).links := by
  have nothing := linksOf_nil scope
  rw [← empty] at nothing
  refine ⟨sound_foldl sound_addRow nothing.sound rows, fun subject role domain => ?_⟩
  rw [has_foldl_addRow, nothing.has_iff]
  simp

/-- Links that follow an exchange of rows. A row that is taken away loses its link if no
equal row is left, and only then. -/
theorem LinksOf.exchange {scope : RoleScope} {graph : RoleGraph}
    {before after taken brought : List Row} (follows : LinksOf scope before graph.links)
    (exchanges : Exchanges before after taken brought)
    (fits : ∀ row ∈ before ++ (taken ++ brought), row.length = scope.arity)
    {gone : List Row} (gone_iff : ∀ row, row ∈ gone ↔ row ∈ taken ∧ row ∉ after) :
    LinksOf scope after
      (brought.foldl (addRow scope) (gone.foldl (deleteRow scope) graph)).links := by
  have soundGone := sound_foldl (@sound_deleteRow scope) follows.sound gone
  refine ⟨sound_foldl sound_addRow soundGone brought, fun subject role domain => ?_⟩
  rw [has_foldl_addRow, has_foldl_deleteRow follows.sound, follows.has_iff]
  constructor
  · rintro (⟨row, new, isLink⟩ | ⟨⟨row, old, isLink⟩, notGone⟩)
    · exact ⟨row, exchanges.new row new, isLink⟩
    · rcases exchanges.kept row old with left | isTaken
      · exact ⟨row, left, isLink⟩
      · by_contra lost
        have absent : row ∉ after := fun left => lost ⟨row, left, isLink⟩
        exact notGone row ((gone_iff row).mpr ⟨isTaken, absent⟩) isLink
  · rintro ⟨row, left, isLink⟩
    rcases exchanges.old row left with old | new
    · refine .inr ⟨⟨row, old, isLink⟩, fun other isGone isOther => ?_⟩
      obtain ⟨isTaken, absent⟩ := (gone_iff other).mp isGone
      have same : row = other := eq_of_linkOf?_eq
        (fits row (List.mem_append_left _ old))
        (fits other (List.mem_append_right _ (List.mem_append_left _ isTaken))) isLink isOther
      exact absent (same ▸ left)
    · exact .inl ⟨row, new, isLink⟩

theorem LinksOf.count_eq {scope : RoleScope} {rows : List Row} {links : RoleLinks}
    (follows : LinksOf scope rows links) (fits : ∀ row ∈ rows, row.length = scope.arity) :
    links.count = rows.dedup.length := by
  have isSome : ∀ row ∈ rows.dedup, ∃ link, linkOf? scope row = some link := by
    intro row member
    exact exists_linkOf? (fits row (List.mem_dedup.mp member))
  have length : (rows.dedup.filterMap (linkOf? scope)).length = rows.dedup.length := by
    rw [List.length_filterMap_eq_countP, List.countP_eq_length]
    intro row member
    obtain ⟨link, isLink⟩ := isSome row member
    rw [isLink]
    rfl
  rw [← length]
  refine RoleLinks.count_eq follows.sound ?_ fun subject role domain => ?_
  · refine List.pairwise_filterMap.mpr ((List.nodup_dedup rows).imp_of_mem ?_)
    intro row other member memberOther different link isLink same isOther linked
    subst linked
    exact different (eq_of_linkOf?_eq (fits row (List.mem_dedup.mp member))
      (fits other (List.mem_dedup.mp memberOther)) isLink isOther)
  · rw [follows.has_iff, List.mem_filterMap]
    simp only [List.mem_dedup]

end Enforcer

end AccessControl
