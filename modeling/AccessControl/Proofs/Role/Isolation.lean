import AccessControl.Proofs.Role.Neighbours
import AccessControl.Role.Operation

namespace AccessControl

instance (matching? : Option NameMatching) (name pattern : String) :
    Decidable (Fits matching? name pattern) :=
  match matching? with
  | none => .isFalse (not_fits_none name pattern)
  | some fits =>
      decidable_of_iff (Answer.gives (fits name pattern) true = true)
        (Answer.gives_true_iff.trans fits_some_iff.symm)

namespace RoleLinks

variable {keep : String → Bool}

theorem inDomain_filter {domain : String} (kept : keep domain = true) (links : RoleLinks) :
    inDomain (links.filter fun entry => keep entry.1) domain =
      links.inDomain domain := by
  rw [inDomain, Entries.lookup_filter kept, inDomain]

theorem filter_add (links : RoleLinks) (subject role domain : String) :
    (links.add subject role domain).filter (fun entry => keep entry.1) =
      if keep domain then
        add (links.filter fun entry => keep entry.1) subject role domain
      else links.filter fun entry => keep entry.1 := by
  rw [add, Entries.filter_put]
  split
  · next kept => rw [add, inDomain_filter kept]
  · rfl

theorem filter_delete (links : RoleLinks) (subject role domain : String) :
    (links.delete subject role domain).filter (fun entry => keep entry.1) =
      if keep domain then
        delete (links.filter fun entry => keep entry.1) subject role domain
      else links.filter fun entry => keep entry.1 := by
  unfold delete
  split
  · next known =>
      rw [Entries.filter_put]
      split
      · next kept =>
          rw [Entries.lookup_filter kept, if_pos known, inDomain_filter kept]
      · rfl
  · next unknown =>
      split
      · next kept => rw [Entries.lookup_filter kept, if_neg unknown]
      · rfl

end RoleLinks

namespace RoleGraph

instance (graph : RoleGraph) (place domain : String) : Decidable (graph.Covers place domain) :=
  inferInstanceAs (Decidable (_ ∨ _))

inductive Edit
  | add (subject role domain : String)
  | delete (subject role domain : String)

namespace Edit

def domain : Edit → String
  | .add _ _ domain => domain
  | .delete _ _ domain => domain

def operation : Edit → Operation
  | .add subject role domain => .addLink subject role domain
  | .delete subject role domain => .deleteLink subject role domain

end Edit

def unlinked (levels : Nat) (names? domains? : Option NameMatching) : RoleGraph :=
  { empty levels with names?, domains? }

def edited (graph : RoleGraph) (edits : List Edit) : RoleGraph :=
  edits.foldl (fun graph edit => (graph.perform edit.operation).2) graph

/-- The answers about a domain are the same, with all lists in the same order. -/
structure SameIn (domain : String) (graph other : RoleGraph) : Prop where
  hasLink : ∀ subject role depth,
    graph.hasLink subject role domain depth = other.hasLink subject role domain depth
  roles : ∀ subject, graph.roles subject domain = other.roles subject domain
  users : ∀ role, graph.users role domain = other.users role domain
  implicitRoles : ∀ subject,
    graph.implicitRoles subject domain = other.implicitRoles subject domain

section

variable (graph : RoleGraph) (links : RoleLinks) (domains : List DomainLinks)

theorem neighbours_withLinks : (graph.withLinks links).neighbours = graph.neighbours := rfl

theorem round_withLinks (target : String) (seen next names : List String) :
    (graph.withLinks links).round domains target seen next names =
      graph.round domains target seen next names := by
  induction names generalizing seen next with
  | nil => rfl
  | cons name names ih => simp only [round, neighbours_withLinks, ih]

theorem reaches_withLinks (target : String) (seen names : List String) (depth : Nat) :
    (graph.withLinks links).reaches domains target seen names depth =
      graph.reaches domains target seen names depth := by
  induction depth generalizing seen names with
  | zero => rfl
  | succ depth ih => simp only [reaches, round_withLinks, ih]

theorem implicitRound_withLinks (subject : String) (seen next names : List String) :
    (graph.withLinks links).implicitRound domains subject seen next names =
      graph.implicitRound domains subject seen next names := by
  induction names generalizing seen next with
  | nil => rfl
  | cons name names ih => simp only [implicitRound, neighbours_withLinks, ih]

theorem implicitFrom_withLinks (subject : String) (seen names : List String) (depth : Nat) :
    (graph.withLinks links).implicitFrom domains subject seen names depth =
      graph.implicitFrom domains subject seen names depth := by
  induction depth generalizing seen names with
  | zero => rfl
  | succ depth ih => simp only [implicitFrom, implicitRound_withLinks, ih]

end

theorem sameIn_withLinks {graph : RoleGraph} {links : RoleLinks} {domain : String}
    (same : (graph.withLinks links).linksFor domain = graph.linksFor domain) :
    SameIn domain graph (graph.withLinks links) where
  hasLink subject role depth := by
    simp only [hasLink, same, reaches_withLinks]
    rfl
  roles subject := by simp only [roles, same, neighbours_withLinks]
  users role := by simp only [users, same, neighbours_withLinks]
  implicitRoles subject := by
    simp only [implicitRoles, same, implicitFrom_withLinks]
    rfl

/-- The graph with the links of the domains that are kept. -/
def restrict (keep : String → Bool) (graph : RoleGraph) : RoleGraph :=
  graph.withLinks (graph.links.filter fun entry => keep entry.1)

section

variable {keep : String → Bool}

/-- A change in a domain that is kept is the same change of what is kept, and any other
change leaves that as it is. -/
theorem restrict_perform (graph : RoleGraph) (edit : Edit) :
    ((graph.perform edit.operation).2).restrict keep =
      if keep edit.domain then ((graph.restrict keep).perform edit.operation).2
      else graph.restrict keep := by
  cases edit with
  | add subject role domain =>
      exact (congrArg graph.withLinks (RoleLinks.filter_add graph.links subject role domain)).trans
        (apply_ite graph.withLinks _ _ _)
  | delete subject role domain =>
      exact (congrArg graph.withLinks (RoleLinks.filter_delete graph.links subject role domain)).trans
        (apply_ite graph.withLinks _ _ _)

theorem restrict_edited (graph : RoleGraph) (edits : List Edit) :
    (graph.edited edits).restrict keep =
      (graph.restrict keep).edited (edits.filter fun edit => keep edit.domain) := by
  induction edits generalizing graph with
  | nil => rfl
  | cons edit edits ih =>
      rw [edited, List.foldl_cons, ← edited, ih, restrict_perform, List.filter_cons]
      split <;> rfl

end

theorem domains?_edited (graph : RoleGraph) (edits : List Edit) :
    (graph.edited edits).domains? = graph.domains? := by
  induction edits generalizing graph with
  | nil => rfl
  | cons edit edits ih =>
      rw [edited, List.foldl_cons, ← edited, ih]
      cases edit <;> rfl

theorem linksFor_restrict {graph : RoleGraph} {domain : String} {keep : String → Bool}
    (total : ∀ fits, graph.domains? = some fits → fits.Total)
    (keeps : ∀ place, keep place = true ↔ graph.Covers place domain) :
    (graph.restrict keep).linksFor domain = graph.linksFor domain := by
  have own : (graph.links.filter fun entry => keep entry.1).lookup domain =
      graph.links.lookup domain :=
    Entries.lookup_filter ((keeps domain).mpr (.inl rfl)) graph.links
  unfold linksFor restrict withLinks
  cases given : graph.domains? with
  | none => simp only [own]
  | some fits =>
      simp only [own]
      split
      · rfl
      · next other =>
          have tested : ∀ entry : String × DomainLinks,
              (if entry.1 == domain then pure true else fits domain entry.1) =
                Except.ok (keep entry.1) := by
            intro entry
            obtain ⟨holds, answered⟩ := total fits given domain entry.1
            have covers := keeps entry.1
            rw [Covers, given, fits_some_iff, answered, Except.ok.injEq] at covers
            by_cases same : entry.1 = domain
            · simp [same, (keeps domain).mpr (.inl rfl), pure, Except.pure]
            · have agrees : keep entry.1 = holds :=
                Bool.eq_iff_iff.mpr (by simpa [same, other] using covers)
              rw [if_neg (by simpa using same), answered, agrees]
          rw [Answer.filterM_eq_ok tested, Answer.filterM_eq_ok tested, List.filter_filter]
          simp

theorem sameIn_restrict {graph : RoleGraph} {domain : String} {keep : String → Bool}
    (total : ∀ fits, graph.domains? = some fits → fits.Total)
    (keeps : ∀ place, keep place = true ↔ graph.Covers place domain) :
    SameIn domain graph (graph.restrict keep) :=
  sameIn_withLinks (linksFor_restrict total keeps)

theorem covers_edited (graph : RoleGraph) (edits : List Edit) (place domain : String) :
    (graph.edited edits).Covers place domain ↔ graph.Covers place domain := by
  unfold Covers
  rw [domains?_edited]

/-- Whatever links were added and deleted, one after the other, to a graph that had none:
without the changes in the domains whose links do not hold in a domain, the answers about
that domain are the same, with all lists in the same order. -/
theorem answers_isolated (levels : Nat) (names? : Option NameMatching)
    {domains? : Option NameMatching} (total : ∀ fits, domains? = some fits → fits.Total)
    (edits : List Edit) (domain : String) :
    SameIn domain ((unlinked levels names? domains?).edited edits)
      ((unlinked levels names? domains?).edited (edits.filter fun edit =>
        (unlinked levels names? domains?).Covers edit.domain domain)) := by
  generalize started : unlinked levels names? domains? = start
  have kept := @restrict_edited (fun place => start.Covers place domain) start edits
  have unrestricted : start.restrict (fun place => start.Covers place domain) = start := by
    rw [← started]
    rfl
  have totalToo : ∀ fits, (start.edited edits).domains? = some fits → fits.Total := by
    rw [domains?_edited, ← started]
    exact total
  have agree := sameIn_restrict totalToo fun place =>
    decide_eq_true_iff.trans (start.covers_edited edits place domain).symm
  rw [kept, unrestricted] at agree
  exact agree

namespace Sample

def starred : NameMatching := fun _ pattern => .ok (pattern == "*")

def tenants : RoleGraph := unlinked 10 none (some starred)

def edits : List Edit :=
  [.add "alice" "auditor" "globex", .add "alice" "staff" "*", .add "alice" "admin" "acme",
    .add "staff" "admin" "globex", .delete "alice" "admin" "acme", .add "bob" "staff" ""]

end Sample

/-- What is done at one tenant, or in no domain, does not matter to another tenant. -/
theorem answers_isolated_tenants :
    Sample.edits.filter (fun edit => Sample.tenants.Covers edit.domain "acme") =
      [.add "alice" "staff" "*", .add "alice" "admin" "acme",
        .delete "alice" "admin" "acme"] ∧
    SameIn "acme" (Sample.tenants.edited Sample.edits) (Sample.tenants.edited
      [.add "alice" "staff" "*", .add "alice" "admin" "acme",
        .delete "alice" "admin" "acme"]) ∧
    (Sample.tenants.edited Sample.edits).roles "alice" "acme" = .ok ["staff"] ∧
    (Sample.tenants.edited Sample.edits).roles "alice" "globex" = .ok ["auditor", "staff"] := by
  have kept : Sample.edits.filter (fun edit => Sample.tenants.Covers edit.domain "acme") =
      [.add "alice" "staff" "*", .add "alice" "admin" "acme",
        .delete "alice" "admin" "acme"] := rfl
  refine ⟨kept, ?_, Answer.eq_ok_of_gives (by decide +kernel),
    Answer.eq_ok_of_gives (by decide +kernel)⟩
  rw [← kept]
  refine answers_isolated 10 none (fun fits given => ?_) Sample.edits "acme"
  cases given
  exact fun _ _ => ⟨_, rfl⟩

end RoleGraph

end AccessControl
