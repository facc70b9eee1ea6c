import AccessControl.Proofs.Role.Neighbours

namespace AccessControl

inductive Within (near : String → String → Prop) (start : String) : Nat → String → Prop
  | here {depth : Nat} : Within near start depth start
  | step {depth : Nat} {name next : String} (reached : Within near start depth name)
      (adjacent : near name next) : Within near start (depth + 1) next

section

variable {near : String → String → Prop} {start name : String}

theorem Within.succ {depth : Nat} (within : Within near start depth name) :
    Within near start (depth + 1) name := by
  induction within with
  | here => exact .here
  | step _ adjacent ih => exact .step ih adjacent

theorem within_zero : Within near start 0 name ↔ name = start := by
  constructor
  · intro within
    cases within
    rfl
  · rintro rfl
    exact .here

theorem within_succ {depth : Nat} :
    Within near start (depth + 1) name ↔
      Within near start depth name ∨
        ∃ other, Within near start depth other ∧ near other name := by
  constructor
  · intro within
    cases within with
    | here => exact .inl .here
    | step reached adjacent => exact .inr ⟨_, reached, adjacent⟩
  · rintro (within | ⟨other, reached, adjacent⟩)
    · exact within.succ
    · exact .step reached adjacent

theorem Within.eq_start {depth : Nat} (within : Within near start depth name)
    (alone : ∀ other, ¬ near other name) : name = start := by
  cases within with
  | here => rfl
  | step _ adjacent => exact absurd adjacent (alone _)

theorem Within.congr {other : String → String → Prop} {depth : Nat}
    (same : ∀ name next, near name next ↔ other name next) :
    Within near start depth name ↔ Within other start depth name := by
  have agree : near = other := by
    funext name next
    exact propext (same name next)
  rw [agree]

/-- What a search has met after so many rounds. All that is near a name that was met was
met as well, unless the name is one of those that come next. -/
structure Frontier (near : String → String → Prop) (start : String) (depth : Nat)
    (seen names : List String) : Prop where
  mem_seen : ∀ name, name ∈ seen ↔ Within near start depth name
  subset : ∀ name ∈ names, name ∈ seen
  closed : ∀ name ∈ seen, name ∉ names → ∀ next, near name next → next ∈ seen

/-- What one round adds to the names that were met, and which ones come next then. -/
structure Explored (near : String → String → Prop) (names seen next seenAfter nextAfter :
    List String) : Prop where
  seen_iff : ∀ other, other ∈ seenAfter ↔ other ∈ seen ∨ ∃ name ∈ names, near name other
  next_iff : ∀ other, other ∈ nextAfter ↔
    other ∈ next ∨ other ∉ seen ∧ ∃ name ∈ names, near name other

theorem Explored.nil (seen next : List String) : Explored near [] seen next seen next :=
  ⟨by simp, by simp⟩

theorem Explored.cons {names seen next seenAfter nextAfter around fresh : List String}
    (adjacent : ∀ other, other ∈ around ↔ near name other)
    (unseen : ∀ other, other ∈ fresh ↔ other ∈ around ∧ other ∉ seen)
    (explored : Explored near names (seen ++ fresh) (next ++ fresh) seenAfter nextAfter) :
    Explored near (name :: names) seen next seenAfter nextAfter := by
  constructor
  · intro other
    rw [explored.seen_iff, List.mem_append, unseen, adjacent, List.exists_mem_cons_iff]
    tauto
  · intro other
    rw [explored.next_iff, List.mem_append, List.mem_append, unseen, adjacent,
      List.exists_mem_cons_iff]
    tauto

theorem frontier_start : Frontier near start 0 [start] [start] where
  mem_seen name := by rw [List.mem_singleton, within_zero]
  subset _ member := member
  closed _ member absent := absurd member absent

theorem Frontier.step {depth : Nat} {seen names seenAfter nextAfter : List String}
    (frontier : Frontier near start depth seen names)
    (explored : Explored near names seen [] seenAfter nextAfter) :
    Frontier near start (depth + 1) seenAfter nextAfter where
  mem_seen other := by
    rw [explored.seen_iff, within_succ, frontier.mem_seen]
    constructor
    · rintro (old | ⟨name, member, adjacent⟩)
      · exact .inl old
      · exact .inr ⟨name, (frontier.mem_seen name).mp (frontier.subset name member), adjacent⟩
    · rintro (old | ⟨name, reached, adjacent⟩)
      · exact .inl old
      · by_cases member : name ∈ names
        · exact .inr ⟨name, member, adjacent⟩
        · have met := (frontier.mem_seen name).mpr reached
          exact .inl ((frontier.mem_seen other).mp (frontier.closed name met member _ adjacent))
  subset other member := by
    rcases (explored.next_iff other).mp member with member | ⟨-, found⟩
    · cases member
    · exact (explored.seen_iff other).mpr (.inr found)
  closed name member notNext other adjacent := by
    rw [explored.next_iff] at notNext
    rw [explored.seen_iff] at member ⊢
    have old : name ∈ seen := by
      rcases member with old | found
      · exact old
      · by_contra new
        exact notNext (.inr ⟨new, found⟩)
    by_cases listed : name ∈ names
    · exact .inr ⟨name, listed, adjacent⟩
    · exact .inl (frontier.closed name old listed other adjacent)

/-- A search with no name to come has met all that there is to meet. -/
theorem Frontier.within_iff {depth : Nat} {seen : List String}
    (frontier : Frontier near start depth seen []) (more : Nat) :
    Within near start (depth + more) name ↔ name ∈ seen := by
  rw [frontier.mem_seen]
  induction more generalizing name with
  | zero => rfl
  | succ more ih =>
      rw [← Nat.add_assoc, within_succ, ih]
      constructor
      · rintro (within | ⟨other, reached, adjacent⟩)
        · exact within
        · have met := (frontier.mem_seen other).mpr (ih.mp reached)
          rw [← frontier.mem_seen]
          exact frontier.closed other met (by simp) name adjacent
      · exact .inl

end

namespace RoleGraph

section

variable {graph : RoleGraph} {domains : List DomainLinks} {near : String → String → Prop}
  (around : ∀ name, ∃ found, graph.neighbours domains name = .ok found ∧
    ∀ other, other ∈ found ↔ near name other)
include around

theorem round_eq (target : String) (seen next names : List String) :
    (graph.round domains target seen next names = .ok .found ∧
      ∃ name ∈ names, near name target) ∨
    ∃ seenAfter nextAfter,
      graph.round domains target seen next names = .ok (.fresh seenAfter nextAfter) ∧
      (¬ ∃ name ∈ names, near name target) ∧
      Explored near names seen next seenAfter nextAfter := by
  induction names generalizing seen next with
  | nil => exact .inr ⟨seen, next, rfl, by simp, .nil seen next⟩
  | cons name names ih =>
      obtain ⟨found, done, adjacent⟩ := around name
      rw [round, done]
      by_cases met : target ∈ found
      · refine .inl ⟨?_, name, List.mem_cons_self, (adjacent target).mp met⟩
        exact if_pos (List.contains_iff_mem.mpr met)
      · have notMet : ¬ found.contains target = true := by rwa [List.contains_iff_mem]
        have notNear : ¬ near name target := by rwa [← adjacent]
        have unseen : ∀ other, (other ∈ found.filter fun other => !seen.contains other) ↔
            other ∈ found ∧ other ∉ seen := by simp
        rcases ih (seen ++ found.filter fun other => !seen.contains other)
          (next ++ found.filter fun other => !seen.contains other) with
            ⟨rest, later⟩ | ⟨seenAfter, nextAfter, rest, notLater, explored⟩
        · refine .inl ⟨(if_neg notMet).trans rest, ?_⟩
          rw [List.exists_mem_cons_iff]
          exact .inr later
        · refine .inr ⟨seenAfter, nextAfter, (if_neg notMet).trans rest, ?_,
            .cons adjacent unseen explored⟩
          rw [List.exists_mem_cons_iff]
          exact not_or.mpr ⟨notNear, notLater⟩

theorem reaches_eq {start target : String} {depth : Nat} {seen names : List String}
    (frontier : Frontier near start depth seen names) (notMet : target ∉ seen) (more : Nat) :
    ∃ holds, graph.reaches domains target seen names more = .ok holds ∧
      (holds = true ↔ Within near start (depth + more) target) := by
  induction more generalizing depth seen names with
  | zero =>
      refine ⟨false, rfl, ?_⟩
      rw [Nat.add_zero, ← frontier.mem_seen]
      simp [notMet]
  | succ more ih =>
      rw [reaches]
      rcases round_eq around target seen [] names with
        ⟨round, name, member, adjacent⟩ | ⟨seenAfter, nextAfter, round, notNear, explored⟩
      · rw [round]
        refine ⟨true, rfl, ?_⟩
        have reached := (frontier.mem_seen name).mp (frontier.subset name member)
        -- The role is met in the next round, so also within any larger number of links.
        have within : ∀ later, Within near start (depth + (later + 1)) target := by
          intro later
          induction later with
          | zero => exact .step reached adjacent
          | succ later ih => exact ih.succ
        simp [within more]
      · rw [round]
        have next := frontier.step explored
        have unmet : target ∉ seenAfter := by
          rw [explored.seen_iff]
          exact not_or.mpr ⟨notMet, notNear⟩
        have sum : depth + (more + 1) = depth + 1 + more := by omega
        rw [sum]
        cases nextAfter with
        | nil =>
            refine ⟨false, rfl, ?_⟩
            rw [next.within_iff]
            simp [unmet]
        | cons => exact ih next unmet

theorem implicitRound_eq (start : String) (seen next names : List String) :
    ∃ seenAfter nextAfter,
      graph.implicitRound domains start seen next names = .ok (seenAfter, nextAfter) ∧
      (start ∉ seen → start ∉ seenAfter) ∧
      Explored near names (start :: seen) next (start :: seenAfter) nextAfter := by
  induction names generalizing seen next with
  | nil => exact ⟨seen, next, rfl, id, .nil _ next⟩
  | cons name names ih =>
      obtain ⟨found, done, adjacent⟩ := around name
      rw [implicitRound, done]
      have unseen : ∀ other, (other ∈ found.filter fun other =>
          other != start && !seen.contains other) ↔
            other ∈ found ∧ other ∉ start :: seen := by
        intro other
        simp
      obtain ⟨seenAfter, nextAfter, rest, apart, explored⟩ := ih
        (seen ++ found.filter fun other => other != start && !seen.contains other)
        (next ++ found.filter fun other => other != start && !seen.contains other)
      refine ⟨seenAfter, nextAfter, rest, fun absent => apart ?_, .cons adjacent unseen explored⟩
      rw [List.mem_append, unseen]
      simp [absent]

theorem implicitFrom_eq {start : String} {depth : Nat} {seen names : List String}
    (frontier : Frontier near start depth (start :: seen) names) (apart : start ∉ seen)
    (more : Nat) :
    ∃ found, graph.implicitFrom domains start seen names more = .ok found ∧
      ∀ name, name ∈ found ↔ name ≠ start ∧ Within near start (depth + more) name := by
  -- The names that were met are the start and the roles, so those without the start.
  have met : ∀ {depth : Nat} {seen : List String}, start ∉ seen →
      (∀ name, name ∈ start :: seen ↔ Within near start depth name) →
      ∀ name, name ∈ seen ↔ name ≠ start ∧ Within near start depth name := by
    intro depth seen apart mem name
    rw [← mem, List.mem_cons]
    constructor
    · intro member
      refine ⟨?_, .inr member⟩
      rintro rfl
      exact apart member
    · rintro ⟨different, same | member⟩
      · exact absurd same different
      · exact member
  induction more generalizing depth seen names with
  | zero => exact ⟨seen, rfl, met apart frontier.mem_seen⟩
  | succ more ih =>
      obtain ⟨seenAfter, nextAfter, round, stillApart, explored⟩ :=
        implicitRound_eq around start seen [] names
      rw [implicitFrom, round]
      have next := frontier.step explored
      have sum : depth + (more + 1) = depth + 1 + more := by omega
      rw [sum]
      cases nextAfter with
      | nil =>
          refine ⟨seenAfter, rfl, met (stillApart apart) fun name => ?_⟩
          exact (next.within_iff more).symm
      | cons => exact ih next (stillApart apart)

end

section

variable {graph : RoleGraph} (total : graph.Total) (sound : graph.links.Sound)
include total sound

/-- A subject has a role if the role is within so many links of it. -/
theorem hasLink_eq (subject role domain : String) (depth : Option Int) :
    ∃ holds, graph.hasLink subject role domain depth = .ok holds ∧
      (holds = true ↔
        Within (graph.Adjacent domain) subject (depth.getD graph.levels).toNat role) := by
  unfold hasLink
  by_cases same : subject = role
  · rw [if_pos same, same]
    exact ⟨true, rfl, by simp [Within.here]⟩
  · rw [if_neg same]
    obtain ⟨links, done, holding⟩ := linksFor_eq total sound domain
    have searched := @reaches_eq graph links (graph.Adjacent domain)
      (neighbours_eq total sound holding) subject role 0 _ _ frontier_start
      (by simpa using Ne.symm same) (depth.getD graph.levels).toNat
    rw [Nat.zero_add] at searched
    rw [done]
    cases links with
    | cons => exact searched
    | nil =>
        -- Without links no name is near another, so the search would find nothing.
        refine ⟨false, rfl, ?_⟩
        have alone : ∀ name, ¬ graph.Adjacent domain name role := by
          intro name adjacent
          obtain ⟨around, inNil, near⟩ := neighbours_eq total sound holding name
          cases inNil
          exact absurd ((near role).mpr adjacent) (by simp)
        constructor
        · intro contradiction
          cases contradiction
        · intro within
          exact absurd (within.eq_start alone).symm same

/-- The roles that a subject has within the levels of the graph, and no others. -/
theorem implicitRoles_eq (subject domain : String) :
    ∃ found, graph.implicitRoles subject domain = .ok found ∧
      ∀ role, role ∈ found ↔
        role ≠ subject ∧ Within (graph.Adjacent domain) subject graph.levels role := by
  obtain ⟨links, done, holding⟩ := linksFor_eq total sound domain
  have searched := @implicitFrom_eq graph links (graph.Adjacent domain)
    (neighbours_eq total sound holding) subject 0 [] _ frontier_start (by simp) graph.levels
  rw [Nat.zero_add] at searched
  rw [implicitRoles, done]
  exact searched

end

end RoleGraph

end AccessControl
