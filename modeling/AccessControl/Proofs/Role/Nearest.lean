import AccessControl.Proofs.Role.Paths

namespace AccessControl

/-- The number of names on the shortest path from a start to a name. -/
def Distance (near : String → String → Prop) (start name : String) (hops : Nat) : Prop :=
  (∃ names, Path near start name names ∧ names.length = hops) ∧
    ∀ names, Path near start name names → hops ≤ names.length

/-- Names that are listed once, with their distances in order, none of them beyond a
depth. -/
structure Layers (near : String → String → Prop) (start : String) (depth : Nat)
    (names : List String) : Prop where
  nodup : names.Nodup
  ordered : ∃ distances, List.Forall₂ (Distance near start) names distances ∧
    distances.Pairwise (· ≤ ·) ∧ ∀ hops ∈ distances, hops ≤ depth

section

variable {near : String → String → Prop} {start name : String}

theorem distance_of_within {depth : Nat} (met : Within near start (depth + 1) name)
    (new : ¬ Within near start depth name) : Distance near start name (depth + 1) := by
  have shortest : ∀ names, Path near start name names → depth + 1 ≤ names.length := by
    intro names path
    by_contra short
    exact new (path.within.mono (by omega))
  rcases within_iff_path.mp met with rfl | ⟨names, path, short⟩
  · exact absurd .here new
  · exact ⟨⟨names, path, Nat.le_antisymm short (shortest names path)⟩, shortest⟩

theorem layers_nil : Layers near start 0 [] :=
  ⟨.nil, [], .nil, .nil, by simp⟩

theorem Layers.append {depth : Nat} {names fresh : List String}
    (layers : Layers near start depth names) (nodup : fresh.Nodup)
    (apart : ∀ name ∈ fresh, name ∉ names)
    (far : ∀ name ∈ fresh, Distance near start name (depth + 1)) :
    Layers near start (depth + 1) (names ++ fresh) where
  nodup := layers.nodup.append nodup fun name member new => apart name new member
  ordered := by
    obtain ⟨distances, measured, sorted, within⟩ := layers.ordered
    have measuredToo : List.Forall₂ (Distance near start) fresh
        (List.replicate fresh.length (depth + 1)) := by
      rw [← List.map_const', List.forall₂_map_right_iff, List.forall₂_same]
      exact far
    refine ⟨distances ++ List.replicate fresh.length (depth + 1),
      List.rel_append measured measuredToo, ?_, ?_⟩
    · rw [List.pairwise_append]
      refine ⟨sorted, List.pairwise_replicate_of_refl, fun less there more new => ?_⟩
      rw [List.eq_of_mem_replicate new]
      exact Nat.le_succ_of_le (within less there)
    · intro hops member
      rcases List.mem_append.mp member with there | new
      · exact Nat.le_succ_of_le (within hops there)
      · exact Nat.le_of_eq (List.eq_of_mem_replicate new)

theorem Distance.of_moving {hops : Nat}
    (distance : Distance (fun name next => next ≠ name ∧ near name next) start name hops)
    (different : name ≠ start) : Distance near start name hops := by
  obtain ⟨⟨names, path, length⟩, shortest⟩ := distance
  refine ⟨⟨names, ⟨path.chain.imp fun _ _ step => step.2, path.last⟩, length⟩, ?_⟩
  intro others other
  rcases within_iff_path.mp (within_moving_iff.mpr other.within) with same | ⟨moving, leads, short⟩
  · exact absurd same different
  · exact (shortest moving leads).trans short

end

namespace RoleGraph

theorem nodup_neighbours {graph : RoleGraph} {domains : List DomainLinks} {name : String}
    {around : List String} (done : graph.neighbours domains name = .ok around) :
    around.Nodup := by
  obtain ⟨found, collected, filtered⟩ := Answer.bind_eq_ok.mp done
  cases filtered
  refine List.Nodup.filter _ (Answer.foldlM_keeps ?_ List.nodup_nil collected)
  intro before links after nodup joined
  have own := nodup_addNames nodup (links.rolesOf name)
  unfold joinDomain at joined
  cases given : graph.names? with
  | none =>
      rw [given] at joined
      cases joined
      exact own
  | some fits =>
      rw [given] at joined
      refine Answer.foldlM_keeps ?_ own joined
      intro before entry after nodup joined
      unfold joinPattern at joined
      split at joined
      · obtain ⟨holds, -, rest⟩ := Answer.bind_eq_ok.mp joined
        cases holds with
        | true =>
            cases rest
            exact nodup_addNames (nodup_addName nodup _) _
        | false =>
            cases rest
            exact nodup
      · cases joined
        exact nodup

theorem implicitRound_fresh {graph : RoleGraph} {domains : List DomainLinks} {start : String}
    {seen next names seenAfter nextAfter : List String}
    (done : graph.implicitRound domains start seen next names = .ok (seenAfter, nextAfter)) :
    ∃ fresh, seenAfter = seen ++ fresh ∧ nextAfter = next ++ fresh ∧ fresh.Nodup ∧
      ∀ name ∈ fresh, name ∉ start :: seen := by
  induction names generalizing seen next with
  | nil =>
      cases done
      exact ⟨[], by simp, by simp, .nil, by simp⟩
  | cons name names ih =>
      obtain ⟨around, found, rest⟩ := Answer.bind_eq_ok.mp done
      obtain ⟨fresh, seenIs, nextIs, nodup, new⟩ := ih rest
      refine ⟨(around.filter fun other => other != start && !seen.contains other) ++ fresh,
        ?_, ?_, ?_, ?_⟩
      · rw [seenIs, List.append_assoc]
      · rw [nextIs, List.append_assoc]
      · refine ((nodup_neighbours found).filter _).append nodup fun other first later => ?_
        exact new other later (List.mem_cons_of_mem _ (List.mem_append_right _ first))
      · intro other member
        rcases List.mem_append.mp member with first | later
        · have unmet := (List.mem_filter.mp first).2
          simpa using unmet
        · intro met
          refine new other later ?_
          rcases List.mem_cons.mp met with same | met
          · exact List.mem_cons.mpr (.inl same)
          · exact List.mem_cons_of_mem _ (List.mem_append_left _ met)

section

variable {graph : RoleGraph} {domains : List DomainLinks} {near : String → String → Prop}
  (around : ∀ name, ∃ found, graph.neighbours domains name = .ok found ∧
    ∀ other, other ∈ found ↔ near name other)
include around

/-- Every round puts the names that are one link farther away behind those before. -/
theorem implicitFrom_layers {start : String} {depth : Nat} {seen names found : List String}
    (frontier : Frontier near start depth (start :: seen) names)
    (layers : Layers near start depth seen) {more : Nat}
    (done : graph.implicitFrom domains start seen names more = .ok found) :
    ∃ far, Layers near start far found := by
  induction more generalizing depth seen names with
  | zero =>
      cases done
      exact ⟨depth, layers⟩
  | succ more ih =>
      obtain ⟨seenAfter, nextAfter, round, -, explored⟩ :=
        implicitRound_eq around start seen [] names
      obtain ⟨_, rfl, rfl, nodup, new⟩ := implicitRound_fresh round
      have next := frontier.step explored
      have later : Layers near start (depth + 1) (seen ++ nextAfter) := by
        refine layers.append nodup (fun name member old => ?_) fun name member => ?_
        · exact new name member (List.mem_cons_of_mem _ old)
        · refine distance_of_within ((next.mem_seen name).mp (next.subset name member)) ?_
          rw [← frontier.mem_seen]
          exact new name member
      rw [implicitFrom, round] at done
      cases nextAfter with
      | nil =>
          cases done
          exact ⟨depth + 1, later⟩
      | cons => exact ih next later done

end

/-- Whatever was done to a graph, with matchings that always have an answer: all roles of a
subject are listed once and without the subject. They are the other names that the subject
has within the levels of the graph, and their distances are in order. -/
theorem implicitRoles_nearest_first (levels : Nat) (operations : List Operation)
    (total : ((empty levels).after operations).Total) (subject domain : String) :
    ∃ found, ((empty levels).after operations).implicitRoles subject domain = .ok found ∧
      found.Nodup ∧ subject ∉ found ∧
      (∀ role, role ∈ found ↔ role ≠ subject ∧
        ((empty levels).after operations).hasLink subject role domain none = .ok true) ∧
      ∃ distances, List.Forall₂
          (Distance (((empty levels).after operations).LeadsTo domain) subject) found distances ∧
        distances.Pairwise (· ≤ ·) := by
  have sound := sound_after_empty levels operations
  generalize (empty levels).after operations = graph at *
  obtain ⟨found, done, roles⟩ := implicitRoles_eq total sound subject domain
  have absent : subject ∉ found := fun member => ((roles subject).mp member).1 rfl
  obtain ⟨links, held, holding⟩ := linksFor_eq total sound domain
  have searched : graph.implicitFrom links subject [] [subject] graph.levels = .ok found := by
    rw [implicitRoles, held] at done
    exact done
  obtain ⟨far, nodup, distances, measured, sorted, -⟩ := implicitFrom_layers
    (neighbours_eq total sound holding) frontier_start layers_nil searched
  refine ⟨found, done, nodup, absent, fun role => ?_, distances, ?_, sorted⟩
  · obtain ⟨holds, answered, within⟩ := hasLink_eq total sound subject role domain none
    rw [roles, answered, Except.ok.injEq, within]
    rfl
  · rw [List.forall₂_iff_get] at measured ⊢
    refine ⟨measured.1, fun place inside insideToo => ?_⟩
    have distance := measured.2 place inside insideToo
    rw [adjacent_eq_moving] at distance
    exact distance.of_moving fun same => absent (same ▸ List.get_mem found ⟨place, inside⟩)

/-- The names that two links lead to stand behind those of one link. -/
theorem implicitRoles_nearest_first_circle :
    ((empty 2).after Sample.circle).implicitRoles "alice" "" =
        .ok ["staff", "*", "guest", "admin", "reader"] ∧
      ((empty 2).after Sample.circle).hasLink "alice" "reader" "" none = .ok true ∧
      ∃ distances, List.Forall₂
          (Distance (((empty 2).after Sample.circle).LeadsTo "") "alice")
          ["staff", "*", "guest", "admin", "reader"] distances ∧
        distances.Pairwise (· ≤ ·) := by
  have listed : ((empty 2).after Sample.circle).implicitRoles "alice" "" =
      .ok ["staff", "*", "guest", "admin", "reader"] :=
    Answer.eq_ok_of_gives (by decide +kernel)
  obtain ⟨found, done, -, -, roles, ordered⟩ :=
    implicitRoles_nearest_first 2 Sample.circle Sample.total_circle "alice" ""
  rw [listed] at done
  cases done
  exact ⟨listed, ((roles "reader").mp (by decide)).2, ordered⟩

end RoleGraph

end AccessControl
