import AccessControl.Proofs.Role.Search

namespace AccessControl.RoleGraph

/-! The search for one role asks about the same names as the search for all roles, in the
same order, and stops where it meets the role. So it answers whenever the other one does, and
a role is denied only if the other one answers. -/

section

variable {graph : RoleGraph} {domains : List DomainLinks} {subject target : String}

theorem subset_implicitRound {seen next names seenAfter nextAfter : List String}
    (done : graph.implicitRound domains subject seen next names = .ok (seenAfter, nextAfter)) :
    seen ⊆ seenAfter := by
  induction names generalizing seen next with
  | nil =>
      cases done
      exact List.Subset.refl _
  | cons name names ih =>
      obtain ⟨around, -, rest⟩ := Answer.bind_eq_ok.mp done
      exact List.Subset.trans (List.subset_append_left _ _) (ih rest)

theorem subset_implicitFrom {seen names found : List String} {depth : Nat}
    (done : graph.implicitFrom domains subject seen names depth = .ok found) :
    seen ⊆ found := by
  induction depth generalizing seen names with
  | zero =>
      cases done
      exact List.Subset.refl _
  | succ depth ih =>
      obtain ⟨⟨seenAfter, nextAfter⟩, round, rest⟩ := Answer.bind_eq_ok.mp done
      have grown := subset_implicitRound round
      simp only at rest
      split at rest
      · cases rest
        exact grown
      · exact List.Subset.trans grown (ih rest)

theorem filter_unseen (seen around : List String) :
    (around.filter fun other => !(subject :: seen).contains other) =
      around.filter fun other => other != subject && !seen.contains other := by
  apply List.filter_congr
  intro other _
  rw [List.contains_cons, Bool.not_or, bne]

theorem round_of_implicitRound (different : target ≠ subject)
    {seen next names seenAfter nextAfter : List String} (unmet : target ∉ seen)
    (done : graph.implicitRound domains subject seen next names = .ok (seenAfter, nextAfter)) :
    graph.round domains target (subject :: seen) next names =
      .ok (if target ∈ seenAfter then .found else .fresh (subject :: seenAfter) nextAfter) := by
  induction names generalizing seen next with
  | nil =>
      cases done
      rw [if_neg unmet]
      rfl
  | cons name names ih =>
      obtain ⟨around, near, rest⟩ := Answer.bind_eq_ok.mp done
      refine Answer.bind_eq_ok.mpr ⟨around, near, ?_⟩
      by_cases met : target ∈ around
      · have fresh : target ∈ around.filter fun other =>
            other != subject && !seen.contains other := by
          simp [met, different, unmet]
        rw [if_pos (List.contains_iff_mem.mpr met),
          if_pos (subset_implicitRound rest (List.mem_append_right seen fresh))]
        rfl
      · rw [if_neg (by rwa [List.contains_iff_mem])]
        simp only [filter_unseen]
        refine ih ?_ rest
        simp [met, unmet]

theorem implicitRound_of_round {seen next names seenAfter nextAfter : List String}
    (done : graph.round domains target (subject :: seen) next names =
      .ok (.fresh seenAfter nextAfter)) :
    ∃ met, graph.implicitRound domains subject seen next names = .ok (met, nextAfter) ∧
      seenAfter = subject :: met := by
  induction names generalizing seen next with
  | nil =>
      cases done
      exact ⟨seen, rfl, rfl⟩
  | cons name names ih =>
      obtain ⟨around, near, rest⟩ := Answer.bind_eq_ok.mp done
      split at rest
      · cases rest
      · simp only [filter_unseen] at rest
        obtain ⟨met, later, same⟩ := ih rest
        exact ⟨met, Answer.bind_eq_ok.mpr ⟨around, near, later⟩, same⟩

theorem reaches_of_implicitFrom (different : target ≠ subject) {seen names found : List String}
    {depth : Nat} (unmet : target ∉ seen)
    (done : graph.implicitFrom domains subject seen names depth = .ok found) :
    graph.reaches domains target (subject :: seen) names depth =
      .ok (Decidable.decide (target ∈ found)) := by
  induction depth generalizing seen names with
  | zero =>
      cases done
      rw [decide_eq_false unmet]
      rfl
  | succ depth ih =>
      obtain ⟨⟨seenAfter, nextAfter⟩, round, rest⟩ := Answer.bind_eq_ok.mp done
      refine Answer.bind_eq_ok.mpr ⟨_, round_of_implicitRound different unmet round, ?_⟩
      by_cases met : target ∈ seenAfter
      · rw [if_pos met]
        have kept : target ∈ found := by
          simp only at rest
          split at rest
          · cases rest
            exact met
          · exact subset_implicitFrom rest met
        rw [decide_eq_true kept]
        rfl
      · rw [if_neg met]
        simp only at rest ⊢
        split at rest
        · next ended =>
            cases rest
            rw [if_pos ended, decide_eq_false met]
            rfl
        · next more =>
            rw [if_neg more]
            exact ih met rest

theorem implicitFrom_of_reaches {seen names : List String} {depth : Nat}
    (denied : graph.reaches domains target (subject :: seen) names depth = .ok false) :
    ∃ found, graph.implicitFrom domains subject seen names depth = .ok found := by
  induction depth generalizing seen names with
  | zero => exact ⟨seen, rfl⟩
  | succ depth ih =>
      obtain ⟨result, round, rest⟩ := Answer.bind_eq_ok.mp denied
      cases result with
      | found => cases rest
      | fresh seenAfter nextAfter =>
          obtain ⟨met, explored, rfl⟩ := implicitRound_of_round round
          simp only at rest
          split at rest
          · next ended =>
              refine ⟨met, Answer.bind_eq_ok.mpr ⟨_, explored, ?_⟩⟩
              exact if_pos ended
          · next more =>
              obtain ⟨found, later⟩ := ih rest
              refine ⟨found, Answer.bind_eq_ok.mpr ⟨_, explored, ?_⟩⟩
              exact (if_neg more).trans later

end

section

variable {graph : RoleGraph} {subject domain : String}

theorem implicitFrom_nil (depth : Nat) :
    graph.implicitFrom [] subject [] [subject] depth = .ok [] := by
  cases depth <;> rfl

theorem hasLink_of_implicitRoles {roles : List String}
    (done : graph.implicitRoles subject domain = .ok roles) (role : String) :
    graph.hasLink subject role domain none =
      .ok (Decidable.decide (subject = role ∨ role ∈ roles)) := by
  obtain ⟨domains, holding, rest⟩ := Answer.bind_eq_ok.mp done
  unfold hasLink
  by_cases same : subject = role
  · rw [if_pos same, decide_eq_true (.inl same)]
    rfl
  · rw [if_neg same, holding]
    have told : (subject = role ∨ role ∈ roles) ↔ role ∈ roles := or_iff_right same
    simp only [told]
    cases domains with
    | nil =>
        rw [implicitFrom_nil] at rest
        cases rest
        rfl
    | cons links domains => exact reaches_of_implicitFrom (Ne.symm same) List.not_mem_nil rest

/-- A role is denied only where all roles of the subject can be told. -/
theorem implicitRoles_of_hasLink {role : String}
    (denied : graph.hasLink subject role domain none = .ok false) :
    ∃ roles, graph.implicitRoles subject domain = .ok roles := by
  unfold hasLink at denied
  split at denied
  · cases denied
  · obtain ⟨domains, holding, rest⟩ := Answer.bind_eq_ok.mp denied
    rw [implicitRoles, holding]
    cases domains with
    | nil => exact ⟨[], implicitFrom_nil graph.levels⟩
    | cons links domains => exact implicitFrom_of_reaches rest

end

end AccessControl.RoleGraph
