import AccessControl.Proofs.Enforcer.Linked
import AccessControl.Proofs.Enforcer.Verdict
import AccessControl.Proofs.Role.Remnant

namespace AccessControl.Enforcer

/-- The matchings of the roles always have an answer. -/
def TotalMatchings (enforcer : Enforcer) : Prop :=
  ∀ ⦃role scope⦄, enforcer.model.roles.lookup role = some scope →
    (newGraph enforcer.settings enforcer.matchings role).Total

/-- The names that remain in the role graphs without links are aloof. -/
def Undisturbed (enforcer : Enforcer) : Prop :=
  ∀ ⦃role scope graph⦄, enforcer.model.roles.lookup role = some scope →
    enforcer.graphs.lookup role = some graph →
    ∀ domain name, graph.Remains domain name → graph.Aloof domain name

theorem GraphOf.fresh {settings : Settings} {matchings : Entries String RoleMatching}
    {role : String} {scope : RoleScope} {rows others : List Row} {graph : RoleGraph}
    (isGraph : GraphOf settings matchings role scope rows graph)
    (same : ∀ row, row ∈ others ↔ row ∈ rows) :
    graph.Fresh (others.foldl (addRow scope) (newGraph settings matchings role)) := by
  have new := graphOf_new settings matchings role scope others
  refine ⟨new.setup.levels.trans isGraph.setup.levels.symm,
    new.setup.names.trans isGraph.setup.names.symm,
    new.setup.domains.trans isGraph.setup.domains.symm, new.links.sound,
    fun subject target domain => ?_, fun knows => ?_⟩
  · rw [new.links.has_iff, isGraph.links.has_iff]
    simp only [same]
  · rcases knows_foldl_addRow knows with empty | ⟨row, member, subject, target, isLink, named⟩
    · cases empty
    · have has := (new.links.has_iff _ _ _).mpr ⟨row, member, isLink⟩
      rcases named with rfl | rfl
      · exact .inl ⟨target, has⟩
      · exact .inr ⟨subject, has⟩

theorem GraphOf.total {settings : Settings} {matchings : Entries String RoleMatching}
    {role : String} {scope : RoleScope} {rows : List Row} {graph : RoleGraph}
    (isGraph : GraphOf settings matchings role scope rows graph)
    (total : (newGraph settings matchings role).Total) : graph.Total :=
  ⟨by rw [isGraph.setup.names]; exact total.names,
    by rw [isGraph.setup.domains]; exact total.domains⟩

/-- Enforcers that differ in the order of role rows and in their role graphs at most, as
far as decisions depend on them. -/
structure Akin (before after : Enforcer) : Prop where
  settings : after.settings = before.settings
  enabled : after.switches.enabled = before.switches.enabled
  functions : after.functions = before.functions
  matchings : after.matchings = before.matchings
  model : after.model = before.model
  matchers : after.matchers = before.matchers
  policies : ∀ key ∈ Entries.keys before.model.policies,
    after.table.rows key = before.table.rows key
  mem_rows : ∀ key row, row ∈ after.table.rows key ↔ row ∈ before.table.rows key

def AnswersAlike (before after : Enforcer) : Prop :=
  ∀ ⦃role scope⦄, before.model.roles.lookup role = some scope →
    ∃ graph other, before.graphs.lookup role = some graph ∧
      after.graphs.lookup role = some other ∧ graph.SameAnswers other

/-- The enforcers decide alike where nothing is remembered. Where decisions are, they do so on
requests without undefined numbers, as these share what is remembered. -/
structure DecideAlike (before after : Enforcer) : Prop where
  anew : ∀ context values explain,
    after.decideAnew context values explain = before.decideAnew context values explain
  verdict : ∀ context values explain, AllDefined values →
    (after.decide context values explain).1.map Decision.verdict =
      (before.decide context values explain).1.map Decision.verdict

theorem rolePredicate_eq {graph other : RoleGraph} (same : graph.SameAnswers other)
    (role : String) (scope : RoleScope) :
    rolePredicate role scope other = rolePredicate role scope graph := by
  funext arguments
  unfold rolePredicate
  simp only [same.hasLink]

theorem AnswersAlike.function?_eq {before after : Enforcer}
    (answers : AnswersAlike before after) (model : after.model = before.model)
    (functions : after.functions = before.functions) : after.function? = before.function? := by
  funext name
  unfold function?
  rw [model, functions]
  cases declared : before.model.roles.lookup name with
  | none => cases after.graphs.lookup name <;> cases before.graphs.lookup name <;> rfl
  | some scope =>
      obtain ⟨graph, other, there, thereAfter, same⟩ := answers declared
      rw [there, thereAfter]
      simp only
      rw [rolePredicate_eq same]

section

variable {before after : Enforcer} (akin : Akin before after)
  (answers : AnswersAlike before after)
include akin answers

theorem Akin.decideAnew_eq (context : EnforceContext) (values : List Value)
    (explain : Bool) :
    after.decideAnew context values explain = before.decideAnew context values explain := by
  refine decideAnew_congr id akin.model akin.matchers akin.enabled fun selection selected => ?_
  have declared := (selects_of_select selected).lookup_policyKey
  have rows := akin.policies _ (Entries.mem_keys_of_lookup declared)
  rw [evaluate_fst, evaluate_fst, answers.function?_eq akin.model akin.functions, rows]

theorem Akin.decideAlike (reachable : Reachable before) (reachableAfter : Reachable after) :
    DecideAlike before after := by
  refine ⟨akin.decideAnew_eq answers, fun context values explain defined => ?_⟩
  rw [reachable.decide_verdict context defined, reachableAfter.decide_verdict context defined,
    akin.decideAnew_eq answers]

end

theorem Akin.answersAlike {before after : Enforcer} (akin : Akin before after)
    (linked : before.Linked) (linkedAfter : after.Linked) (total : before.TotalMatchings)
    (undisturbed : before.Undisturbed) (undisturbedAfter : after.Undisturbed) :
    AnswersAlike before after := by
  intro role scope declared
  have declaredAfter : after.model.roles.lookup role = some scope := by
    rw [akin.model]
    exact declared
  obtain ⟨graph, there, isGraph⟩ := linked.graph declared
  obtain ⟨other, thereAfter, isOther⟩ := linkedAfter.graph declaredAfter
  rw [akin.settings, akin.matchings] at isOther
  have fresh := isGraph.fresh fun row => (akin.mem_rows role row)
  have freshOther := isOther.fresh fun row => Iff.rfl
  have same := (fresh.sameAnswers_iff isGraph.links.sound (isGraph.total (total declared))).mpr
    (undisturbed declared there)
  have sameOther := (freshOther.sameAnswers_iff isOther.links.sound
    (isOther.total (total declared))).mpr (undisturbedAfter declaredAfter thereAfter)
  exact ⟨graph, other, there, thereAfter, same.trans sameOther.symm⟩

/-- Making the role graphs anew changes no answer and no decision. -/
structure Settled (enforcer : Enforcer) : Prop where
  answers : AnswersAlike enforcer enforcer.rebuildLinks
  decisions : DecideAlike enforcer enforcer.rebuildLinks

theorem akin_rebuildLinks (enforcer : Enforcer) : Akin enforcer enforcer.rebuildLinks :=
  ⟨rfl, rfl, rfl, rfl, rfl, rfl, fun _ _ => rfl, fun _ _ => Iff.rfl⟩

theorem Linked.answersAlike_rebuildLinks_iff {enforcer : Enforcer} (linked : enforcer.Linked)
    (total : enforcer.TotalMatchings) :
    AnswersAlike enforcer enforcer.rebuildLinks ↔ enforcer.Undisturbed := by
  have rebuilt : ∀ {role scope}, enforcer.model.roles.lookup role = some scope →
      enforcer.rebuildLinks.graphs.lookup role =
        some ((enforcer.table.rows role).foldl (addRow scope)
          (newGraph enforcer.settings enforcer.matchings role)) := by
    intro role scope declared
    exact lookup_linkAll declared
      (lookup_newGraphs enforcer.settings enforcer.matchings declared)
  constructor
  · intro answers role scope graph declared there
    obtain ⟨own, thereOwn, isGraph⟩ := linked.graph declared
    rw [there] at thereOwn
    cases thereOwn
    obtain ⟨same, other, found, foundOther, alike⟩ := answers declared
    rw [there] at found
    rw [rebuilt declared] at foundOther
    cases found
    cases foundOther
    have fresh := isGraph.fresh fun row => Iff.rfl
    exact (fresh.sameAnswers_iff isGraph.links.sound
      (isGraph.total (total declared))).mp alike
  · intro undisturbed role scope declared
    obtain ⟨graph, there, isGraph⟩ := linked.graph declared
    have fresh := isGraph.fresh fun row => Iff.rfl
    exact ⟨graph, _, there, rebuilt declared, (fresh.sameAnswers_iff isGraph.links.sound
      (isGraph.total (total declared))).mpr (undisturbed declared there)⟩

theorem akin_of_removed {enforcer added removed : Enforcer} (sound : enforcer.Sound)
    {storage? later? stored? kept? : Option Storage} {role : String} {fields : Fields}
    (isRole : role ∈ Entries.keys enforcer.model.roles)
    (add : enforcer.mutate storage? (.add role fields) = (.ok true, added, stored?))
    (remove : added.mutate later? (.remove role fields) = (.ok true, removed, kept?)) :
    Akin enforcer removed := by
  obtain ⟨change, checked, rfl⟩ := commit_of_made add
  obtain ⟨read, admitted⟩ := read_of_check checked
  obtain ⟨other, checkedLater, rfl⟩ := commit_of_made remove
  obtain ⟨readLater, admittedLater⟩ := read_of_check checkedLater
  cases Mutation.reads_of_read read
  cases Mutation.reads_of_read readLater
  next row readRow other readOther =>
  rw [commit_eq] at readOther admittedLater
  cases Except.ok.inj (readOther.symm.trans readRow)
  have soundAdded := sound_changeTable sound.table (.add role row)
  have elsewhere : ∀ {key}, key ≠ role →
      (changeTable (changeTable enforcer.table (.add role row)) (.remove role row)).rows key =
        enforcer.table.rows key := by
    intro key different
    rw [(sameElsewhere_changeTable _ (.remove role row)).rows different,
      (sameElsewhere_changeTable _ (.add role row)).rows different]
  have here : (changeTable (changeTable enforcer.table (.add role row))
      (.remove role row)).rows role = (enforcer.table.rows role ++ [row]).erase row := by
    have later := rows_changeTable soundAdded admittedLater trivial
    have first := rows_changeTable sound.table admitted trivial
    simp only [Mutation.key, Mutation.onRows] at later first
    rw [later, first]
  rw [commit_eq, commit_eq]
  refine ⟨rfl, rfl, rfl, rfl, rfl, rfl, fun key isPolicy => ?_, fun key other => ?_⟩
  · exact elsewhere (sound.read.policies_ne_roles isPolicy isRole)
  · change other ∈ (changeTable (changeTable enforcer.table (.add role row))
      (.remove role row)).rows key ↔ _
    by_cases same : key = role
    · rw [same, here]
      have again := (List.perm_append_singleton row (enforcer.table.rows role)).erase row
      rw [List.erase_cons_head] at again
      exact again.mem_iff
    · rw [elsewhere same]

theorem undisturbed_of_exact {enforcer : Enforcer} (linked : enforcer.Linked)
    (exact : ∀ role, ((enforcer.matchings.lookup role).getD .exact).names? = none) :
    enforcer.Undisturbed := by
  intro role scope graph declared there domain name _
  obtain ⟨own, found, isGraph⟩ := linked.graph declared
  rw [there] at found
  cases found
  refine RoleGraph.aloof_of_no_matching ?_ domain name
  rw [isGraph.setup.names]
  exact exact role

/-- While role links are built, making the role graphs anew changes no answer and no fresh
decision if and only if the names that remain without links are aloof. A row of a role that
is added and removed again restores all fresh decisions if they are aloof before and after.
Decisions that may be remembered are the same on requests without undefined numbers. -/
theorem Linking.settled_iff_undisturbed {enforcer : Enforcer} (linking : Linking enforcer)
    (total : enforcer.TotalMatchings) :
    (Settled enforcer ↔ enforcer.Undisturbed) ∧
    ∀ {storage? later? stored? kept? : Option Storage} {role : String} {fields : Fields}
      {added removed : Enforcer}, role ∈ Entries.keys enforcer.model.roles →
        enforcer.mutate storage? (.add role fields) = (.ok true, added, stored?) →
        added.mutate later? (.remove role fields) = (.ok true, removed, kept?) →
        enforcer.Undisturbed → removed.Undisturbed → DecideAlike enforcer removed := by
  have linked := linking.linked
  refine ⟨⟨fun settled => (linked.answersAlike_rebuildLinks_iff total).mp settled.answers,
    fun undisturbed => ?_⟩, ?_⟩
  · have answers := (linked.answersAlike_rebuildLinks_iff total).mpr undisturbed
    exact ⟨answers, (akin_rebuildLinks enforcer).decideAlike answers linking.reachable
      (linking.reachable.after (.adjust .rebuildLinks) trivial)⟩
  · intro storage? later? stored? kept? role fields added removed isRole add remove
      undisturbed undisturbedAfter
    have akin := akin_of_removed linked.sound isRole add remove
    have isAdded : enforcer.after (.mutate storage? (.add role fields)) = added :=
      congrArg (·.2.1) add
    have isRemoved : added.after (.mutate later? (.remove role fields)) = removed :=
      congrArg (·.2.1) remove
    have reachable := (linking.reachable.after (.mutate storage? (.add role fields)) trivial)
    rw [isAdded] at reachable
    have reachableAfter := reachable.after (.mutate later? (.remove role fields)) trivial
    rw [isRemoved] at reachableAfter
    have linkedAdded := stable_linked.mutate linked storage? (.add role fields)
    rw [add] at linkedAdded
    have linkedAfter := stable_linked.mutate linkedAdded later? (.remove role fields)
    rw [remove] at linkedAfter
    exact akin.decideAlike
      (akin.answersAlike linked linkedAfter total undisturbed undisturbedAfter)
      linking.reachable reachableAfter

theorem settled_iff_undisturbed_staffed :
    Settled Sample.staffed ∧ DecideAlike (Sample.enforcer none)
      (Sample.staffed.after (.mutate none (.remove "g" [.text "bob", .text "staff"]))) := by
  have total : ∀ {enforcer : Enforcer}, enforcer.matchings = [] → enforcer.TotalMatchings := by
    intro enforcer exact role scope _
    unfold newGraph
    rw [exact]
    constructor
    · intro fits given
      cases given
    · intro fits given
      cases given
  have undisturbed : ∀ {enforcer : Enforcer}, enforcer.Linked → enforcer.matchings = [] →
      enforcer.Undisturbed := by
    intro enforcer linked exact
    refine undisturbed_of_exact linked fun role => ?_
    rw [exact]
    rfl
  have linking := Sample.linking_enforcer none
  have linkedAfter := stable_linked.mutate linking_staffed.linked none
    (.remove "g" [.text "bob", .text "staff"])
  have add : (Sample.enforcer none).mutate none (.add "g" [.text "bob", .text "staff"]) =
      (.ok true, Sample.staffed, none) :=
    Prod.ext (Answer.eq_ok_of_gives (by decide +kernel)) (Prod.ext rfl rfl)
  have remove : Sample.staffed.mutate none (.remove "g" [.text "bob", .text "staff"]) =
      (.ok true, Sample.staffed.after (.mutate none (.remove "g" [.text "bob", .text "staff"])),
        none) :=
    Prod.ext (Answer.eq_ok_of_gives (by decide +kernel)) (Prod.ext rfl rfl)
  obtain ⟨settled, -⟩ := linking_staffed.settled_iff_undisturbed (total rfl)
  obtain ⟨-, restored⟩ := linking.settled_iff_undisturbed (total rfl)
  exact ⟨settled.mpr (undisturbed linking_staffed.linked rfl),
    restored (by decide +kernel) add remove (undisturbed linking.linked rfl)
      (undisturbed linkedAfter rfl)⟩

namespace Sample

def patterned : Enforcer :=
  ((enforcer none).after (.adjust (.matchNames "g" (some Predicate.keyMatch.holds)))).after
    (.mutate none (.add "p" [.text "/staff/*", .text "allow"]))

def lingering : Enforcer :=
  (patterned.after (.mutate none (.add "g" [.text "/staff/*", .text "reader"]))).after
    (.mutate none (.remove "g" [.text "/staff/*", .text "reader"]))

theorem linking_lingering : Linking lingering := by
  unfold lingering patterned
  refine .after (.after (.after (.after (linking_enforcer none) (.adjust (.matchNames _ _))
    trivial ?_) (.mutate none _) trivial ?_) (.mutate none _) trivial ?_) (.mutate none _)
      trivial ?_
  all_goals decide +kernel

theorem total_lingering : lingering.TotalMatchings := by
  intro role scope declared
  have isG : role = "g" := by
    have member := Entries.mem_of_lookup declared
    change (role, scope) ∈ [("g", RoleScope.everywhere)] at member
    exact congrArg Prod.fst (List.mem_singleton.mp member)
  subst isG
  constructor
  · intro fits given name pattern
    cases given
    exact ⟨_, rfl⟩
  · intro fits given
    cases given

end Sample

/-- The name of the staff is still a role of all whose names begin as it does, although the
one row of it is gone again. -/
theorem not_settled_lingering :
    Linking Sample.lingering ∧ Sample.lingering.TotalMatchings ∧
    Sample.lingering.table.rows "g" = Sample.patterned.table.rows "g" ∧
    Answer.gives ((Sample.patterned.decide .standard [.text "/staff/bob"] false).1.map
      (·.allowed)) false = true ∧
    Answer.gives ((Sample.lingering.decide .standard [.text "/staff/bob"] false).1.map
      (·.allowed)) true = true ∧
    Answer.gives ((Sample.lingering.rebuildLinks.decide .standard [.text "/staff/bob"]
      false).1.map (·.allowed)) false = true ∧
    ¬ Settled Sample.lingering := by
  have before : Answer.gives ((Sample.lingering.decide .standard [.text "/staff/bob"]
      false).1.map (·.allowed)) true = true := by decide +kernel
  have after : Answer.gives ((Sample.lingering.rebuildLinks.decide .standard
      [.text "/staff/bob"] false).1.map (·.allowed)) false = true := by decide +kernel
  refine ⟨Sample.linking_lingering, Sample.total_lingering, by decide +kernel,
    by decide +kernel, before, after, fun settled => ?_⟩
  have alike := map_allowed_of_verdict
    (settled.decisions.verdict .standard [.text "/staff/bob"] false
      (by simp [AllDefined, Value.isUndefined]))
  rw [Answer.eq_ok_of_gives before, Answer.eq_ok_of_gives after] at alike
  cases alike

end AccessControl.Enforcer
