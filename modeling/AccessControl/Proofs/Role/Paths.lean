import AccessControl.Proofs.Role.Search
import AccessControl.Role.Operation
import Mathlib.Data.List.Chain

namespace AccessControl

/-! A subject has a role if a path of links leads to it. Names may lie on circles, and a
path over more links than it needs is a path as well. -/

/-- The names on the way from a start to a target, with the target and without the start. -/
structure Path (near : String → String → Prop) (start target : String) (names : List String) :
    Prop where
  chain : (start :: names).IsChain near
  last : names.getLast? = some target

section

variable {near : String → String → Prop} {start target : String}

theorem Path.single (adjacent : near start target) : Path near start target [target] :=
  ⟨.cons_cons adjacent (.singleton target), rfl⟩

theorem Path.concat {names : List String} (path : Path near start target names) {next : String}
    (adjacent : near target next) : Path near start next (names ++ [next]) where
  chain := by
    have last : (start :: names).getLast? = some target := by
      rw [List.getLast?_cons, path.last, Option.getD_some]
    refine path.chain.append (.singleton next) fun other isLast after isNext => ?_
    rw [last] at isLast
    cases isLast
    cases isNext
    exact adjacent
  last := List.getLast?_concat

theorem Within.cons {depth : Nat} {next name : String} (adjacent : near start next)
    (within : Within near next depth name) : Within near start (depth + 1) name := by
  induction within with
  | here =>
      exact .step .here adjacent
  | step _ further ih => exact .step ih further

theorem Path.within {names : List String} (path : Path near start target names) :
    Within near start names.length target := by
  obtain ⟨chain, last⟩ := path
  induction names generalizing start with
  | nil => cases last
  | cons next names ih =>
      rw [List.isChain_cons_cons] at chain
      refine .cons chain.1 ?_
      cases names with
      | nil =>
          cases last
          exact .here
      | cons => exact ih chain.2 last

theorem Within.mono {less more : Nat} (within : Within near start less target)
    (fewer : less ≤ more) : Within near start more target := by
  induction fewer with
  | refl => exact within
  | step _ ih => exact ih.succ

/-- A name is within so many steps if it is the start, or a path of so many names at most
leads to it. -/
theorem within_iff_path {depth : Nat} :
    Within near start depth target ↔
      target = start ∨ ∃ names, Path near start target names ∧ names.length ≤ depth := by
  constructor
  · intro within
    induction within with
    | here => exact .inl rfl
    | step _ adjacent ih =>
        rcases ih with rfl | ⟨names, path, short⟩
        · exact .inr ⟨_, .single adjacent, by simp⟩
        · exact .inr ⟨_, path.concat adjacent, by simpa using short⟩
  · rintro (rfl | ⟨names, path, short⟩)
    · exact .here
    · exact path.within.mono short

theorem within_moving_iff {depth : Nat} :
    Within (fun name next => next ≠ name ∧ near name next) start depth target ↔
      Within near start depth target := by
  constructor
  · intro within
    induction within with
    | here => exact .here
    | step _ adjacent ih => exact .step ih adjacent.2
  · intro within
    induction within with
    | here => exact .here
    | @step depth name next _ adjacent ih =>
        by_cases same : next = name
        · rw [same]
          exact ih.succ
        · exact .step ih ⟨same, adjacent⟩

end

namespace RoleGraph

/-- A link of the domain leads from a name to the next one: a link of the name itself, or
one of a pattern that it fits. To the pattern it leads as well. -/
def LeadsTo (graph : RoleGraph) (domain name next : String) : Prop :=
  ∃ place, graph.Covers place domain ∧
    (graph.links.Has name next place ∨
      ∃ pattern, graph.links.Knows pattern place ∧ Fits graph.names? name pattern ∧
        (next = pattern ∨ graph.links.Has pattern next place))

theorem adjacent_iff_leadsTo (graph : RoleGraph) (domain name next : String) :
    graph.Adjacent domain name next ↔ next ≠ name ∧ graph.LeadsTo domain name next := by
  constructor
  · rintro ⟨different, place, covers, has | ⟨pattern, -, fits, knows, passes⟩⟩
    · exact ⟨different, place, covers, .inl has⟩
    · exact ⟨different, place, covers, .inr ⟨pattern, knows, fits, passes⟩⟩
  · rintro ⟨different, place, covers, has | ⟨pattern, knows, fits, passes⟩⟩
    · exact ⟨different, place, covers, .inl has⟩
    · refine ⟨different, place, covers, ?_⟩
      by_cases own : pattern = name
      · -- A name that is its own pattern has no roles from it but its own.
        rw [own] at passes
        exact .inl (passes.resolve_left different)
      · exact .inr ⟨pattern, own, fits, knows, passes⟩

theorem adjacent_eq_moving (graph : RoleGraph) (domain : String) :
    graph.Adjacent domain = fun name next => next ≠ name ∧ graph.LeadsTo domain name next := by
  funext name next
  exact propext (graph.adjacent_iff_leadsTo domain name next)

def after (graph : RoleGraph) (operations : List Operation) : RoleGraph :=
  operations.foldl (fun graph operation => (graph.perform operation).2) graph

theorem sound_perform {graph : RoleGraph} (sound : graph.links.Sound) (operation : Operation) :
    (graph.perform operation).2.links.Sound := by
  cases operation with
  | addLink subject role domain => exact sound.add subject role domain
  | deleteLink subject role domain => exact sound.delete subject role domain
  | clear => exact RoleLinks.sound_nil
  | hasLink | roles | users | implicitRoles | domains | linkCount | matchNames | matchDomains =>
      exact sound

theorem levels_perform (graph : RoleGraph) (operation : Operation) :
    (graph.perform operation).2.levels = graph.levels := by
  cases operation <;> rfl

theorem sound_after {graph : RoleGraph} (sound : graph.links.Sound)
    (operations : List Operation) : (graph.after operations).links.Sound := by
  induction operations generalizing graph with
  | nil => exact sound
  | cons operation operations ih => exact ih (sound_perform sound operation)

theorem levels_after (graph : RoleGraph) (operations : List Operation) :
    (graph.after operations).levels = graph.levels := by
  induction operations generalizing graph with
  | nil => rfl
  | cons operation operations ih => exact (ih _).trans (graph.levels_perform operation)

theorem sound_after_empty (levels : Nat) (operations : List Operation) :
    ((empty levels).after operations).links.Sound :=
  sound_after RoleLinks.sound_nil operations

section

variable {graph : RoleGraph} (total : graph.Total) (sound : graph.links.Sound)
include total sound

theorem hasLink_path (subject role domain : String) (depth : Option Int) :
    ∃ holds, graph.hasLink subject role domain depth = .ok holds ∧
      (holds = true ↔ subject = role ∨
        ∃ names, Path (graph.LeadsTo domain) subject role names ∧
          (names.length : Int) ≤ depth.getD graph.levels) := by
  obtain ⟨holds, done, within⟩ := hasLink_eq total sound subject role domain depth
  refine ⟨holds, done, ?_⟩
  rw [within, adjacent_eq_moving, within_moving_iff, within_iff_path, eq_comm]
  refine or_congr_right (exists_congr fun names => and_congr_right fun path => ?_)
  -- A path has a name at least, so none is short enough for a negative depth.
  have positive : 0 < names.length := by
    cases names with
    | nil => cases path.last
    | cons => simp
  omega

theorem hasLink_mono {subject role domain : String} {less more : Int} (fewer : less ≤ more)
    (holds : graph.hasLink subject role domain (some less) = .ok true) :
    graph.hasLink subject role domain (some more) = .ok true := by
  obtain ⟨first, done, path⟩ := hasLink_path total sound subject role domain (some less)
  obtain ⟨second, doneToo, pathToo⟩ := hasLink_path total sound subject role domain (some more)
  rw [done] at holds
  cases holds
  rw [doneToo, pathToo.mpr]
  rcases path.mp rfl with same | ⟨names, leads, short⟩
  · exact .inl same
  · exact .inr ⟨names, leads, Int.le_trans short fewer⟩

end

/-- Whatever was done to a graph, with matchings that always have an answer: a subject has a
role over so many links if it is the role, or if a path of so many links at most leads from
it to the role. There is always an answer, and with more links the answer stays yes. -/
theorem hasLink_iff_path (levels : Nat) (operations : List Operation)
    (total : ((empty levels).after operations).Total) (subject role domain : String) :
    (∀ depth : Option Int, ∃ holds,
      ((empty levels).after operations).hasLink subject role domain depth = .ok holds ∧
        (holds = true ↔ subject = role ∨
          ∃ names, Path (((empty levels).after operations).LeadsTo domain) subject role names ∧
            (names.length : Int) ≤ depth.getD levels)) ∧
    ∀ less more : Int, less ≤ more →
      ((empty levels).after operations).hasLink subject role domain (some less) = .ok true →
        ((empty levels).after operations).hasLink subject role domain (some more) = .ok true := by
  have sound := sound_after_empty levels operations
  refine ⟨fun depth => ?_, fun less more fewer => hasLink_mono total sound fewer⟩
  obtain ⟨holds, done, path⟩ := hasLink_path total sound subject role domain depth
  rw [levels_after] at path
  exact ⟨holds, done, path⟩

namespace Sample

def circle : List Operation :=
  [.matchNames (some fun _ pattern => .ok (pattern == "*")), .addLink "alice" "staff" "",
    .addLink "staff" "admin" "", .addLink "admin" "alice" "", .addLink "*" "guest" "",
    .addLink "guest" "alice" "", .deleteLink "guest" "alice" "", .addLink "guest" "reader" ""]

theorem total_circle : ((empty 2).after circle).Total where
  names fits given := by
    cases given
    exact fun _ _ => ⟨_, rfl⟩
  domains fits given := by cases given

end Sample

/-- Three links lead round the circle, and two through the pattern of all names. -/
theorem hasLink_iff_path_circle :
    (∃ names, Path (((empty 2).after Sample.circle).LeadsTo "") "alice" "reader" names ∧
      (names.length : Int) ≤ 2) ∧
    ((empty 2).after Sample.circle).hasLink "alice" "admin" "" (some 1) = .ok false ∧
    (¬ ∃ names, Path (((empty 2).after Sample.circle).LeadsTo "") "alice" "admin" names ∧
      (names.length : Int) ≤ 1) ∧
    ((empty 2).after Sample.circle).hasLink "alice" "admin" "" (some 2) = .ok true ∧
    ((empty 2).after Sample.circle).hasLink "alice" "admin" "" (some 100) = .ok true ∧
    ((empty 2).after Sample.circle).hasLink "alice" "root" "" none = .ok false := by
  have found : ((empty 2).after Sample.circle).hasLink "alice" "reader" "" none = .ok true :=
    Answer.eq_ok_of_gives (by decide +kernel)
  have near : ((empty 2).after Sample.circle).hasLink "alice" "admin" "" (some 1) = .ok false :=
    Answer.eq_ok_of_gives (by decide +kernel)
  have far : ((empty 2).after Sample.circle).hasLink "alice" "admin" "" (some 2) = .ok true :=
    Answer.eq_ok_of_gives (by decide +kernel)
  obtain ⟨readers, -⟩ := hasLink_iff_path 2 Sample.circle Sample.total_circle "alice" "reader" ""
  obtain ⟨admins, more⟩ := hasLink_iff_path 2 Sample.circle Sample.total_circle "alice" "admin" ""
  obtain ⟨holds, done, path⟩ := readers none
  obtain ⟨holdsToo, doneToo, pathToo⟩ := admins (some 1)
  rw [found] at done
  cases done
  rw [near] at doneToo
  cases doneToo
  refine ⟨(path.mp rfl).resolve_left (by decide), near, fun short => ?_, far,
    more 2 100 (by decide) far, Answer.eq_ok_of_gives (by decide +kernel)⟩
  cases pathToo.mpr (.inr short)

end RoleGraph

end AccessControl
