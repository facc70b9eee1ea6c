import AccessControl.Enforcer.Decision
import AccessControl.Enforcer.Operation
import AccessControl.Proofs.Answer

namespace AccessControl.Enforcer

variable (enforcer : Enforcer)

theorem evaluate_snd (selection : Selection) (values : List Value) (explain : Bool) :
    ∃ change, (enforcer.evaluate selection values explain).2.1 = enforcer.record change := by
  unfold evaluate
  simp only
  split <;> exact ⟨_, rfl⟩

theorem evaluateCached_snd (selection : Selection) (values : List Value) (key : String) :
    ∃ cache metrics?, (enforcer.evaluateCached selection values key).2.1 =
      { enforcer with cache, metrics? } := by
  unfold evaluateCached
  simp only
  split
  · exact ⟨_, _, rfl⟩
  · obtain ⟨change, left⟩ := evaluate_snd ({ enforcer with
        cache := (enforcer.cache.get key).2 }.record fun metrics =>
          metrics.recordCacheLookup (enforcer.cache.get key).1.isSome) selection values false
    split
    · next made =>
        rw [made] at left
        simp only at left
        rw [left]
        exact ⟨_, _, rfl⟩
    · rw [left]
      exact ⟨_, _, rfl⟩

theorem record_id : enforcer.record id = enforcer := by
  simp [record]

theorem record_record (first second : Metrics → Metrics) :
    (enforcer.record first).record second = enforcer.record (second ∘ first) := by
  simp [record]

theorem decide_cases (context : EnforceContext) (values : List Value) (explain : Bool) :
    (∃ change, (enforcer.decide context values explain).2.1 = enforcer.record change) ∨
    ∃ selection key change, enforcer.select context values = .ok selection ∧
      enforcer.cacheKey? context values explain = some key ∧
      (enforcer.decide context values explain).2.1 =
        (enforcer.evaluateCached selection values key).2.1.record change := by
  unfold decide
  cases selected : enforcer.select context values with
  | error fault => exact .inl ⟨_, rfl⟩
  | ok selection =>
      simp only
      split
      · exact .inl ⟨id, enforcer.record_id.symm⟩
      · cases spelled : enforcer.cacheKey? context values explain with
        | some key =>
            simp only
            split
            · exact .inr ⟨selection, key, _, rfl, rfl, rfl⟩
            · exact .inr ⟨selection, key, id, rfl, rfl, (record_id _).symm⟩
        | none =>
            obtain ⟨change, left⟩ := enforcer.evaluate_snd selection values explain
            simp only
            split
            · rw [left, record_record]
              exact .inl ⟨_, rfl⟩
            · exact .inl ⟨change, left⟩

theorem decide_snd (context : EnforceContext) (values : List Value) (explain : Bool) :
    ∃ cache metrics?, (enforcer.decide context values explain).2.1 =
      { enforcer with cache, metrics? } := by
  rcases enforcer.decide_cases context values explain with
    ⟨change, left⟩ | ⟨selection, key, change, -, -, left⟩
  · exact ⟨enforcer.cache, _, left⟩
  · obtain ⟨cache, metrics?, evaluated⟩ := enforcer.evaluateCached_snd selection values key
    rw [evaluated] at left
    exact ⟨cache, _, left⟩

theorem mutateBy_cases
    (follow : Storage → Mutation Row → Except StorageFault Unit × Storage)
    (storage? : Option Storage) (mutation : Mutation Fields) :
    (∃ change, enforcer.check mutation = .ok (some change) ∧
      (enforcer.mutateBy follow storage? mutation).1 = .ok true ∧
      (enforcer.mutateBy follow storage? mutation).2.1 = enforcer.commit change) ∨
    ((enforcer.mutateBy follow storage? mutation).1 ≠ .ok true ∧
      ((enforcer.mutateBy follow storage? mutation).2.1 = enforcer ∨
        (enforcer.mutateBy follow storage? mutation).2.1 =
          enforcer.record (·.recordError Category.adapter.code))) := by
  unfold mutateBy
  cases checked : enforcer.check mutation with
  | error fault => exact .inr ⟨by simp, .inl rfl⟩
  | ok change? =>
      cases change? with
      | none => exact .inr ⟨by simp, .inl rfl⟩
      | some change =>
          cases storage? with
          | none => exact .inl ⟨change, rfl, rfl, rfl⟩
          | some storage =>
              by_cases asked : (enforcer.switches.autoSave && storage.kind.immediate) = true
              · simp only [if_pos asked]
                cases followed : follow storage change with
                | mk result left =>
                    cases result with
                    | ok done => exact .inl ⟨change, rfl, rfl, rfl⟩
                    | error fault => exact .inr ⟨by simp, .inr rfl⟩
              · simp only [if_neg asked]
                exact .inl ⟨change, rfl, trivial, rfl⟩

theorem answer_snd (question : Question) :
    (enforcer.answer question).2 = enforcer ∨
      ∃ key index value rows table,
        enforcer.table.withField key index value = .ok (rows, table) ∧
        (enforcer.answer question).2 = { enforcer with table } := by
  cases question with
  | filteredRows key filter =>
      simp only [answer]
      split
      · next rows changed found =>
          unfold filteredRows at found
          split at found
          · next value _ =>
              split at found
              · cases found
                exact .inl rfl
              · obtain ⟨⟨_, table⟩, looked, whole⟩ := Answer.bind_eq_ok.mp found
                cases whole
                exact .inr ⟨key, filter.start, value, rows, table, looked, rfl⟩
          · cases found
            exact .inl rfl
      · exact .inl rfl
  | _ => exact .inl rfl

theorem of_tried {P : Enforcer → Prop} {enforcer : Enforcer} {result : Answer Enforcer}
    (holds : P enforcer) (kept : ∀ changed, result = .ok changed → P changed) :
    P (enforcer.tried result).2 := by
  cases result with
  | ok changed => exact kept changed rfl
  | error failure => exact holds

theorem withMatching_eq_ok {enforcer changed : Enforcer} {key : String}
    {change : RoleMatching → RoleMatching}
    (done : enforcer.withMatching key change = .ok changed) :
    ∃ graph matching, enforcer.graphs.lookup key = some graph ∧
      changed = { enforcer with
        matchings := Entries.put key matching enforcer.matchings
        graphs := Entries.put key
          { graph with names? := matching.names?, domains? := matching.domains? }
          enforcer.graphs
        cache := enforcer.cache.invalidate } := by
  unfold withMatching at done
  split at done
  · cases done
  · next graph found =>
      cases done
      exact ⟨graph, _, found, rfl⟩

theorem install_snd (label : String) (lines : Lines) :
    (enforcer.install label lines).2 = enforcer ∨
      ∃ table graphs, enforcer.stage enforcer.model lines = .ok (table, graphs) ∧
        (enforcer.install label lines).2 =
          (enforcer.exchange table graphs).record (recordLoad table) := by
  unfold install
  split
  · exact .inl rfl
  · next table graphs staged => exact .inr ⟨table, graphs, staged, rfl⟩

theorem install_eq_ok {label : String} {lines : Lines}
    (done : (enforcer.install label lines).1 = .ok ()) :
    ∃ table graphs, enforcer.stage enforcer.model lines = .ok (table, graphs) ∧
      (enforcer.install label lines).2 =
        (enforcer.exchange table graphs).record (recordLoad table) := by
  unfold install at done ⊢
  split at done
  · cases done
  · next table graphs staged => exact ⟨table, graphs, staged, rfl⟩

theorem load_snd (storage? : Option Storage) :
    (enforcer.load storage?).2.1 = enforcer ∨
    (enforcer.load storage?).2.1 = enforcer.record (·.recordError Category.adapter.code) ∨
      ∃ label lines, (enforcer.load storage?).2.1 = (enforcer.install label lines).2 := by
  unfold load
  simp only
  split
  · exact .inl rfl
  · split
    · exact .inl rfl
    · split
      · exact .inr (.inl rfl)
      · exact .inr (.inr ⟨_, _, rfl⟩)

end AccessControl.Enforcer
