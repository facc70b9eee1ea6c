import AccessControl.Proofs.Enforcer.Mirror

namespace AccessControl

namespace Enforcer

/-- Nothing has changed but what is counted. -/
def Intact (before after : Enforcer) : Prop :=
  after = { before with metrics? := after.metrics? }

theorem Intact.refl (enforcer : Enforcer) : Intact enforcer enforcer :=
  rfl

theorem intact_record (enforcer : Enforcer) (change : Metrics → Metrics) :
    Intact enforcer (enforcer.record change) :=
  rfl

theorem fits_of_stageRows {model : Model} {table staged : PolicyTable} {lines : Lines}
    (done : stageRows model table lines = .ok staged) : model.Fits lines := by
  induction lines generalizing table with
  | nil => exact fun line member => by cases member
  | cons line lines ih =>
      obtain ⟨row, read, rest⟩ := Answer.bind_eq_ok.mp done
      intro other member
      rcases List.mem_cons.mp member with rfl | later
      · exact ⟨row, read⟩
      · exact ih rest other later

theorem stage_of_fits (enforcer : Enforcer) {model : Model} {lines : Lines}
    (fits : model.Fits lines) :
    ∃ table graphs, enforcer.stage model lines = .ok (table, graphs) := by
  obtain ⟨table, rows⟩ := @exists_stageRows _ (newTable enforcer.settings model) _ fits
  obtain ⟨graphs, staged⟩ := stage_of_stageRows rows
  exact ⟨table, graphs, staged⟩

theorem takeUp_unique (rows added : List Row) :
    takeUp true rows added =
      rows ++ (added.filter fun row => !rows.contains row).eraseDups := by
  induction added generalizing rows with
  | nil => simp [takeUp]
  | cons first more ih =>
      rw [takeUp, ih, Bool.true_and, List.filter_cons]
      cases present : rows.contains first with
      | true => rfl
      | false =>
          have both : ∀ row, (!(rows ++ [first]).contains row) =
              (!row == first && !rows.contains row) := by
            intro row
            simp only [List.contains_append, List.contains_cons, List.contains_nil,
              Bool.or_false, Bool.not_or, Bool.and_comm]
          simp only [Bool.false_eq_true, if_false, Bool.not_false, if_true,
            List.eraseDups_cons, List.filter_filter, both]
          exact List.append_assoc rows [first] _

theorem takeUp_nil (unique : Bool) (added : List Row) :
    takeUp unique [] added = if unique then added.eraseDups else added := by
  cases unique with
  | true =>
      rw [takeUp_unique]
      simp
  | false => exact takeUp_eq_append fun isUnique => by cases isUnique

/-- The rows of every key are its lines in their order, or the first ones of equal lines
where rows must be distinct. -/
def Takes (unique : Bool) (table : PolicyTable) (lines : Lines) : Prop :=
  ∀ key, ∃ rows, lines.under key = Lines.fieldsOf rows ∧
    table.rows key = if unique then rows.eraseDups else rows

theorem Takes.rows_eq {unique : Bool} {table : PolicyTable} {lines : Lines}
    (takes : Takes unique table lines) {key : String} {rows : List Row}
    (held : lines.under key = Lines.fieldsOf rows) (distinct : unique = true → rows.Nodup) :
    table.rows key = rows := by
  obtain ⟨found, same, taken⟩ := takes key
  cases Lines.fieldsOf_inj (same.symm.trans held)
  rw [taken, ← takeUp_nil, takeUp_eq_append distinct, List.nil_append]

theorem takes_stageRows {settings : Settings} {model : Model} {staged : PolicyTable}
    {lines : Lines} (done : stageRows model (newTable settings model) lines = .ok staged) :
    Takes settings.uniquePolicies staged lines := by
  intro key
  obtain ⟨rows, holds, taken⟩ := rows_stageRows (sound_newTable settings model) done key
  refine ⟨rows, holds.under_eq, ?_⟩
  rw [taken, rows_newTable, takeUp_nil, isUnique_newTable]
  by_cases isKey : key ∈ model.rowKeys
  · rw [List.contains_iff_mem.mpr isKey, Bool.and_true]
  -- A key that the model does not know has no lines.
  · have empty : rows = [] := by
      rw [List.eq_nil_iff_forall_not_mem]
      intro row member
      have listed := Lines.mem_fieldsOf.mpr member
      rw [← holds.under_eq] at listed
      obtain ⟨line, inside, rfl, -⟩ := Lines.mem_under.mp listed
      obtain ⟨other, read⟩ := fits_of_stageRows done line inside
      exact isKey (Model.mem_rowKeys_of_readRow read)
    subst empty
    simp

/-- What loading lines from a storage leaves, and how it answers. -/
inductive Loads (before : Enforcer) (readable : Prop) (lines : Lines) :
    Answer Unit → Enforcer → Prop
  | refused {after : Enforcer} (fault : StorageFault)
      (unable : ¬ (readable ∧ before.model.Fits lines)) (intact : Intact before after) :
      Loads before readable lines (.error (.storage fault)) after
  | taken {after : Enforcer} (able : readable ∧ before.model.Fits lines)
      (takes : Takes before.settings.uniquePolicies after.table lines) :
      Loads before readable lines (.ok ()) after

theorem loads_install (enforcer : Enforcer) (label : String) (lines : Lines) :
    Loads enforcer True lines (enforcer.install label lines).1
      (enforcer.install label lines).2 := by
  unfold install
  cases staged : enforcer.stage enforcer.model lines with
  | error fault =>
      refine .refused _ (fun able => ?_) (.refl enforcer)
      obtain ⟨table, graphs, done⟩ := enforcer.stage_of_fits able.2
      rw [staged] at done
      cases done
  | ok exchanged =>
      obtain ⟨table, graphs⟩ := exchanged
      have rows := (stage_eq_ok staged).1
      exact .taken ⟨trivial, fits_of_stageRows rows⟩ (takes_stageRows rows)

/-- The storage is there, answers at once, and can be read. -/
def Readable (storage? : Option Storage) : Prop :=
  ∃ storage, storage? = some storage ∧ storage.kind.immediate = true ∧
    storage.obstacle? .load = none

def linesOf (storage? : Option Storage) : Lines :=
  match storage? with
  | some storage => storage.lines
  | none => []

theorem Loads.of_install {before : Enforcer} {readable : Prop} {lines : Lines}
    {answer : Answer Unit} {after : Enforcer} (able : readable)
    (installed : Loads before True lines answer after) :
    Loads before readable lines answer after := by
  cases installed with
  | refused fault unable intact =>
      exact .refused fault (fun both => unable ⟨trivial, both.2⟩) intact
  | taken fits takes => exact .taken ⟨able, fits.2⟩ takes

theorem loads_load (enforcer : Enforcer) (storage? : Option Storage) :
    Loads enforcer (Readable storage?) (linesOf storage?) (enforcer.load storage?).1
      (enforcer.load storage?).2.1 := by
  cases storage? with
  | none =>
      refine .refused _ ?_ (.refl enforcer)
      rintro ⟨⟨storage, attached, -⟩, -⟩
      cases attached
  | some storage =>
      simp only [load]
      cases immediate : storage.kind.immediate with
      | false =>
          refine .refused _ ?_ (.refl enforcer)
          rintro ⟨⟨other, attached, immediately, -⟩, -⟩
          cases attached
          rw [immediate] at immediately
          cases immediately
      | true =>
          unfold Storage.load
          cases obstacle : storage.obstacle? .load with
          | some error =>
              refine .refused _ ?_ (intact_record enforcer _)
              rintro ⟨⟨other, attached, -, readable⟩, -⟩
              cases attached
              rw [obstacle] at readable
              cases readable
          | none =>
              exact (enforcer.loads_install _ storage.lines).of_install
                ⟨storage, rfl, immediate, obstacle⟩

theorem load_of_holds {enforcer : Enforcer} {storage : Storage} {rows : String → List Row}
    (readable : Readable (some storage)) (holds : ∀ key, storage.lines.Holds key (rows key))
    (fit : ∀ key, ∀ row ∈ rows key, enforcer.model.arity? key = some row.length)
    (distinct : enforcer.settings.uniquePolicies = true → ∀ key, (rows key).Nodup) :
    (enforcer.load (some storage)).1 = .ok () ∧
      ∀ key, (enforcer.load (some storage)).2.1.table.rows key = rows key := by
  have loads := enforcer.loads_load (some storage)
  generalize (enforcer.load (some storage)).1 = answer at loads ⊢
  cases loads with
  | refused fault unable intact => exact absurd ⟨readable, Model.fits_of_holds holds fit⟩ unable
  | taken able takes =>
      exact ⟨rfl, fun key => takes.rows_eq (holds key).under_eq fun unique =>
        distinct unique key⟩

def exchangeModel (enforcer : Enforcer) (read : Answer Model) : Answer Unit × Enforcer :=
  enforcer.tried (read >>= enforcer.loadModel)

/-- The model was read, its matchers can be compiled, and the rows of the keys that both
models have fit it. -/
structure Accepts (enforcer : Enforcer) (read : Answer Model) (model : Model) : Prop where
  isRead : read = .ok model
  compiles : ∃ matchers, compileMatchers enforcer.functions model = .ok matchers
  fits : ∀ key ∈ enforcer.model.rowKeys, key ∈ model.rowKeys →
    ∀ row ∈ enforcer.table.rows key, model.arity? key = some row.length

/-- The rows of the keys that both models have are kept, and there are no others. -/
structure KeepsShared (before after : Enforcer) : Prop where
  kept : ∀ key ∈ before.model.rowKeys, key ∈ after.model.rowKeys →
    after.table.rows key = before.table.rows key
  dropped : ∀ key, ¬ (key ∈ before.model.rowKeys ∧ key ∈ after.model.rowKeys) →
    after.table.rows key = []

/-- What an exchange of the model leaves, and how it answers. -/
inductive ExchangesModel (before : Enforcer) (read : Answer Model) :
    Answer Unit → Enforcer → Prop
  | refused (failure : Failure) (unable : ∀ model, ¬ before.Accepts read model) :
      ExchangesModel before read (.error failure) before
  | exchanged {after : Enforcer} (able : before.Accepts read after.model)
      (keeps : KeepsShared before after) : ExchangesModel before read (.ok ()) after

def sharedKeys (enforcer : Enforcer) (model : Model) : List String :=
  enforcer.model.rowKeys.filter fun key => (model.arity? key).isSome

theorem mem_sharedKeys {enforcer : Enforcer} {model : Model} {key : String} :
    key ∈ enforcer.sharedKeys model ↔ key ∈ enforcer.model.rowKeys ∧ key ∈ model.rowKeys := by
  rw [sharedKeys, List.mem_filter, Option.isSome_iff_exists, @Model.mem_rowKeys model]

theorem fits_linesUnder {table : PolicyTable} {keys : List String} {model : Model} :
    model.Fits (linesUnder table keys) ↔
      ∀ key ∈ keys, ∀ row ∈ table.rows key, model.arity? key = some row.length := by
  constructor
  · intro fits key member row stored
    have listed : (⟨key, row.map .text⟩ : Line) ∈ linesUnder table keys :=
      List.mem_flatMap.mpr ⟨key, member, List.mem_map.mpr ⟨row, stored, rfl⟩⟩
    obtain ⟨other, read⟩ := fits _ listed
    obtain ⟨texts, arity⟩ := Model.readRow_eq_ok.mp read
    rwa [Value.map_text_injective texts]
  · intro fits line listed
    obtain ⟨key, member, inside⟩ := List.mem_flatMap.mp listed
    obtain ⟨row, stored, rfl⟩ := List.mem_map.mp inside
    exact ⟨row, Model.readRow_eq_ok.mpr ⟨rfl, fits key member row stored⟩⟩

theorem linesUnder_holds {table : PolicyTable} {keys : List String} (distinct : keys.Nodup)
    {key : String} (member : key ∈ keys) : (linesUnder table keys).Holds key (table.rows key) :=
  Lines.holds_of_under_eq (under_linesUnder distinct member)

theorem under_linesUnder_of_not_mem {table : PolicyTable} {keys : List String} {key : String}
    (absent : key ∉ keys) : (linesUnder table keys).under key = [] := by
  rw [List.eq_nil_iff_forall_not_mem]
  intro fields member
  obtain ⟨line, inside, rfl, -⟩ := Lines.mem_under.mp member
  obtain ⟨other, isKey, listed⟩ := List.mem_flatMap.mp inside
  obtain ⟨row, -, rfl⟩ := List.mem_map.mp listed
  exact absent isKey

section

variable {enforcer : Enforcer} (reachable : Reachable enforcer)
  (defined : enforcer.model.Defined)
include reachable defined

theorem keepsShared_loadModel {model : Model} {changed : Enforcer}
    (done : enforcer.loadModel model = .ok changed) : KeepsShared enforcer changed := by
  obtain ⟨matchers, table, graphs, -, staged, rfl⟩ := loadModel_eq_ok done
  have rows := (stage_eq_ok staged).1
  change stageRows _ _ (linesUnder enforcer.table (enforcer.sharedKeys model)) = _ at rows
  constructor
  · intro key old new
    have shared := mem_sharedKeys.mpr ⟨old, new⟩
    have distinct : (enforcer.sharedKeys model).Nodup := defined.nodup_rowKeys.filter _
    exact rows_stageRows_new rows (linesUnder_holds distinct shared) fun unique =>
      reachable.nodup_rows unique key
  · intro key notBoth
    have absent := @under_linesUnder_of_not_mem enforcer.table _ _ (notBoth ∘ mem_sharedKeys.mp)
    exact rows_stageRows_new rows (@Lines.holds_of_under_eq _ _ [] absent) fun _ => .nil

theorem exchangesModel_exchangeModel (read : Answer Model) :
    ExchangesModel enforcer read (enforcer.exchangeModel read).1
      (enforcer.exchangeModel read).2 := by
  unfold exchangeModel
  cases read with
  | error failure => exact .refused failure fun model accepts => by cases accepts.isRead
  | ok model =>
      change ExchangesModel enforcer (.ok model) (enforcer.tried (enforcer.loadModel model)).1
        (enforcer.tried (enforcer.loadModel model)).2
      cases done : enforcer.loadModel model with
      | error failure =>
          refine .refused failure ?_
          rintro _ ⟨⟨⟩, ⟨matchers, compiled⟩, fits⟩
          have fitsLines : model.Fits (linesUnder enforcer.table (enforcer.sharedKeys model)) :=
            fits_linesUnder.mpr fun key shared =>
              fits key (mem_sharedKeys.mp shared).1 (mem_sharedKeys.mp shared).2
          obtain ⟨table, graphs, staged⟩ := enforcer.stage_of_fits fitsLines
          change enforcer.stage model (linesUnder enforcer.table
            (enforcer.model.rowKeys.filter fun key => (model.arity? key).isSome)) = _ at staged
          simp only [loadModel, compiled, staged] at done
          cases done
      | ok changed =>
          have keeps := keepsShared_loadModel reachable defined done
          obtain ⟨matchers, table, graphs, compiled, staged, rfl⟩ := loadModel_eq_ok done
          have fits := fits_linesUnder.mp (fits_of_stageRows (stage_eq_ok staged).1)
          exact .exchanged ⟨rfl, ⟨matchers, compiled⟩, fun key old new =>
            fits key (mem_sharedKeys.mpr ⟨old, new⟩)⟩ keeps

end

end Enforcer

end AccessControl
