import AccessControl.Proofs.Deployment.Mirror
import AccessControl.Proofs.Deployment.WellFormed

namespace AccessControl

namespace Enforcer

/-- The rows are those from before, in the same order, and the role graphs are made of
them if role links are built. -/
structure Restores (before after : Enforcer) : Prop where
  model : after.model = before.model
  rows : ∀ key, after.table.rows key = before.table.rows key
  graphs : Entries.keys after.graphs = Entries.keys before.model.roles
  links : before.switches.buildRoleLinks = true →
    ∀ role scope, before.model.roles.lookup role = some scope →
      ∃ graph, after.graphs.lookup role = some graph ∧
        (∀ subject target domain, graph.links.Has subject target domain ↔
          StoresLink scope (before.table.rows role) subject target domain) ∧
        graph.linkCount = (before.table.rows role).dedup.length

theorem restores_exchange {enforcer : Enforcer} (sound : enforcer.Sound)
    (fitting : enforcer.Fitting) {lines : Lines} {table : PolicyTable}
    {graphs : Entries String RoleGraph}
    (staged : enforcer.stage enforcer.model lines = .ok (table, graphs))
    (rows : ∀ key, table.rows key = enforcer.table.rows key) :
    enforcer.Restores (enforcer.exchange table graphs) where
  model := rfl
  rows := rows
  graphs := keys_of_stage staged
  links switch role scope declared := by
    have built := (stage_eq_ok staged).2
    rw [if_pos switch] at built
    obtain ⟨graph, there, isGraph⟩ :=
      graph_linkAll enforcer.settings enforcer.matchings declared table
    rw [rows] at isGraph
    have fits := sound.fits_role declared (fitting role)
    refine ⟨graph, built ▸ there, fun subject target domain => ?_,
      isGraph.links.count_eq fits⟩
    rw [isGraph.links.has_iff, storesLink_iff fits]

theorem Restores.record {before after : Enforcer} (restores : before.Restores after)
    (change : Metrics → Metrics) : before.Restores (after.record change) :=
  ⟨restores.model, restores.rows, restores.graphs, restores.links⟩

theorem Proper.restores {enforcer : Enforcer} (proper : enforcer.Proper) {storage : Storage}
    (memory : storage.kind = .memory) :
    ∃ saved loaded after, enforcer.save (some storage) = (.ok (), some saved) ∧
      enforcer.load (some saved) = (.ok (), after, some loaded) ∧
      enforcer.Restores after := by
  have reachable := proper.reachable
  obtain ⟨table, graphs, staged, rows, loaded⟩ :=
    @Reachable.load_mirrors _ reachable { storage with lines := enforcer.lines } memory
      (mirrors_lines proper.defined)
  exact ⟨_, _, _, enforcer.save_memory memory, loaded,
    (restores_exchange reachable.sound reachable.fitting staged rows).record _⟩

end Enforcer

namespace Deployment

structure KeepsInMemory (deployment : Deployment) (place : Nat) (station : Station) :
    Prop where
  there : deployment.stations[place]? = some station
  attached : ∃ storage, deployment.storageAt? station.storage? = some storage ∧
    storage.kind = .memory

theorem storageAt?_setStorage_self {deployment : Deployment} {place? : Option Nat}
    {storage : Storage} (found : deployment.storageAt? place? = some storage)
    (other : Storage) :
    (deployment.setStorage place? (some other)).storageAt? place? = some other := by
  obtain ⟨number, rfl, there⟩ := Option.bind_eq_some_iff.mp found
  have inside : number < deployment.storages.length := (List.getElem?_eq_some_iff.mp there).1
  exact List.getElem?_set_self inside

theorem save_load {deployment : Deployment} {place : Nat} {station : Station}
    (keeps : deployment.KeepsInMemory place station) (proper : station.enforcer.Proper) :
    (deployment.save place).1 = .ok () ∧ ((deployment.save place).2.load place).1 = .ok () ∧
      ∃ after, ((deployment.save place).2.load place).2.stations[place]? =
          some { station with enforcer := after } ∧
        station.enforcer.Restores after := by
  obtain ⟨storage, found, memory⟩ := keeps.attached
  obtain ⟨saved, loaded, after, saves, loads, restores⟩ := proper.restores memory
  have written : deployment.save place =
      (.ok (), deployment.setStorage station.storage? (some saved)) := by
    simp only [save, keeps.there, found, saves]
  have thereLater : (deployment.setStorage station.storage? (some saved)).stations[place]? =
      some station := by
    rw [stations_setStorage]
    exact keeps.there
  have foundLater := storageAt?_setStorage_self found saved
  rw [written]
  simp only [load, thereLater, foundLater, loads]
  refine ⟨trivial, trivial, after, ?_, restores⟩
  apply station_setEnforcer_self
  rw [stations_setStorage]
  exact thereLater

end Deployment

namespace Session

/-- Whatever was done before, saving the rows to a storage in memory and loading them
again succeeds, and leaves the rows of every key as they were. -/
theorem run_save_load {steps : List Step} (proper : ∀ step ∈ steps, step.Proper)
    {place : Nat} {station : Station}
    (keeps : (start.run steps).2.deployment.KeepsInMemory place station) :
    ∃ responses session after,
      (start.run steps).2.run [.perform place .save, .perform place .load] =
        (responses, session) ∧
      responses = [some (.ok (.reply .done)), some (.ok (.reply .done))] ∧
      session.deployment.stations[place]? = some { station with enforcer := after } ∧
      station.enforcer.Restores after := by
  have isProper := proper_run proper station (List.mem_of_getElem? keeps.there)
  obtain ⟨saved, loaded, after, there, restores⟩ := Deployment.save_load keeps isProper
  refine ⟨_, _, after, rfl, ?_, there, restores⟩
  change [some ((Deployment.save _ place).1.map _), some ((Deployment.load _ place).1.map _)] = _
  rw [saved, loaded]
  rfl

/-- A row is added before a storage in memory is attached, and so never saved. -/
def Sample.unsaved : List Step :=
  .addStorage "disk" (.ofLines .memory []) :: Sample.staffing ++
    [.perform 0 (.attachStorage (some 0))]

theorem Sample.proper_unsaved : ∀ step ∈ unsaved, step.Proper := by
  intro step member
  rcases List.mem_append.mp member with early | last
  · rcases List.mem_cons.mp early with rfl | staffing
    · exact trivial
    · exact proper_staffing step staffing
  · rw [List.mem_singleton.mp last]
    exact trivial

theorem run_save_load_unsaved :
    ∃ (station : Station) (session : Session) (after : Enforcer),
      (start.run Sample.unsaved).2.run [.perform 0 .save, .perform 0 .load] =
        ([some (.ok (.reply .done)), some (.ok (.reply .done))], session) ∧
      station.enforcer.table.rows "g" = [["bob", "staff"]] ∧
      session.deployment.stations[0]? = some { station with enforcer := after } ∧
      station.enforcer.Restores after := by
  have stored : ((start.run Sample.unsaved).2.deployment.stations[0]?).map
      (fun station => (station.enforcer.table.rows "g", station.storage?)) =
        some ([["bob", "staff"]], some 0) := by decide +kernel
  have kinds : (start.run Sample.unsaved).2.deployment.storages.map (·.kind) =
      [StorageKind.memory] := by decide +kernel
  obtain ⟨station, there, seen⟩ := Option.map_eq_some_iff.mp stored
  obtain ⟨rows, attached⟩ := Prod.mk.inj seen
  obtain ⟨storage, found, memory⟩ := List.map_eq_singleton_iff.mp kinds
  obtain ⟨responses, session, after, ran, answers, left, restores⟩ :=
    run_save_load Sample.proper_unsaved ⟨there, storage, by
      rw [attached, Deployment.storageAt?, found]
      rfl, memory⟩
  rw [answers] at ran
  exact ⟨station, session, after, ran, rows, left, restores⟩

end Session

end AccessControl
