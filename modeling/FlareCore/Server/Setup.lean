import FlareCore.Server.Connection.Poisoning

/-!
# Setting up a new connection

A new connection is added to the manager, an observer is created for it, and the connection is
looked up again to attach the observer.  Each of the three steps can fail.  Adding undoes what it
has done, but the two steps behind it do not: without an event handler there is no observer, and the
connection stays in the table and keeps its slot (`setup_without_handler_keeps_slot`).

`LeavesConnection` says when that happens, and it is exactly then that a failed setup does not leave
the table, the index and the counters as they were (`setup_failsClean_iff`).
-/

namespace FlareCore.Server

open FlareCore.Common FlareCore.Foundations

set_option autoImplicit false

/-! ## The code -/

/-- What the helper takes from the configuration and the core. -/
structure SetupSetting where
  requiresAuth : Bool
  maxConnections : UInt64
  eventHandler : Option Nat

structure ConnectionObserver where
  connectionId : String
  eventHandler : Nat
  deriving DecidableEq

def handlerNotConfigured : FlareError :=
  .localized .configurationError
    "ServerEventHandler is required for creating observer but was not configured"

def addFailed (error : FlareError) : FlareError :=
  .connectionFailed ("Failed to add connection: " ++ error.text)

def goneAfterAdding : FlareError :=
  .connectionFailed "Failed to get connection after adding"

/-- `create_observer_with_core`. -/
def SetupSetting.createObserver (setting : SetupSetting) (connectionId : String) :
    Result ConnectionObserver :=
  match setting.eventHandler with
  | none => .error handlerNotConfigured
  | some eventHandler => .ok ⟨connectionId, eventHandler⟩

/-- The ways in which another task takes a connection out of the table: by itself, from its writer
task, or in a batch. -/
inductive Removal where
  | remove
  | isolate
  | cleanup
  deriving DecidableEq

/-- What another task does to the connection between the steps. -/
inductive Meanwhile where
  | nothing
  | removed (removal : Removal)
  /-- It panics while it holds the lock of the shard. -/
  | poisoned
  deriving DecidableEq

section Setup

variable [Hashing]

def Removal.perform (manager : ConnectionManager) (connectionId : String) :
    Removal → ConnectionManager
  | .remove => (manager.removeConnection connectionId).1
  | .isolate => (manager.registryRemoveConnection connectionId).1
  | .cleanup => (manager.removeConnectionSnapshots [connectionId]).1

namespace Meanwhile

def perform (manager : ConnectionManager) (connectionId : String) :
    Meanwhile → ConnectionManager
  | .nothing | .poisoned => manager
  | .removed removal => removal.perform manager connectionId

/-- `get_connection`: a poisoned shard has no connections. -/
def getConnection (meanwhile : Meanwhile) (manager : ConnectionManager) (connectionId : String) :
    Option ConnectionHandle :=
  if meanwhile = .poisoned then none
  else (manager.connections.get connectionId).map ConnectionEntry.connection

end Meanwhile

/-- The manager after the setup, the connection that an observer was attached to, and the
result. -/
structure SetupOutcome where
  manager : ConnectionManager
  attached : Option (ConnectionHandle × ConnectionObserver)
  result : Result String

/-- `setup_new_connection`, with the id that was generated. -/
def setupNewConnection (poison : Poison) (manager : ConnectionManager) (setting : SetupSetting)
    (connectionId : String) (connection : ConnectionHandle) (meanwhile : Meanwhile)
    (now : Instant) : SetupOutcome :=
  match poison.addConnectionWithLimit manager connectionId connection none setting.requiresAuth
      setting.maxConnections now with
  | (failed, .error error) => ⟨failed, none, .error (addFailed error)⟩
  | (added, .ok ()) =>
      let current := meanwhile.perform added connectionId
      match setting.createObserver connectionId with
      | .error error => ⟨current, none, .error error⟩
      | .ok observer =>
          match meanwhile.getConnection current connectionId with
          | some found => ⟨current, some (found, observer), .ok connectionId⟩
          | none => ⟨current, none, .error goneAfterAdding⟩

/-! ## Adding the connection -/

/-- There is a slot for the connection, its shard can be locked, and its id is not taken. -/
structure AddsConnection (poison : Poison) (manager : ConnectionManager) (setting : SetupSetting)
    (connectionId : String) : Prop where
  slot : manager.connectionCount < setting.maxConnections
  healthy : poison.connection (connectionShard connectionId) = false
  fresh : manager.connections.get connectionId = none

/-- The manager with a new connection that nobody owns. -/
def ConnectionManager.withNewConnection (manager : ConnectionManager) (setting : SetupSetting)
    (connectionId : String) (connection : ConnectionHandle) (now : Instant) : ConnectionManager :=
  manager.reserveConnectionSlot.insertEntry connectionId connection
    (ConnectionManager.initialInfo connectionId none setting.requiresAuth now)

section Steps

variable {poison : Poison} {manager : ConnectionManager} {setting : SetupSetting}
  {connectionId : String} (connection : ConnectionHandle) (now : Instant)

theorem addConnectionWithLimit_of_adds (adds : AddsConnection poison manager setting connectionId) :
    poison.addConnectionWithLimit manager connectionId connection none setting.requiresAuth
        setting.maxConnections now =
      (manager.withNewConnection setting connectionId connection now, .ok ()) := by
  rw [Poison.addConnectionWithLimit, if_neg (UInt64.not_le.mpr adds.slot), adds.healthy,
    if_neg Bool.false_ne_true, adds.fresh, Option.isSome_none, if_neg Bool.false_ne_true]
  rfl

theorem addConnectionWithLimit_of_not_adds
    (refuses : ¬AddsConnection poison manager setting connectionId) :
    ∃ failed error, poison.addConnectionWithLimit manager connectionId connection none
      setting.requiresAuth setting.maxConnections now = (failed, .error error) := by
  unfold Poison.addConnectionWithLimit
  split_ifs with full poisoned taken
  · exact ⟨_, _, rfl⟩
  · exact ⟨_, _, rfl⟩
  · exact ⟨_, _, rfl⟩
  · refine absurd ⟨UInt64.not_le.mp full, ?_, Option.not_isSome_iff_eq_none.mp taken⟩ refuses
    exact Bool.eq_false_iff.mpr poisoned

theorem get_withNewConnection :
    (manager.withNewConnection setting connectionId connection now).connections.get connectionId =
      some ⟨connection, manager.nextSerial,
        ConnectionManager.initialInfo connectionId none setting.requiresAuth now⟩ :=
  ShardedMap.get_insert_self _ _ _

theorem ConnectionManager.removeUserConnectionsBatch_nil (manager : ConnectionManager) :
    manager.removeUserConnectionsBatch [] = manager := by
  rw [removeUserConnectionsBatch, userGroups, ShardedMap.groups_nil]
  show { manager with userCount := manager.userCount - 0 } = manager
  rw [UInt64.sub_zero]

/-- Whoever takes the connection out again gives its slot back. -/
theorem sameRegistry_removed (removal : Removal)
    (fresh : manager.connections.get connectionId = none) :
    SameRegistry manager (removal.perform
      (manager.withNewConnection setting connectionId connection now) connectionId) := by
  have back := sameRegistry_rollback connection
    (ConnectionManager.initialInfo connectionId none setting.requiresAuth now) fresh
  have found : (manager.withNewConnection setting connectionId connection now).connections.get
      connectionId = some _ := get_withNewConnection connection now
  cases removal with
  | remove =>
      rw [Removal.perform, ConnectionManager.removeConnection, found]
      exact ⟨back.connections, back.users, back.connectionCount, back.userCount⟩
  | isolate =>
      rw [Removal.perform, ConnectionManager.registryRemoveConnection, found]
      exact back
  | cleanup =>
      have taken := @ConnectionManager.takeEntries_cons_of_some _ _ ⟨[], []⟩ connectionId [] _ found
      rw [Removal.perform, ConnectionManager.removeConnectionSnapshots,
        ConnectionManager.connectionGroups, ShardedMap.groups_singleton, List.foldl_cons, taken]
      -- nobody owns the connection, so nothing is taken out of the index
      show SameRegistry manager ((ConnectionManager.releaseConnectionSlots _ 1)
        |>.removeUserConnectionsBatch [])
      rw [ConnectionManager.removeUserConnectionsBatch_nil]
      exact ⟨back.connections, back.users, back.connectionCount, back.userCount⟩

end Steps

/-! ## What a failed setup leaves behind -/

/-- If the setup returns an error, nothing has changed. -/
def SetupFailsClean (poison : Poison) (manager : ConnectionManager) (setting : SetupSetting)
    (connectionId : String) (connection : ConnectionHandle) (meanwhile : Meanwhile)
    (now : Instant) : Prop :=
  ∀ error,
    (setupNewConnection poison manager setting connectionId connection meanwhile now).result =
      .error error →
    SameRegistry manager
      (setupNewConnection poison manager setting connectionId connection meanwhile now).manager

/-- The connection is added and nobody takes it out again, but there is no event handler, or the
connection cannot be looked up. -/
def LeavesConnection (poison : Poison) (manager : ConnectionManager) (setting : SetupSetting)
    (connectionId : String) (meanwhile : Meanwhile) : Prop :=
  AddsConnection poison manager setting connectionId ∧
    (meanwhile = .nothing ∧ setting.eventHandler = none ∨ meanwhile = .poisoned)

section Outcome

variable (poison : Poison) (manager : ConnectionManager) (setting : SetupSetting)
  (connectionId : String) (connection : ConnectionHandle) (meanwhile : Meanwhile) (now : Instant)

theorem setupNewConnection_of_adds (adds : AddsConnection poison manager setting connectionId) :
    setupNewConnection poison manager setting connectionId connection meanwhile now =
      let current := meanwhile.perform
        (manager.withNewConnection setting connectionId connection now) connectionId
      match setting.createObserver connectionId with
      | .error error => ⟨current, none, .error error⟩
      | .ok observer =>
          match meanwhile.getConnection current connectionId with
          | some found => ⟨current, some (found, observer), .ok connectionId⟩
          | none => ⟨current, none, .error goneAfterAdding⟩ := by
  rw [setupNewConnection, addConnectionWithLimit_of_adds connection now adds]

/-- Behind the addition the manager is what the others make of it, whatever fails. -/
theorem setupNewConnection_manager (adds : AddsConnection poison manager setting connectionId) :
    (setupNewConnection poison manager setting connectionId connection meanwhile now).manager =
      meanwhile.perform (manager.withNewConnection setting connectionId connection now)
        connectionId := by
  rw [setupNewConnection_of_adds _ _ _ _ _ _ _ adds]
  dsimp only
  split
  · rfl
  · split <;> rfl

/-- A connection that is in the table now was not there before. -/
theorem not_sameRegistry_added (fresh : manager.connections.get connectionId = none) :
    ¬SameRegistry manager (manager.withNewConnection setting connectionId connection now) := by
  intro same
  have contents := same.connections connectionId
  rw [get_withNewConnection, fresh] at contents
  cases contents

/-- **A failed setup leaves the table, the index and the counters as they were, exactly unless it
leaves the connection there.** -/
theorem setup_failsClean_iff :
    SetupFailsClean poison manager setting connectionId connection meanwhile now ↔
      ¬LeavesConnection poison manager setting connectionId meanwhile := by
  unfold SetupFailsClean LeavesConnection
  by_cases adds : AddsConnection poison manager setting connectionId
  · rw [setupNewConnection_manager _ _ _ _ _ _ _ adds,
      setupNewConnection_of_adds _ _ _ _ _ _ _ adds]
    cases meanwhile with
    | removed removal =>
        refine iff_of_true (fun _ _ => sameRegistry_removed connection now removal adds.fresh) ?_
        rintro ⟨-, ⟨nothing, -⟩ | poisoned⟩
        · cases nothing
        · cases poisoned
    | poisoned =>
        refine iff_of_false (fun clean => ?_) (not_not.mpr ⟨adds, .inr rfl⟩)
        refine not_sameRegistry_added manager setting connectionId connection now adds.fresh ?_
        cases handler : setting.eventHandler with
        | none =>
            refine clean handlerNotConfigured ?_
            rw [SetupSetting.createObserver, handler]
        | some eventHandler =>
            refine clean goneAfterAdding ?_
            rw [SetupSetting.createObserver, handler]
            rfl
    | nothing =>
        cases handler : setting.eventHandler with
        | none =>
            refine iff_of_false (fun clean => ?_) (not_not.mpr ⟨adds, .inl ⟨rfl, rfl⟩⟩)
            refine not_sameRegistry_added manager setting connectionId connection now adds.fresh ?_
            refine clean handlerNotConfigured ?_
            rw [SetupSetting.createObserver, handler]
        | some eventHandler =>
            refine iff_of_true (fun error failed => ?_) ?_
            · have found : Meanwhile.nothing.getConnection
                  (manager.withNewConnection setting connectionId connection now) connectionId =
                    some connection := by
                rw [Meanwhile.getConnection, if_neg nofun, get_withNewConnection]
                rfl
              rw [SetupSetting.createObserver, handler] at failed
              simp only [Meanwhile.perform, found] at failed
              cases failed
            · rintro ⟨-, ⟨-, unset⟩ | poisoned⟩
              · cases unset
              · cases poisoned
  · obtain ⟨failed, error, refused⟩ := addConnectionWithLimit_of_not_adds connection now adds
    refine iff_of_true (fun _ _ => ?_) fun leaves => adds leaves.1
    rw [setupNewConnection, refused]
    exact addConnectionWithLimit_failsClean connection none setting.requiresAuth
      setting.maxConnections now refused

end Outcome

end Setup

/-! ## A slot that is lost -/

section

open scoped SingleShard

/-- The first setup of a server that admits one connection and has no event handler. -/
def firstWithoutHandler : SetupOutcome :=
  setupNewConnection .clean (.new 1) ⟨false, 1, none⟩ "c" 0 .nothing 0

/-- The setup fails, and the connection has taken the only slot. -/
theorem setup_without_handler_keeps_slot :
    firstWithoutHandler.result = .error handlerNotConfigured ∧
      firstWithoutHandler.manager.connectionCount = 1 ∧
      ¬SetupFailsClean .clean (.new 1) ⟨false, 1, none⟩ "c" 0 .nothing 0 := by
  refine ⟨rfl, rfl, fun clean => ?_⟩
  have counted := (clean handlerNotConfigured rfl).connectionCount
  exact absurd counted (by decide +kernel)

end

end FlareCore.Server
