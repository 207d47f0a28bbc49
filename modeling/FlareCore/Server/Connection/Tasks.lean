import FlareCore.Foundations.TaskPool
import FlareCore.Server.Connection.Accounting

/-!
# Calls in progress

The concurrent model of the manager.  A call in progress is a `Task`: where it stands
between two critical sections, and what it carries from one to the next.  `advance`
performs the next section.

A section on the connection table needs the lock of the table shard.  Most sections
release it at once, but adding, removing and updating a connection keep it while they
edit the user index or give back a slot; `Task.holds` says which shard a task keeps
locked, and a task that needs that shard cannot move until it is free.  The locks of the
user shards are never kept from one step to the next.

Two removal paths let go of the table shard before they edit the index: the registry
used by writer tasks, and the batch removal.  What they still owe the index is exactly
`Task.unlockedRemoving`.

`Action` lists the outcomes of a step one by one; `action_of_advance` is the only place
where `advance` is taken apart.
-/

namespace FlareCore.Server

open FlareCore.Common FlareCore.Foundations

set_option autoImplicit false

section Tasks

variable [Hashing]

/-! ## Calls and tasks -/

/-- The arguments of an add, with the connection object it was given. -/
structure AddCall where
  connectionId : String
  connection : ConnectionHandle
  userId : Option String
  requiresAuth : Bool
  maxConnections : UInt64

/-- A delivery to the connections of an owner: how a connection's information decides
what to enqueue, whether receivers count as active, the snapshots still to be served
and the connections served so far. -/
structure UserSend where
  owner : DeviceOwner
  encode : ConnectionInfo → Option Wire
  refresh : Bool
  remaining : List ConnectionSnapshot
  successful : List String

/-- What a finished call returned. -/
inductive Outcome where
  | result (result : Result Unit)
  | found (found : Bool)
  | removed (ids : List String)

/-- Where a call stands. -/
inductive Task where
  -- add_connection_with_limit
  | reserveLoad (call : AddCall)
  | reserveExchange (call : AddCall) (current : UInt64) (below : ¬call.maxConnections ≤ current)
  | addInsert (call : AddCall)
  | addDuplicate (call : AddCall)
  | addIndex (call : AddCall) (owner : DeviceOwner)
  | added (call : AddCall)
  | rejected (call : AddCall) (error : FlareError)
  -- remove_connection, possibly from within a delivery
  | removeTake (connectionId : String) (resume : Option UserSend)
  | removeRelease (connectionId : String) (owner : Option DeviceOwner) (resume : Option UserSend)
  | removeIndex (connectionId : String) (owner : DeviceOwner) (resume : Option UserSend)
  -- ConnectionRemovalRegistry::remove_connection
  | registryTake (connectionId : String)
  | registryRelease (connectionId : String) (owner : Option DeviceOwner)
  | registryIndex (connectionId : String) (owner : DeviceOwner)
  -- cleanup_timeout_connections and remove_connection_snapshots
  | cleanupScan (timeout : Instant) (closes : Bool) (shards : List (Fin shardCount))
      (found : List String)
  | cleanupClose (timeout : Instant) (closing found : List String)
  | batchTake (timeout : Option Instant) (groups : List (List String))
      (removed : ConnectionManager.Removed)
  | batchIndex (groups : List (List (DeviceOwner × String))) (emptied : Nat) (ids : List String)
  -- bind_user and the other updates
  | update (connectionId : String) (update : InfoUpdate)
  | reindexRemove (connectionId : String) (before : DeviceOwner) (after : Option DeviceOwner)
  | reindexInsert (connectionId : String) (owed : Bool) (after : DeviceOwner)
  -- update_connection_active and update_connections_active
  | touch (connectionId : String)
  | activate (now : Instant) (groups : List (List String))
  -- send_to_user and send_frame_to_user
  | userRead (send : UserSend)
  | userSnapshot (send : UserSend) (groups : List (List String))
  | userEnqueue (send : UserSend)
  | returned (outcome : Outcome)

/-- The calls that may be made concurrently. -/
inductive Call where
  | addConnectionWithLimit (connectionId : String) (userId : Option String) (requiresAuth : Bool)
      (maxConnections : UInt64)
  | removeConnection (connectionId : String)
  | registryRemoveConnection (connectionId : String)
  | removeConnectionSnapshots (ids : List String)
  | cleanupTimeoutConnections (timeout : Instant) (closes : Bool)
  | updateConnection (connectionId : String) (update : InfoUpdate)
  | updateConnectionActive (connectionId : String)
  | sendToUser (owner : DeviceOwner) (encode : ConnectionInfo → Option Wire) (refresh : Bool)

/-- A write that a delivery to an owner has enqueued, with the snapshot it was made for. -/
structure Delivery where
  target : DeviceOwner
  snapshot : ConnectionSnapshot

/-- The shared memory: the manager, the clock, and the history of deliveries. -/
structure Shared where
  manager : ConnectionManager
  clock : Instant
  deliveries : List Delivery

/-- What happens besides the calls: time passes, and a writer task fails. -/
inductive Happening where
  | tick (duration : Instant)
  | writerFails (handle : WriteHandle)

def Shared.with (shared : Shared) (manager : ConnectionManager) : Shared :=
  { shared with manager := manager }

@[simp] theorem Shared.with_manager (shared : Shared) (manager : ConnectionManager) :
    (shared.with manager).manager = manager := rfl

@[simp] theorem Shared.with_clock (shared : Shared) (manager : ConnectionManager) :
    (shared.with manager).clock = shared.clock := rfl

@[simp] theorem Shared.with_deliveries (shared : Shared) (manager : ConnectionManager) :
    (shared.with manager).deliveries = shared.deliveries := rfl

/-! ## Locks -/

/-- The table shard a task keeps locked between its sections. -/
def Task.holds : Task → Option (Fin shardCount)
  | .addDuplicate call | .addIndex call _ => some (connectionShard call.connectionId)
  | .removeRelease connectionId _ _ | .removeIndex connectionId _ _
  | .reindexRemove connectionId _ _ | .reindexInsert connectionId _ _ =>
      some (connectionShard connectionId)
  | _ => none

/-- No other task keeps this shard locked. -/
def unlocked (others : List Task) (shard : Fin shardCount) : Bool :=
  others.all fun task => task.holds ≠ some shard

/-- No other task keeps the shard of this connection locked. -/
def free (others : List Task) (connectionId : String) : Bool :=
  unlocked others (connectionShard connectionId)

/-! ## The steps -/

/-- How a call continues after `remove_connection`. -/
def afterRemoval (resume : Option UserSend) (result : Result Unit) : Task :=
  match resume with
  | none => .returned (.result result)
  | some send => .userEnqueue send

/-- How an update continues once the table is written. -/
def afterUpdate (connectionId : String) (before after : Option DeviceOwner) : Task :=
  match leftOwner before after, after with
  | some left, after => .reindexRemove connectionId left after
  | none, some after => .reindexInsert connectionId (before ≠ some after) after
  | none, none => .returned (.result (.ok ()))

/-- How an update continues once the old index entry is gone. -/
def afterUnlisting (connectionId : String) (after : Option DeviceOwner) : Task :=
  match after with
  | some after => .reindexInsert connectionId true after
  | none => .returned (.result (.ok ()))

/-- How a cleanup continues after its scan. -/
def afterScan (timeout : Instant) (closes : Bool) (found : List String) : Task :=
  if closes then .cleanupClose timeout found found
  else .batchTake (some timeout) (ConnectionManager.connectionGroups found) ⟨[], []⟩

/-- Updates the last activity of a group of connections under one lock. -/
def ConnectionManager.touchGroup (manager : ConnectionManager) (group : List String)
    (now : Instant) : ConnectionManager :=
  group.foldl (fun manager id => manager.touch id now) manager

/-- The ids of one shard that a scan finds timed out. -/
def ConnectionManager.timedOutIn (manager : ConnectionManager) (shard : Fin shardCount)
    (timeout now : Instant) : List String :=
  ((manager.connections.shards shard).entries.filter fun entry =>
    entry.2.info.isTimeout timeout now).map Sigma.fst

/-- One enqueue of a delivery.  A failure isolates the connection. -/
def enqueueStep (shared : Shared) (send : UserSend) (snapshot : ConnectionSnapshot) :
    Shared × Task :=
  match send.encode snapshot.info with
  | none => (shared, .userEnqueue send)
  | some data =>
      let manager := shared.manager
      match (manager.queues snapshot.handle).tryEnqueue data with
      | (queue, .ok ()) =>
          ({ shared.with { manager with queues := Function.update manager.queues snapshot.handle queue }
              with deliveries := shared.deliveries ++ [⟨send.owner, snapshot⟩] },
            .userEnqueue { send with successful := send.successful ++ [snapshot.connectionId] })
      | (_, .error _) =>
          (shared.with (manager.closeQueue snapshot.handle),
            .removeTake snapshot.connectionId (some send))

/-- The next section of a task; `spurious` lets a weak compare-exchange fail. -/
def advance (shared : Shared) (others : List Task) (task : Task) (spurious : Bool) :
    Option (Shared × Task) :=
  let manager := shared.manager
  match task with
  | .reserveLoad call =>
      if below : ¬call.maxConnections ≤ manager.connectionCount then
        some (shared, .reserveExchange call manager.connectionCount below)
      else some (shared, .rejected call (ConnectionManager.limitExceeded call.maxConnections))
  | .reserveExchange call current _ =>
      if manager.connectionCount = current ∧ ¬spurious then
        some (shared.with manager.reserveConnectionSlot, .addInsert call)
      else some (shared, .reserveLoad call)
  | .addInsert call =>
      if ¬free others call.connectionId then none
      else if (manager.connections.get call.connectionId).isSome then
        some (shared, .addDuplicate call)
      else
        let info := ConnectionManager.initialInfo call.connectionId call.userId call.requiresAuth
          shared.clock
        some (shared.with (manager.insertEntry call.connectionId call.connection info),
          match info.owner with
          | some owner => .addIndex call owner
          | none => .added call)
  | .addDuplicate call =>
      some (shared.with (manager.releaseConnectionSlots 1),
        .rejected call (ConnectionManager.alreadyExists call.connectionId))
  | .addIndex call owner =>
      some (shared.with (manager.insertUserConnection owner call.connectionId), .added call)
  | .removeTake connectionId resume =>
      if ¬free others connectionId then none
      else
        match manager.connections.get connectionId with
        | none =>
            some (shared, afterRemoval resume (.error (ConnectionManager.notFound connectionId)))
        | some entry =>
            some (shared.with ((manager.eraseEntry connectionId).closeQueue
              ⟨connectionId, entry.serial⟩), .removeRelease connectionId entry.info.owner resume)
  | .removeRelease connectionId owner resume =>
      some (shared.with (manager.releaseConnectionSlots 1),
        match owner with
        | some owner => .removeIndex connectionId owner resume
        | none => afterRemoval resume (.ok ()))
  | .removeIndex connectionId owner resume =>
      some (shared.with (manager.removeUserConnection owner connectionId),
        afterRemoval resume (.ok ()))
  | .registryTake connectionId =>
      if ¬free others connectionId then none
      else
        match manager.connections.get connectionId with
        | none => some (shared, .returned (.found false))
        | some entry =>
            some (shared.with (manager.eraseEntry connectionId),
              .registryRelease connectionId entry.info.owner)
  | .registryRelease connectionId owner =>
      some (shared.with (manager.releaseConnectionSlots 1),
        match owner with
        | some owner => .registryIndex connectionId owner
        | none => .returned (.found true))
  | .registryIndex connectionId owner =>
      some (shared.with (manager.removeUserConnection owner connectionId),
        .returned (.found true))
  | .cleanupScan timeout closes [] found => some (shared, afterScan timeout closes found)
  | .cleanupScan timeout closes (shard :: shards) found =>
      if ¬unlocked others shard then none
      else some (shared, .cleanupScan timeout closes shards
        (found ++ manager.timedOutIn shard timeout shared.clock))
  | .cleanupClose timeout [] found =>
      some (shared, .batchTake (some timeout) (ConnectionManager.connectionGroups found) ⟨[], []⟩)
  | .cleanupClose timeout (_ :: closing) found => some (shared, .cleanupClose timeout closing found)
  | .batchTake timeout (group :: groups) removed =>
      if ¬group.all (free others) then none
      else some (shared.with (ConnectionManager.takeEntries manager removed group).1,
        .batchTake timeout groups (ConnectionManager.takeEntries manager removed group).2)
  | .batchTake _ [] removed =>
      some (shared.with (manager.releaseConnectionSlots removed.ids.length),
        .batchIndex (ConnectionManager.userGroups removed.indexed) 0 removed.ids)
  | .batchIndex (group :: groups) emptied ids =>
      some (shared.with (manager.removeIndexEntries group).1,
        .batchIndex groups (emptied + (manager.removeIndexEntries group).2) ids)
  | .batchIndex [] emptied ids =>
      some (shared.with (manager.releaseUsers emptied), .returned (.removed ids))
  | .update connectionId update =>
      if ¬free others connectionId then none
      else
        match manager.connections.get connectionId with
        | none =>
            some (shared, .returned (.result (.error (ConnectionManager.notFound connectionId))))
        | some entry =>
            let info := update.apply shared.clock entry.info
            some (shared.with (manager.writeInfo connectionId entry info),
              afterUpdate connectionId entry.info.owner info.owner)
  | .reindexRemove connectionId before after =>
      some (shared.with (manager.removeUserConnection before connectionId),
        afterUnlisting connectionId after)
  | .reindexInsert connectionId _ after =>
      some (shared.with (manager.insertUserConnection after connectionId),
        .returned (.result (.ok ())))
  | .touch connectionId =>
      if ¬free others connectionId then none
      else some (shared.with (manager.updateConnectionActive connectionId shared.clock).1,
        .returned (.result (manager.updateConnectionActive connectionId shared.clock).2))
  | .activate now (group :: groups) =>
      if ¬group.all (free others) then none
      else some (shared.with (manager.touchGroup group now), .activate now groups)
  | .activate _ [] => some (shared, .returned (.result (.ok ())))
  | .userRead send =>
      some (shared, .userSnapshot send
        (ConnectionManager.connectionGroups (manager.getUserConnections send.owner)))
  | .userSnapshot send (group :: groups) =>
      if ¬group.all (free others) then none
      else some (shared, .userSnapshot
        { send with remaining := send.remaining ++ group.filterMap manager.getConnectionSnapshot }
        groups)
  | .userSnapshot send [] => some (shared, .userEnqueue send)
  | .userEnqueue send =>
      match send.remaining with
      | snapshot :: remaining =>
          some (enqueueStep shared { send with remaining := remaining } snapshot)
      | [] =>
          some (shared,
            if send.refresh then
              .activate shared.clock (ConnectionManager.connectionGroups send.successful)
            else .returned (.result (.ok ())))
  | .added _ | .rejected _ _ | .returned _ => none

/-- The first step of a call; an add owns a connection object that no other call has. -/
def startCall (number : Nat) : Call → Task
  | .addConnectionWithLimit connectionId userId requiresAuth maxConnections =>
      .reserveLoad ⟨connectionId, number, userId, requiresAuth, maxConnections⟩
  | .removeConnection connectionId => .removeTake connectionId none
  | .registryRemoveConnection connectionId => .registryTake connectionId
  | .removeConnectionSnapshots ids =>
      .batchTake none (ConnectionManager.connectionGroups ids) ⟨[], []⟩
  | .cleanupTimeoutConnections timeout closes =>
      .cleanupScan timeout closes (List.finRange shardCount) []
  | .updateConnection connectionId update => .update connectionId update
  | .updateConnectionActive connectionId => .touch connectionId
  | .sendToUser owner encode refresh => .userRead ⟨owner, encode, refresh, [], []⟩

def happen (shared : Shared) : Happening → Shared
  | .tick duration => { shared with clock := shared.clock + duration }
  | .writerFails handle => shared.with (shared.manager.closeQueue handle)

/-- The concurrent manager. -/
def managerMachine : Machine Shared Call Task Bool Happening where
  start := startCall
  advance := advance
  environment := happen

/-- A new manager without any call. -/
def initialPool (writeQueueCapacity : Nat) (clock : Instant) : Pool Shared Task :=
  ⟨⟨.new writeQueueCapacity, clock, []⟩, []⟩

end Tasks

end FlareCore.Server
