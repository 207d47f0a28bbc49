import FlareCore.Server.Connection.State

/-!
# The operations of the connection manager

First the critical sections: what the manager does to the table, the index and the
counters while it holds one lock, or in one atomic counter operation.  Then the
public operations, each the composition of its sections as an uninterrupted call
performs them.  The concurrent model runs the same sections one at a time.

Operations that change a connection's information in place differ only in what they
write; `InfoUpdate` lists the variants and `updateConnection` is their common body,
which moves the connection in the user index when its owner changed.
-/

namespace FlareCore.Server

open FlareCore.Common FlareCore.Foundations

set_option autoImplicit false

section Operations

variable [Hashing]

/-! ## The user index -/

/-- `insert_user_connection_index`: whether the owner is new comes with the index. -/
def insertUserConnectionIndex (users : UserIndex) (owner : DeviceOwner) (connectionId : String) :
    UserIndex × Bool :=
  match users.get owner with
  | none => (users.insert owner [connectionId], true)
  | some ids =>
      (if connectionId ∈ ids then users else users.insert owner (ids ++ [connectionId]), false)

/-- `remove_user_connection_index`: whether the owner is gone comes with the index. -/
def removeUserConnectionIndex (users : UserIndex) (owner : DeviceOwner) (connectionId : String) :
    UserIndex × Bool :=
  match users.get owner with
  | none => (users, false)
  | some ids =>
      let remaining := ids.filter (· ≠ connectionId)
      if remaining = [] then (users.erase owner, true)
      else (users.insert owner remaining, false)

/-- The entries of one user shard that `remove_user_connections_batch` takes out under
one lock, and how many owners disappear with them. -/
def removeUserConnectionEntries (users : UserIndex) :
    List (DeviceOwner × String) → UserIndex × Nat
  | [] => (users, 0)
  | entry :: entries =>
      let (users, gone) := removeUserConnectionIndex users entry.1 entry.2
      let (users, removed) := removeUserConnectionEntries users entries
      (users, gone.toNat + removed)

/-- The owner a connection leaves when its owner changes, if any. -/
def leftOwner (before after : Option DeviceOwner) : Option DeviceOwner :=
  if before = after then none else before

/-! ## Updates of a connection's information -/

/-- What an update writes. -/
structure Negotiation where
  deviceInfo : Option DeviceInfo
  serializationFormat : SerializationFormat
  compression : CompressionAlgorithm
  encryption : EncryptionAlgorithm
  userId : Option String

inductive InfoUpdate where
  | bindUser (userId : String)
  | setAuthenticated (userId : Option String)
  | negotiation (negotiation : Negotiation) (metadata : Option (StringMap String))
  | negotiationWithPipeline (negotiation : Negotiation) (parser : MessageParser)
      (pipeline : Option Pipeline)

/-- Merges metadata, later values replacing earlier ones. -/
def mergeMetadata (metadata : StringMap String) (incoming : Option (StringMap String)) :
    StringMap String :=
  match incoming with
  | none => metadata
  | some incoming => incoming.entries.foldl (fun merged entry => merged.insert entry.1 entry.2) metadata

namespace ConnectionInfo

/-- The fields every negotiation update writes. -/
def negotiate (info : ConnectionInfo) (negotiation : Negotiation) : ConnectionInfo :=
  { info with
    deviceInfo := negotiation.deviceInfo
    serializationFormat := negotiation.serializationFormat
    compression := negotiation.compression
    encryption := negotiation.encryption }

end ConnectionInfo

/-- The information after an update. -/
def InfoUpdate.apply (now : Instant) (info : ConnectionInfo) : InfoUpdate → ConnectionInfo
  | .bindUser userId => { info with userId := some userId }
  | .setAuthenticated userId => info.setAuthenticated userId now
  | .negotiation profile metadata =>
      { info.negotiate profile with
        metadata := mergeMetadata info.metadata metadata }.keepUser profile.userId
  | .negotiationWithPipeline profile parser pipeline =>
      { info.negotiate profile with
        negotiationCompleted := true
        cachedParser := some parser
        cachedPipeline := pipeline }.keepUser profile.userId

namespace ConnectionManager

variable (manager : ConnectionManager)

/-! ## Critical sections -/

/-- The insertion under the user shard's lock, with its counter update. -/
def insertUserConnection (owner : DeviceOwner) (connectionId : String) : ConnectionManager :=
  let (users, isNew) := insertUserConnectionIndex manager.users owner connectionId
  { manager with
    users := users
    userCount := if isNew then manager.userCount + 1 else manager.userCount }

/-- The removal under the user shard's lock, with its counter update. -/
def removeUserConnection (owner : DeviceOwner) (connectionId : String) : ConnectionManager :=
  let (users, gone) := removeUserConnectionIndex manager.users owner connectionId
  { manager with
    users := users
    userCount := if gone then manager.userCount - 1 else manager.userCount }

/-- Inserts an index entry when there is an owner. -/
def insertOwnerConnection (owner : Option DeviceOwner) (connectionId : String) :
    ConnectionManager :=
  match owner with
  | none => manager
  | some owner => manager.insertUserConnection owner connectionId

/-- Removes an index entry when there is an owner. -/
def removeOwnerConnection (owner : Option DeviceOwner) (connectionId : String) :
    ConnectionManager :=
  match owner with
  | none => manager
  | some owner => manager.removeUserConnection owner connectionId

/-- The successful exchange of `reserve_connection_slot`. -/
def reserveConnectionSlot : ConnectionManager :=
  { manager with connectionCount := manager.connectionCount + 1 }

/-- `release_connection_slot`, for one or several slots. -/
def releaseConnectionSlots (slots : Nat) : ConnectionManager :=
  { manager with connectionCount := manager.connectionCount - UInt64.ofNat slots }

/-- Puts a fresh entry with a fresh write queue into the table. -/
def insertEntry (connectionId : String) (connection : ConnectionHandle) (info : ConnectionInfo) :
    ConnectionManager :=
  { manager with
    connections := manager.connections.insert connectionId ⟨connection, manager.nextSerial, info⟩
    queues := Function.update manager.queues ⟨connectionId, manager.nextSerial⟩
      (.new manager.writeQueueCapacity)
    nextSerial := manager.nextSerial + 1 }

/-- Takes an entry out of the table. -/
def eraseEntry (connectionId : String) : ConnectionManager :=
  { manager with connections := manager.connections.erase connectionId }

/-- `close_underlying_in_background` on the queue behind a handle. -/
def closeQueue (handle : WriteHandle) : ConnectionManager :=
  { manager with queues := Function.update manager.queues handle (manager.queues handle).close }

/-- Rewrites the information of an entry in place. -/
def writeInfo (connectionId : String) (entry : ConnectionEntry) (info : ConnectionInfo) :
    ConnectionManager :=
  { manager with connections := manager.connections.insert connectionId { entry with info := info } }

/-! ## Errors -/

def limitExceeded (maxConnections : UInt64) : FlareError :=
  .connectionFailed ("Connection limit exceeded: " ++ toString maxConnections)

def alreadyExists (connectionId : String) : FlareError :=
  .protocolError ("Connection " ++ connectionId ++ " already exists")

def notFound (connectionId : String) : FlareError :=
  .protocolError ("Connection " ++ connectionId ++ " not found")

def notCompleted (connectionId : String) : FlareError :=
  .protocolError ("Cannot confirm negotiation for connection " ++ connectionId ++
    ": negotiation not completed")

/-! ## Adding and removing -/

/-- The information of a connection that is being added. -/
def initialInfo (connectionId : String) (userId : Option String) (requiresAuth : Bool)
    (now : Instant) : ConnectionInfo :=
  { ConnectionInfo.new connectionId requiresAuth now with userId := userId }

/-- `add_connection_with_limit`.  A slot is reserved before the duplicate check and
given back when the id is taken. -/
def addConnectionWithLimit (connectionId : String) (connection : ConnectionHandle)
    (userId : Option String) (requiresAuth : Bool) (maxConnections : UInt64) (now : Instant) :
    ConnectionManager × Result Unit :=
  if maxConnections ≤ manager.connectionCount then (manager, .error (limitExceeded maxConnections))
  else if (manager.connections.get connectionId).isSome then
    (manager.reserveConnectionSlot.releaseConnectionSlots 1, .error (alreadyExists connectionId))
  else
    let info := initialInfo connectionId userId requiresAuth now
    ((manager.reserveConnectionSlot.insertEntry connectionId connection info).insertOwnerConnection
      info.owner connectionId, .ok ())

/-- `add_connection`, whose limit is `usize::MAX`; the trait method is this with
`requiresAuth := true`. -/
def addConnection (connectionId : String) (connection : ConnectionHandle)
    (userId : Option String) (requiresAuth : Bool) (now : Instant) :
    ConnectionManager × Result Unit :=
  manager.addConnectionWithLimit connectionId connection userId requiresAuth (-1) now

/-- `remove_connection`. -/
def removeConnection (connectionId : String) : ConnectionManager × Result Unit :=
  match manager.connections.get connectionId with
  | none => (manager, .error (notFound connectionId))
  | some entry =>
      (((manager.eraseEntry connectionId).closeQueue ⟨connectionId, entry.serial⟩
        |>.releaseConnectionSlots 1).removeOwnerConnection entry.info.owner connectionId, .ok ())

/-- `ConnectionRemovalRegistry::remove_connection`, called by a writer task. -/
def registryRemoveConnection (connectionId : String) : ConnectionManager × Bool :=
  match manager.connections.get connectionId with
  | none => (manager, false)
  | some entry =>
      (((manager.eraseEntry connectionId).releaseConnectionSlots 1).removeOwnerConnection
        entry.info.owner connectionId, true)

/-! ## Batch removal -/

/-- What a batch removal has taken out so far: the ids, and the index entries it still
has to remove. -/
structure Removed where
  ids : List String
  indexed : List (DeviceOwner × String)
  deriving DecidableEq

/-- The removals under one table shard's lock. -/
def takeEntries : ConnectionManager → Removed → List String → ConnectionManager × Removed
  | manager, removed, [] => (manager, removed)
  | manager, removed, id :: ids =>
      match manager.connections.get id with
      | none => takeEntries manager removed ids
      | some entry =>
          takeEntries ((manager.eraseEntry id).closeQueue ⟨id, entry.serial⟩)
            ⟨removed.ids ++ [id],
              removed.indexed ++ (entry.info.owner.toList.map fun owner => (owner, id))⟩ ids

/-- The removals under one user shard's lock; the counter is updated later. -/
def removeIndexEntries (entries : List (DeviceOwner × String)) : ConnectionManager × Nat :=
  let (users, gone) := removeUserConnectionEntries manager.users entries
  ({ manager with users := users }, gone)

/-- The final counter update of a batch. -/
def releaseUsers (users : Nat) : ConnectionManager :=
  { manager with userCount := manager.userCount - UInt64.ofNat users }

/-- The ids of each table shard, shards without any left out. -/
def connectionGroups (ids : List String) : List (List String) :=
  ShardedMap.groups connectionShard ids

/-- The index entries of each user shard, shards without any left out. -/
def userGroups (entries : List (DeviceOwner × String)) : List (List (DeviceOwner × String)) :=
  ShardedMap.groups (fun entry => userShard entry.1) entries

/-- `remove_user_connections_batch`. -/
def removeUserConnectionsBatch (entries : List (DeviceOwner × String)) : ConnectionManager :=
  let (manager, gone) := (userGroups entries).foldl
    (fun state group =>
      let (manager, gone) := state.1.removeIndexEntries group
      (manager, state.2 + gone))
    (manager, 0)
  manager.releaseUsers gone

/-- `remove_connection_snapshots`. -/
def removeConnectionSnapshots (ids : List String) : ConnectionManager × List String :=
  let (manager, removed) := (connectionGroups ids).foldl
    (fun state group => takeEntries state.1 state.2 group) (manager, ⟨[], []⟩)
  ((manager.releaseConnectionSlots removed.ids.length).removeUserConnectionsBatch removed.indexed,
    removed.ids)

/-- `cleanup_timeout_connections`; the trait method also closes the connections it
found, which the manager's state does not show. -/
def cleanupTimeoutConnections (timeout now : Instant) : ConnectionManager × List String :=
  manager.removeConnectionSnapshots (manager.timeoutConnectionIds timeout now)

/-! ## Updating -/

/-- `reindex_user_connection`: an unchanged owner is inserted again, which changes
nothing when it is listed. -/
def reindexUserConnection (connectionId : String) (before after : Option DeviceOwner) :
    ConnectionManager :=
  (manager.removeOwnerConnection (leftOwner before after) connectionId).insertOwnerConnection
    after connectionId

/-- The common body of the updates. -/
def updateConnection (connectionId : String) (update : InfoUpdate) (now : Instant) :
    ConnectionManager × Result Unit :=
  match manager.connections.get connectionId with
  | none => (manager, .error (notFound connectionId))
  | some entry =>
      let info := update.apply now entry.info
      ((manager.writeInfo connectionId entry info).reindexUserConnection connectionId
        entry.info.owner info.owner, .ok ())

def bindUser (connectionId userId : String) (now : Instant) : ConnectionManager × Result Unit :=
  manager.updateConnection connectionId (.bindUser userId) now

def setConnectionAuthenticated (connectionId : String) (userId : Option String) (now : Instant) :
    ConnectionManager × Result Unit :=
  manager.updateConnection connectionId (.setAuthenticated userId) now

def updateConnectionNegotiation (connectionId : String) (negotiation : Negotiation)
    (metadata : Option (StringMap String)) (now : Instant) : ConnectionManager × Result Unit :=
  manager.updateConnection connectionId (.negotiation negotiation metadata) now

def updateConnectionNegotiationWithPipeline (connectionId : String) (negotiation : Negotiation)
    (parser : MessageParser) (pipeline : Option Pipeline) (now : Instant) :
    ConnectionManager × Result Unit :=
  manager.updateConnection connectionId (.negotiationWithPipeline negotiation parser pipeline) now

/-- `mark_negotiation_confirmed`. -/
def markNegotiationConfirmed (connectionId : String) : ConnectionManager × Result Unit :=
  match manager.connections.get connectionId with
  | none => (manager, .error (notFound connectionId))
  | some entry =>
      if entry.info.negotiationCompleted then
        (manager.writeInfo connectionId entry { entry.info with negotiationConfirmed := true },
          .ok ())
      else (manager, .error (notCompleted connectionId))

/-- Sets the last activity of a connection that is in the table. -/
def touch (connectionId : String) (now : Instant) : ConnectionManager :=
  match manager.connections.get connectionId with
  | none => manager
  | some entry => manager.writeInfo connectionId entry { entry.info with lastActive := now }

/-- `update_connection_active`. -/
def updateConnectionActive (connectionId : String) (now : Instant) :
    ConnectionManager × Result Unit :=
  (manager.touch connectionId now,
    if (manager.connections.get connectionId).isSome then .ok ()
    else .error (notFound connectionId))

/-- `update_connections_active`. -/
def updateConnectionsActive (ids : List String) (now : Instant) : ConnectionManager :=
  (connectionGroups ids).foldl
    (fun manager group => group.foldl (fun manager id => manager.touch id now) manager) manager

end ConnectionManager

end Operations

end FlareCore.Server
