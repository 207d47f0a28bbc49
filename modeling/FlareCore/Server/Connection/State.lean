import FlareCore.Foundations.ShardedMap
import FlareCore.Server.Device

/-!
# The state of the connection manager

The manager keeps a table of connections, an index from owners to the connections
bound to them, and two counters.  Table and index are split over 64 shards each by
a hash of the key; the hash is that of the standard library, about which nothing is
assumed, so it is the field of a class.

A connection's writes go through a queue of its own.  Queues are shared with whoever
took a snapshot of the connection and live on after the connection has left the
table, so they sit in a heap beside it.  A queue is created together with a table
entry and carries that entry's connection id, hence a write handle is the id and a
serial number, and entries under different ids never share a queue.

Instants are natural numbers.  Lock poisoning, which needs a panic inside a critical
section, is not modelled.
-/

namespace FlareCore.Server

open FlareCore.Common FlareCore.Foundations

set_option autoImplicit false

/-- A point in time or a duration on the monotone clock. -/
abbrev Instant := Nat

/-- The caller's connection object, `Arc<Mutex<Box<dyn Connection>>>`. -/
abbrev ConnectionHandle := Nat

/-- A message pipeline, told apart by identity only. -/
abbrev Pipeline := Nat

/-! ## Connection information -/

structure ConnectionInfo where
  connectionId : String
  userId : Option String
  createdAt : Instant
  lastActive : Instant
  metadata : StringMap String
  deviceInfo : Option DeviceInfo
  serializationFormat : SerializationFormat
  compression : CompressionAlgorithm
  encryption : EncryptionAlgorithm
  authenticated : Bool
  authenticatedAt : Option Instant
  negotiationCompleted : Bool
  negotiationConfirmed : Bool
  cachedParser : Option MessageParser
  cachedPipeline : Option Pipeline
  deriving DecidableEq

namespace ConnectionInfo

/-- A fresh connection: JSON, uncompressed, unencrypted, and authenticated exactly
if no authentication is required. -/
def new (connectionId : String) (requiresAuth : Bool) (now : Instant) : ConnectionInfo where
  connectionId := connectionId
  userId := none
  createdAt := now
  lastActive := now
  metadata := ∅
  deviceInfo := none
  serializationFormat := .json
  compression := .none
  encryption := .none
  authenticated := !requiresAuth
  authenticatedAt := if requiresAuth then none else some now
  negotiationCompleted := false
  negotiationConfirmed := false
  cachedParser := none
  cachedPipeline := none

/-- The owner a connection is indexed under. -/
def owner (info : ConnectionInfo) : Option DeviceOwner :=
  info.userId.map (DeviceOwner.new (info.metadata.lookup "tenant_id"))

/-- The user of an update, the old one when none is given. -/
def keepUser (info : ConnectionInfo) (userId : Option String) : ConnectionInfo :=
  { info with userId := userId.or info.userId }

def setAuthenticated (info : ConnectionInfo) (userId : Option String) (now : Instant) :
    ConnectionInfo :=
  { info with authenticated := true, authenticatedAt := some now }.keepUser userId

def isTimeout (info : ConnectionInfo) (timeout now : Instant) : Bool :=
  timeout < now - info.lastActive

end ConnectionInfo

/-! ## Write queues -/

/-- Names a write queue: the connection it was created for, and which of the queues
created under that id it is. -/
structure WriteHandle where
  connectionId : String
  serial : Nat
  deriving DecidableEq

structure WriteQueue where
  items : List Wire
  closed : Bool
  capacity : Nat

namespace WriteQueue

/-- A channel holds at least one message. -/
def new (capacity : Nat) : WriteQueue := ⟨[], false, max capacity 1⟩

/-- `try_enqueue`; the writer task drops its receiver only after closing the queue. -/
def tryEnqueue (queue : WriteQueue) (data : Wire) : WriteQueue × Result Unit :=
  if queue.closed then
    (queue, .error (.connectionClosed "Connection write queue is closed"))
  else if queue.capacity ≤ queue.items.length then
    (queue, .error (.connectionTimeout "Connection write queue is full"))
  else ({ queue with items := queue.items ++ [data] }, .ok ())

/-- `close_underlying_in_background`. -/
def close (queue : WriteQueue) : WriteQueue :=
  { queue with closed := true }

end WriteQueue

/-! ## The manager -/

/-- The hash of the standard library, on both kinds of key. -/
class Hashing where
  connection : String → UInt64
  owner : DeviceOwner → UInt64

namespace SingleShard

/-- A hash that sends every key to the first shard, for runs on concrete inputs. -/
scoped instance hashing : Hashing := ⟨fun _ => 0, fun _ => 0⟩

end SingleShard

/-- `CONNECTION_SHARD_COUNT` and `USER_CONNECTION_SHARD_COUNT`. -/
def shardCount : Nat := 64

/-- `shard_index`. -/
def shardIndex (hash : UInt64) : Fin shardCount :=
  ⟨hash.toNat % shardCount, Nat.mod_lt _ (by decide)⟩

section State

variable [Hashing]

def connectionShard (connectionId : String) : Fin shardCount :=
  shardIndex (Hashing.connection connectionId)

def userShard (owner : DeviceOwner) : Fin shardCount :=
  shardIndex (Hashing.owner owner)

/-- A table entry; its write handle is the table key together with `serial`. -/
structure ConnectionEntry where
  connection : ConnectionHandle
  serial : Nat
  info : ConnectionInfo
  deriving DecidableEq

/-- The connection table. -/
abbrev ConnectionTable := ShardedMap connectionShard ConnectionEntry

/-- The index from owners to connection ids. -/
abbrev UserIndex := ShardedMap userShard (List String)

structure ConnectionManager where
  connections : ConnectionTable
  users : UserIndex
  connectionCount : UInt64
  userCount : UInt64
  queues : WriteHandle → WriteQueue
  nextSerial : Nat
  writeQueueCapacity : Nat

/-- What a reader takes out of a table entry. -/
structure ConnectionSnapshot where
  connectionId : String
  serial : Nat
  info : ConnectionInfo
  deriving DecidableEq

def ConnectionSnapshot.handle (snapshot : ConnectionSnapshot) : WriteHandle :=
  ⟨snapshot.connectionId, snapshot.serial⟩

def ConnectionSnapshot.ofEntry (entry : String × ConnectionEntry) : ConnectionSnapshot :=
  ⟨entry.1, entry.2.serial, entry.2.info⟩

namespace ConnectionManager

/-- `with_write_queue_limits`. -/
def new (writeQueueCapacity : Nat) : ConnectionManager where
  connections := ∅
  users := ∅
  connectionCount := 0
  userCount := 0
  queues := fun _ => .new writeQueueCapacity
  nextSerial := 0
  writeQueueCapacity := max writeQueueCapacity 1

/-! ### Reading -/

/-- The owner the table records for a connection. -/
def ownerOf (manager : ConnectionManager) (connectionId : String) : Option DeviceOwner :=
  (manager.connections.get connectionId).bind fun entry => entry.info.owner

/-- `get_connection_snapshot`. -/
def getConnectionSnapshot (manager : ConnectionManager) (connectionId : String) :
    Option ConnectionSnapshot :=
  (manager.connections.get connectionId).map fun entry =>
    ⟨connectionId, entry.serial, entry.info⟩

/-- `get_user_connections`. -/
def getUserConnections (manager : ConnectionManager) (owner : DeviceOwner) : List String :=
  (manager.users.get owner).getD []

/-- `connection_snapshots`; the handle and authentication snapshots of the source
keep some of the fields read here. -/
def connectionSnapshots (manager : ConnectionManager) : List ConnectionSnapshot :=
  manager.connections.bindings.map .ofEntry

/-- `connection_snapshots_except`. -/
def connectionSnapshotsExcept (manager : ConnectionManager) (excluded : String) :
    List ConnectionSnapshot :=
  manager.connectionSnapshots.filter fun snapshot => snapshot.connectionId ≠ excluded

/-- `connection_snapshots_for_ids`: the ids are regrouped by shard first. -/
def connectionSnapshotsForIds (manager : ConnectionManager) (ids : List String) :
    List ConnectionSnapshot :=
  (manager.connections.getMany ids).map .ofEntry

/-- `timeout_connection_snapshots`, down to the ids it is used for. -/
def timeoutConnectionIds (manager : ConnectionManager) (timeout now : Instant) : List String :=
  (manager.connections.bindings.filter fun entry => entry.2.info.isTimeout timeout now).map Prod.fst

end ConnectionManager

end State

end FlareCore.Server
