import FlareCore.Server.Connection.Accounting

/-!
# Operations that find a lock poisoned

The locks of the shards can be poisoned, and every operation that changes the manager takes two or
three of them one after another.  Adding a connection undoes what it has done when a later lock
fails; removing a connection and updating its information do not, so they return an error and leave
the table changed, without the index that belongs to it (`failed_operations_change_table`).

`Mutation.LeavesTrace` says when that happens, and it is exactly then that an error does not leave
the table, the index and the counters as they were (`failed_operations_change_nothing_iff`).
-/

namespace FlareCore.Server

open FlareCore.Common FlareCore.Foundations

set_option autoImplicit false

section Poisoning

variable [Hashing]

/-- Which shards an operation finds poisoned: at the lock of the connection table, at the lock under
which it removes from the user index, and at the one under which it inserts into it. -/
structure Poison where
  connection : Fin shardCount → Bool
  removal : Fin shardCount → Bool
  insertion : Fin shardCount → Bool

/-! ## The operations -/

def connectionShardPoisoned : FlareError :=
  .localized .generalError "Failed to lock connection shard"

def userShardPoisoned : FlareError :=
  .localized .generalError "Failed to lock user_connection shard"

namespace Poison

variable (poison : Poison) (manager : ConnectionManager)

/-- No lock is poisoned. -/
def clean : Poison :=
  ⟨fun _ => false, fun _ => false, fun _ => false⟩

/-- `insert_user_connection`. -/
def insertUserConnection (owner : DeviceOwner) (connectionId : String) :
    ConnectionManager × Result Unit :=
  if poison.insertion (userShard owner) then (manager, .error userShardPoisoned)
  else (manager.insertUserConnection owner connectionId, .ok ())

/-- `remove_user_connection`. -/
def removeUserConnection (owner : DeviceOwner) (connectionId : String) :
    ConnectionManager × Result Unit :=
  if poison.removal (userShard owner) then (manager, .error userShardPoisoned)
  else (manager.removeUserConnection owner connectionId, .ok ())

/-- Inserts an index entry when there is an owner. -/
def insertOwnerConnection (owner : Option DeviceOwner) (connectionId : String) :
    ConnectionManager × Result Unit :=
  match owner with
  | none => (manager, .ok ())
  | some owner => poison.insertUserConnection manager owner connectionId

/-- Removes an index entry when there is an owner. -/
def removeOwnerConnection (owner : Option DeviceOwner) (connectionId : String) :
    ConnectionManager × Result Unit :=
  match owner with
  | none => (manager, .ok ())
  | some owner => poison.removeUserConnection manager owner connectionId

/-- `reindex_user_connection`. -/
def reindexUserConnection (connectionId : String) (before after : Option DeviceOwner) :
    ConnectionManager × Result Unit :=
  match poison.removeOwnerConnection manager (leftOwner before after) connectionId with
  | (removed, .ok ()) => poison.insertOwnerConnection removed after connectionId
  | (removed, .error error) => (removed, .error error)

/-- `add_connection_with_limit`: the entry and the slot are given back when a lock fails. -/
def addConnectionWithLimit (connectionId : String) (connection : ConnectionHandle)
    (userId : Option String) (requiresAuth : Bool) (maxConnections : UInt64) (now : Instant) :
    ConnectionManager × Result Unit :=
  if maxConnections ≤ manager.connectionCount then
    (manager, .error (ConnectionManager.limitExceeded maxConnections))
  else if poison.connection (connectionShard connectionId) then
    (manager.reserveConnectionSlot.releaseConnectionSlots 1, .error connectionShardPoisoned)
  else if (manager.connections.get connectionId).isSome then
    (manager.reserveConnectionSlot.releaseConnectionSlots 1,
      .error (ConnectionManager.alreadyExists connectionId))
  else
    let info := ConnectionManager.initialInfo connectionId userId requiresAuth now
    let inserted := manager.reserveConnectionSlot.insertEntry connectionId connection info
    match poison.insertOwnerConnection inserted info.owner connectionId with
    | (indexed, .ok ()) => (indexed, .ok ())
    | (failed, .error error) =>
        ((failed.eraseEntry connectionId).releaseConnectionSlots 1, .error error)

/-- `add_connection`. -/
def addConnection (connectionId : String) (connection : ConnectionHandle)
    (userId : Option String) (requiresAuth : Bool) (now : Instant) :
    ConnectionManager × Result Unit :=
  poison.addConnectionWithLimit manager connectionId connection userId requiresAuth (-1) now

/-- `remove_connection`: the entry is gone and the slot released before the index is locked. -/
def removeConnection (connectionId : String) : ConnectionManager × Result Unit :=
  if poison.connection (connectionShard connectionId) then
    (manager, .error connectionShardPoisoned)
  else
    match manager.connections.get connectionId with
    | none => (manager, .error (ConnectionManager.notFound connectionId))
    | some entry =>
        poison.removeOwnerConnection
          ((manager.eraseEntry connectionId).closeQueue ⟨connectionId, entry.serial⟩
            |>.releaseConnectionSlots 1) entry.info.owner connectionId

/-- The common body of the updates: the information is written before the index is locked. -/
def updateConnection (connectionId : String) (update : InfoUpdate) (now : Instant) :
    ConnectionManager × Result Unit :=
  if poison.connection (connectionShard connectionId) then
    (manager, .error connectionShardPoisoned)
  else
    match manager.connections.get connectionId with
    | none => (manager, .error (ConnectionManager.notFound connectionId))
    | some entry =>
        let info := update.apply now entry.info
        poison.reindexUserConnection (manager.writeInfo connectionId entry info) connectionId
          entry.info.owner info.owner

def bindUser (connectionId userId : String) (now : Instant) : ConnectionManager × Result Unit :=
  poison.updateConnection manager connectionId (.bindUser userId) now

def setConnectionAuthenticated (connectionId : String) (userId : Option String) (now : Instant) :
    ConnectionManager × Result Unit :=
  poison.updateConnection manager connectionId (.setAuthenticated userId) now

def updateConnectionNegotiation (connectionId : String) (negotiation : Negotiation)
    (metadata : Option (StringMap String)) (now : Instant) : ConnectionManager × Result Unit :=
  poison.updateConnection manager connectionId (.negotiation negotiation metadata) now

def updateConnectionNegotiationWithPipeline (connectionId : String) (negotiation : Negotiation)
    (parser : MessageParser) (pipeline : Option Pipeline) (now : Instant) :
    ConnectionManager × Result Unit :=
  poison.updateConnection manager connectionId
    (.negotiationWithPipeline negotiation parser pipeline) now

/-! ### Without poison -/

theorem insertOwnerConnection_clean (owner : Option DeviceOwner) (connectionId : String) :
    clean.insertOwnerConnection manager owner connectionId =
      (manager.insertOwnerConnection owner connectionId, .ok ()) := by
  cases owner <;> rfl

theorem removeOwnerConnection_clean (owner : Option DeviceOwner) (connectionId : String) :
    clean.removeOwnerConnection manager owner connectionId =
      (manager.removeOwnerConnection owner connectionId, .ok ()) := by
  cases owner <;> rfl

theorem addConnectionWithLimit_clean (connectionId : String) (connection : ConnectionHandle)
    (userId : Option String) (requiresAuth : Bool) (maxConnections : UInt64) (now : Instant) :
    clean.addConnectionWithLimit manager connectionId connection userId requiresAuth maxConnections
      now =
    manager.addConnectionWithLimit connectionId connection userId requiresAuth maxConnections
      now := by
  simp only [addConnectionWithLimit, ConnectionManager.addConnectionWithLimit,
    insertOwnerConnection_clean]
  rfl

theorem removeConnection_clean (connectionId : String) :
    clean.removeConnection manager connectionId = manager.removeConnection connectionId := by
  simp only [removeConnection, ConnectionManager.removeConnection, removeOwnerConnection_clean]
  rfl

theorem updateConnection_clean (connectionId : String) (update : InfoUpdate) (now : Instant) :
    clean.updateConnection manager connectionId update now =
      manager.updateConnection connectionId update now := by
  simp only [updateConnection, ConnectionManager.updateConnection, reindexUserConnection,
    ConnectionManager.reindexUserConnection, removeOwnerConnection_clean,
    insertOwnerConnection_clean]
  rfl

end Poison

/-! ## What an error leaves behind -/

/-- What a map of strings holds; two maps with the same content may keep it in different orders. -/
abbrev Content := String → Option String

/-- The information of a connection with its maps by content. -/
def ConnectionInfo.contents (info : ConnectionInfo) :
    ConnectionInfo × Content × Option Content :=
  ({ info with
      metadata := ∅
      deviceInfo := info.deviceInfo.map fun device => { device with metadata := ∅ } },
    fun key => info.metadata.lookup key,
    info.deviceInfo.map fun device => fun key => device.metadata.lookup key)

omit [Hashing] in
theorem ConnectionInfo.owner_eq_of_contents {first second : ConnectionInfo}
    (same : first.contents = second.contents) : first.owner = second.owner := by
  have users : first.userId = second.userId := congrArg (fun contents => contents.1.userId) same
  have tenants : first.metadata.lookup "tenant_id" = second.metadata.lookup "tenant_id" :=
    congrArg (fun contents => contents.2.1 "tenant_id") same
  simp only [owner, users, tenants]

def ConnectionEntry.contents (entry : ConnectionEntry) :
    ConnectionHandle × Nat × ConnectionInfo × Content × Option Content :=
  (entry.connection, entry.serial, entry.info.contents)

/-- The connection table, the user index and both counters are the same. -/
structure SameRegistry (before after : ConnectionManager) : Prop where
  connections : ∀ connectionId, (after.connections.get connectionId).map ConnectionEntry.contents =
    (before.connections.get connectionId).map ConnectionEntry.contents
  users : ∀ owner, after.users.get owner = before.users.get owner
  connectionCount : after.connectionCount = before.connectionCount
  userCount : after.userCount = before.userCount

theorem SameRegistry.refl (manager : ConnectionManager) : SameRegistry manager manager :=
  ⟨fun _ => rfl, fun _ => rfl, rfl, rfl⟩

/-- The operations that change the manager. -/
inductive Mutation where
  | addConnection (connectionId : String) (connection : ConnectionHandle) (userId : Option String)
      (requiresAuth : Bool)
  | addConnectionWithLimit (connectionId : String) (connection : ConnectionHandle)
      (userId : Option String) (requiresAuth : Bool) (maxConnections : UInt64)
  | removeConnection (connectionId : String)
  | bindUser (connectionId userId : String)
  | setConnectionAuthenticated (connectionId : String) (userId : Option String)
  | updateConnectionNegotiation (connectionId : String) (negotiation : Negotiation)
      (metadata : Option (StringMap String))
  | updateConnectionNegotiationWithPipeline (connectionId : String) (negotiation : Negotiation)
      (parser : MessageParser) (pipeline : Option Pipeline)

namespace Mutation

variable (poison : Poison) (manager : ConnectionManager) (now : Instant)

def perform : Mutation → ConnectionManager × Result Unit
  | addConnection connectionId connection userId requiresAuth =>
      poison.addConnection manager connectionId connection userId requiresAuth now
  | addConnectionWithLimit connectionId connection userId requiresAuth maxConnections =>
      poison.addConnectionWithLimit manager connectionId connection userId requiresAuth
        maxConnections now
  | removeConnection connectionId => poison.removeConnection manager connectionId
  | bindUser connectionId userId => poison.bindUser manager connectionId userId now
  | setConnectionAuthenticated connectionId userId =>
      poison.setConnectionAuthenticated manager connectionId userId now
  | updateConnectionNegotiation connectionId negotiation metadata =>
      poison.updateConnectionNegotiation manager connectionId negotiation metadata now
  | updateConnectionNegotiationWithPipeline connectionId negotiation parser pipeline =>
      poison.updateConnectionNegotiationWithPipeline manager connectionId negotiation parser
        pipeline now

/-- If the operation returns an error, nothing has changed. -/
def FailsClean (mutation : Mutation) : Prop :=
  ∀ after error, mutation.perform poison manager now = (after, .error error) →
    SameRegistry manager after

end Mutation

/-- The lock of an owner's shard is poisoned. -/
def blocks (shards : Fin shardCount → Bool) (owner : Option DeviceOwner) : Prop :=
  ∃ indexed, owner = some indexed ∧ shards (userShard indexed) = true

/-- A removal finds the connection, and its owner's shard of the index poisoned. -/
def Poison.CutsRemoval (poison : Poison) (manager : ConnectionManager) (connectionId : String) :
    Prop :=
  poison.connection (connectionShard connectionId) = false ∧
    ∃ entry, manager.connections.get connectionId = some entry ∧
      blocks poison.removal entry.info.owner

/-- An update finds the connection, would write something new, and finds the shard of the owner that
it leaves, or of the one that it has then, poisoned. -/
def Poison.CutsUpdate (poison : Poison) (manager : ConnectionManager) (now : Instant)
    (connectionId : String) (update : InfoUpdate) : Prop :=
  poison.connection (connectionShard connectionId) = false ∧
    ∃ entry, manager.connections.get connectionId = some entry ∧
      (update.apply now entry.info).contents ≠ entry.info.contents ∧
      (blocks poison.removal (leftOwner entry.info.owner (update.apply now entry.info).owner) ∨
        blocks poison.insertion (update.apply now entry.info).owner)

/-- An operation is cut short between the table and the index. -/
def Mutation.LeavesTrace (poison : Poison) (manager : ConnectionManager) (now : Instant) :
    Mutation → Prop
  | addConnection _ _ _ _ | addConnectionWithLimit _ _ _ _ _ => False
  | removeConnection connectionId => poison.CutsRemoval manager connectionId
  | bindUser connectionId userId =>
      poison.CutsUpdate manager now connectionId (.bindUser userId)
  | setConnectionAuthenticated connectionId userId =>
      poison.CutsUpdate manager now connectionId (.setAuthenticated userId)
  | updateConnectionNegotiation connectionId negotiation metadata =>
      poison.CutsUpdate manager now connectionId (.negotiation negotiation metadata)
  | updateConnectionNegotiationWithPipeline connectionId negotiation parser pipeline =>
      poison.CutsUpdate manager now connectionId
        (.negotiationWithPipeline negotiation parser pipeline)

section

variable {poison : Poison} {manager : ConnectionManager} {connectionId : String}

theorem insertOwnerConnection_of_blocks {owner : Option DeviceOwner}
    (blocked : blocks poison.insertion owner) :
    poison.insertOwnerConnection manager owner connectionId =
      (manager, .error userShardPoisoned) := by
  obtain ⟨indexed, rfl, poisoned⟩ := blocked
  simp only [Poison.insertOwnerConnection, Poison.insertUserConnection, poisoned, if_true]

theorem insertOwnerConnection_of_not_blocks {owner : Option DeviceOwner}
    (unblocked : ¬ blocks poison.insertion owner) :
    poison.insertOwnerConnection manager owner connectionId =
      (manager.insertOwnerConnection owner connectionId, .ok ()) := by
  cases owner with
  | none => rfl
  | some indexed =>
      have healthy : poison.insertion (userShard indexed) ≠ true :=
        fun poisoned => unblocked ⟨indexed, rfl, poisoned⟩
      simp only [Poison.insertOwnerConnection, Poison.insertUserConnection, if_neg healthy,
        ConnectionManager.insertOwnerConnection]

theorem removeOwnerConnection_of_blocks {owner : Option DeviceOwner}
    (blocked : blocks poison.removal owner) :
    poison.removeOwnerConnection manager owner connectionId =
      (manager, .error userShardPoisoned) := by
  obtain ⟨indexed, rfl, poisoned⟩ := blocked
  simp only [Poison.removeOwnerConnection, Poison.removeUserConnection, poisoned, if_true]

theorem removeOwnerConnection_of_not_blocks {owner : Option DeviceOwner}
    (unblocked : ¬ blocks poison.removal owner) :
    poison.removeOwnerConnection manager owner connectionId =
      (manager.removeOwnerConnection owner connectionId, .ok ()) := by
  cases owner with
  | none => rfl
  | some indexed =>
      have healthy : poison.removal (userShard indexed) ≠ true :=
        fun poisoned => unblocked ⟨indexed, rfl, poisoned⟩
      simp only [Poison.removeOwnerConnection, Poison.removeUserConnection, if_neg healthy,
        ConnectionManager.removeOwnerConnection]

/-! ### Adding -/

/-- Taking a fresh entry and its slot back leaves everything as it was. -/
theorem sameRegistry_rollback (connection : ConnectionHandle) (info : ConnectionInfo)
    (missing : manager.connections.get connectionId = none) :
    SameRegistry manager
      (((manager.reserveConnectionSlot.insertEntry connectionId connection info).eraseEntry
        connectionId).releaseConnectionSlots 1) := by
  refine ⟨?_, fun _ => rfl, ?_, rfl⟩
  · intro other
    have back : ((manager.connections.insert connectionId
        ⟨connection, manager.nextSerial, info⟩).erase connectionId).get other =
          manager.connections.get other := by
      rw [ShardedMap.get_erase, ShardedMap.get_insert]
      by_cases same : other = connectionId
      · simp only [same, if_true, missing]
      · simp only [same, if_false]
    exact congrArg (Option.map ConnectionEntry.contents) back
  · have counted := congrArg ConnectionManager.connectionCount manager.reserve_release
    exact counted

theorem addConnectionWithLimit_failsClean (connection : ConnectionHandle) (userId : Option String)
    (requiresAuth : Bool) (maxConnections : UInt64) (now : Instant) {after : ConnectionManager}
    {error : FlareError}
    (failed : poison.addConnectionWithLimit manager connectionId connection userId requiresAuth
      maxConnections now = (after, .error error)) : SameRegistry manager after := by
  unfold Poison.addConnectionWithLimit at failed
  rw [ConnectionManager.reserve_release] at failed
  split_ifs at failed with full poisoned taken
  · obtain ⟨rfl, -⟩ := Prod.mk.inj failed
    exact .refl manager
  · obtain ⟨rfl, -⟩ := Prod.mk.inj failed
    exact .refl manager
  · obtain ⟨rfl, -⟩ := Prod.mk.inj failed
    exact .refl manager
  · have missing := Option.not_isSome_iff_eq_none.mp taken
    by_cases blocked : blocks poison.insertion
        (ConnectionManager.initialInfo connectionId userId requiresAuth now).owner
    · simp only [insertOwnerConnection_of_blocks blocked] at failed
      obtain ⟨rfl, -⟩ := Prod.mk.inj failed
      exact sameRegistry_rollback connection _ missing
    · simp only [insertOwnerConnection_of_not_blocks blocked] at failed
      cases (Prod.mk.inj failed).2

/-! ### Removing -/

theorem removeConnection_failsClean_iff :
    (∀ after error, poison.removeConnection manager connectionId = (after, .error error) →
      SameRegistry manager after) ↔ ¬ poison.CutsRemoval manager connectionId := by
  unfold Poison.removeConnection Poison.CutsRemoval
  cases poisoned : poison.connection (connectionShard connectionId) with
  | true =>
      simp only [if_true]
      refine ⟨fun _ cut => absurd cut.1 Bool.noConfusion, ?_⟩
      rintro - after error ⟨rfl, -⟩
      exact .refl manager
  | false =>
      simp only [Bool.false_eq_true, if_false, true_and]
      cases found : manager.connections.get connectionId with
      | none =>
          refine ⟨?_, ?_⟩
          · rintro - ⟨entry, same, -⟩
            cases same
          · rintro - after error ⟨rfl, -⟩
            exact .refl manager
      | some entry =>
          simp only
          by_cases blocked : blocks poison.removal entry.info.owner
          · -- the entry is gone although the call fails
            rw [removeOwnerConnection_of_blocks blocked]
            refine ⟨?_, fun uncut => absurd ⟨entry, rfl, blocked⟩ uncut⟩
            intro clean
            have same := (clean _ _ rfl).connections connectionId
            simp only [ConnectionManager.eraseEntry, ConnectionManager.closeQueue,
              ConnectionManager.releaseConnectionSlots, ShardedMap.get_erase_self, found,
              Option.map_none, Option.map_some] at same
            cases same
          · rw [removeOwnerConnection_of_not_blocks blocked]
            refine ⟨?_, ?_⟩
            · rintro - ⟨other, same, otherBlocked⟩
              obtain rfl := Option.some.inj same
              exact blocked otherBlocked
            · intro _ after error failed
              cases (Prod.mk.inj failed).2

/-! ### Updating -/

/-- Information that has been written over is the same only if its contents are. -/
theorem SameRegistry.contents_eq {after : ConnectionManager} {entry : ConnectionEntry}
    {info : ConnectionInfo} (same : SameRegistry manager after)
    (found : manager.connections.get connectionId = some entry)
    (written : after.connections.get connectionId = some { entry with info := info }) :
    info.contents = entry.info.contents := by
  have contents := same.connections connectionId
  rw [found, written] at contents
  exact congrArg (fun entry => entry.2.2) (Option.some.inj contents)

theorem sameRegistry_writeInfo_iff {entry : ConnectionEntry} {info : ConnectionInfo}
    (found : manager.connections.get connectionId = some entry) :
    SameRegistry manager (manager.writeInfo connectionId entry info) ↔
      info.contents = entry.info.contents := by
  constructor
  · intro same
    exact same.contents_eq found (ShardedMap.get_insert_self _ _ _)
  · intro same
    refine ⟨?_, fun _ => rfl, rfl, rfl⟩
    intro other
    by_cases here : other = connectionId
    · subst here
      simp only [ConnectionManager.writeInfo, ShardedMap.get_insert_self, found, Option.map_some,
        ConnectionEntry.contents, same]
    · simp only [ConnectionManager.writeInfo, ShardedMap.get_insert_of_ne _ _ here]

/-- An index that is only half moved does not make up for the information. -/
theorem sameRegistry_half_moved_iff {entry : ConnectionEntry} {info : ConnectionInfo}
    (found : manager.connections.get connectionId = some entry) :
    SameRegistry manager ((manager.writeInfo connectionId entry info).removeOwnerConnection
      (leftOwner entry.info.owner info.owner) connectionId) ↔
        info.contents = entry.info.contents := by
  constructor
  · intro same
    apply same.contents_eq found
    rw [ConnectionManager.removeOwnerConnection_connections]
    exact ShardedMap.get_insert_self _ _ _
  · intro same
    have stays : leftOwner entry.info.owner info.owner = none := by
      rw [leftOwner, if_pos (ConnectionInfo.owner_eq_of_contents same).symm]
    rw [stays]
    exact (sameRegistry_writeInfo_iff found).mpr same

theorem updateConnection_failsClean_iff (update : InfoUpdate) (now : Instant) :
    (∀ after error, poison.updateConnection manager connectionId update now =
      (after, .error error) → SameRegistry manager after) ↔
        ¬ poison.CutsUpdate manager now connectionId update := by
  unfold Poison.updateConnection Poison.CutsUpdate
  cases poisoned : poison.connection (connectionShard connectionId) with
  | true =>
      simp only [if_true]
      refine ⟨fun _ cut => absurd cut.1 Bool.noConfusion, ?_⟩
      rintro - after error ⟨rfl, -⟩
      exact .refl manager
  | false =>
      simp only [Bool.false_eq_true, if_false, true_and]
      cases found : manager.connections.get connectionId with
      | none =>
          refine ⟨?_, ?_⟩
          · rintro - ⟨entry, same, -⟩
            cases same
          · rintro - after error ⟨rfl, -⟩
            exact .refl manager
      | some entry =>
          simp only [Option.some.injEq, exists_eq_left', Poison.reindexUserConnection]
          by_cases leaving : blocks poison.removal
              (leftOwner entry.info.owner (update.apply now entry.info).owner)
          · simp only [removeOwnerConnection_of_blocks leaving, leaving, true_or, and_true, not_not]
            rw [← sameRegistry_writeInfo_iff found]
            refine ⟨fun clean => clean _ _ rfl, ?_⟩
            rintro same after error ⟨rfl, -⟩
            exact same
          · by_cases arriving : blocks poison.insertion (update.apply now entry.info).owner
            · simp only [removeOwnerConnection_of_not_blocks leaving,
                insertOwnerConnection_of_blocks arriving, arriving, or_true, and_true, not_not]
              rw [← sameRegistry_half_moved_iff found]
              refine ⟨fun clean => clean _ _ rfl, ?_⟩
              rintro same after error ⟨rfl, -⟩
              exact same
            · simp only [removeOwnerConnection_of_not_blocks leaving,
                insertOwnerConnection_of_not_blocks arriving, leaving, arriving, or_self, and_false,
                not_false_eq_true, iff_true]
              intro after error failed
              cases (Prod.mk.inj failed).2

end

/-- An operation that returns an error leaves the table, the index and the counters as they were,
unless it is a removal or an update that was cut short after it had changed the table. -/
theorem failed_operations_change_nothing_iff (poison : Poison) (manager : ConnectionManager)
    (now : Instant) (mutation : Mutation) :
    mutation.FailsClean poison manager now ↔ ¬ mutation.LeavesTrace poison manager now := by
  cases mutation with
  | addConnection connectionId connection userId requiresAuth =>
      refine ⟨fun _ => id, ?_⟩
      intro _ after error failed
      exact addConnectionWithLimit_failsClean connection userId requiresAuth (-1) now failed
  | addConnectionWithLimit connectionId connection userId requiresAuth maxConnections =>
      refine ⟨fun _ => id, ?_⟩
      intro _ after error failed
      exact addConnectionWithLimit_failsClean connection userId requiresAuth maxConnections now
        failed
  | removeConnection connectionId => exact removeConnection_failsClean_iff
  | bindUser connectionId userId => exact updateConnection_failsClean_iff _ now
  | setConnectionAuthenticated connectionId userId => exact updateConnection_failsClean_iff _ now
  | updateConnectionNegotiation connectionId negotiation metadata =>
      exact updateConnection_failsClean_iff _ now
  | updateConnectionNegotiationWithPipeline connectionId negotiation parser pipeline =>
      exact updateConnection_failsClean_iff _ now

end Poisoning

section

open scoped SingleShard

/-- One connection, of one user. -/
def registered : ConnectionManager :=
  ((ConnectionManager.new 1).addConnection "c" 0 (some "u") false 0).1

/-- Every shard of the user index is poisoned, and no shard of the table. -/
def poisonedIndex : Poison :=
  ⟨fun _ => false, fun _ => true, fun _ => true⟩

/-- A removal that fails takes the connection out of the table, and a binding that fails leaves the
new user in it. -/
theorem failed_operations_change_table :
    ¬ (Mutation.removeConnection "c").FailsClean poisonedIndex registered 0 ∧
      ¬ (Mutation.bindUser "c" "v").FailsClean poisonedIndex registered 0 := by
  constructor
  · intro clean
    have same := (clean _ userShardPoisoned rfl).connections "c"
    have present := congrArg Option.isSome same
    exact absurd present (by decide +kernel)
  · intro clean
    have same := (clean _ userShardPoisoned rfl).connections "c"
    have users := congrArg (Option.map fun entry => entry.2.2.1.userId) same
    exact absurd users (by decide +kernel)

end

end FlareCore.Server
