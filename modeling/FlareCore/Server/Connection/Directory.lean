import FlareCore.Foundations.Directory
import FlareCore.Server.Connection.Consistency

/-!
# The connection manager as a directory

What the manager is for can be said without shards, locks and counters: it is a partial map from
connection ids to connections with their information, and everything that can be asked of it is
asked of that map.  The operations change the map at one id, or take out a set of ids.

Each operation of the manager does to its table what it does to the map, and replies the same
(`Represents.perform`); so after any calls, one after the other, every reply and every query is the
one of the map (`manager_refines_directory`).
-/

namespace FlareCore.Server

open FlareCore.Common FlareCore.Foundations

set_option autoImplicit false

section Directory

variable [Hashing]

/-! ## Queries -/

/-- `ConnectionStats`. -/
structure ConnectionStats where
  totalConnections : UInt64
  totalUsers : UInt64
  deriving DecidableEq

namespace ConnectionManager

variable (manager : ConnectionManager)

/-- `get_connection`. -/
def getConnection (connectionId : String) : Option (ConnectionHandle × ConnectionInfo) :=
  (manager.connections.get connectionId).map fun entry => (entry.connection, entry.info)

/-- `list_connections`: the keys of one shard after the other. -/
def listConnections : List String :=
  manager.connections.keys

def stats : ConnectionStats where
  totalConnections := manager.connectionCount
  totalUsers := manager.userCount

end ConnectionManager

/-- What a call returns. -/
inductive Reply where
  | result (result : Result Unit)
  | found (found : Bool)
  | removed (ids : List String)

/-- What a call on the manager returns. -/
def Operation.reply (manager : ConnectionManager) : Operation → Reply
  | .addConnection connectionId connection userId requiresAuth now =>
      .result (manager.addConnection connectionId connection userId requiresAuth now).2
  | .addConnectionWithLimit connectionId connection userId requiresAuth maxConnections now =>
      .result (manager.addConnectionWithLimit connectionId connection userId requiresAuth
        maxConnections now).2
  | .removeConnection connectionId => .result (manager.removeConnection connectionId).2
  | .registryRemoveConnection connectionId =>
      .found (manager.registryRemoveConnection connectionId).2
  | .removeConnectionSnapshots ids => .removed (manager.removeConnectionSnapshots ids).2
  | .cleanupTimeoutConnections timeout now =>
      .removed (manager.cleanupTimeoutConnections timeout now).2
  | .bindUser connectionId userId now => .result (manager.bindUser connectionId userId now).2
  | .setConnectionAuthenticated connectionId userId now =>
      .result (manager.setConnectionAuthenticated connectionId userId now).2
  | .updateConnectionNegotiation connectionId negotiation metadata now =>
      .result (manager.updateConnectionNegotiation connectionId negotiation metadata now).2
  | .updateConnectionNegotiationWithPipeline connectionId negotiation parser pipeline now =>
      .result (manager.updateConnectionNegotiationWithPipeline connectionId negotiation parser
        pipeline now).2
  | .markNegotiationConfirmed connectionId =>
      .result (manager.markNegotiationConfirmed connectionId).2
  | .updateConnectionActive connectionId now =>
      .result (manager.updateConnectionActive connectionId now).2

/-- The replies to calls, one after the other. -/
def Operation.replies : ConnectionManager → List Operation → List Reply
  | _, [] => []
  | manager, operation :: operations =>
      operation.reply manager :: replies (operation.perform manager) operations

/-! ## The directory -/

/-- A connection, as the users of the manager see it. -/
structure Member where
  connection : ConnectionHandle
  info : ConnectionInfo

/-- The manager, seen as a partial map. -/
abbrev Members := Directory String Member

def Member.owner (member : Member) : Option DeviceOwner :=
  member.info.owner

def ConnectionEntry.member (entry : ConnectionEntry) : Member :=
  ⟨entry.connection, entry.info⟩

/-- What is answered: the ids that are removed are a set. -/
inductive DirectoryAnswer where
  | result (result : Result Unit)
  | found (found : Bool)
  | removed (ids : Set String)

namespace Members

variable (members : Members)

noncomputable def add (connectionId : String) (connection : ConnectionHandle)
    (info : ConnectionInfo) (maxConnections : UInt64) : Members × DirectoryAnswer :=
  if maxConnections.toNat ≤ members.size then
    (members, .result (.error (ConnectionManager.limitExceeded maxConnections)))
  else if (members connectionId).isSome then
    (members, .result (.error (ConnectionManager.alreadyExists connectionId)))
  else (members.put connectionId ⟨connection, info⟩, .result (.ok ()))

/-- An operation on a connection that has to be there. -/
def withMember (connectionId : String) (operate : Member → Members × DirectoryAnswer) :
    Members × DirectoryAnswer :=
  match members connectionId with
  | none => (members, .result (.error (ConnectionManager.notFound connectionId)))
  | some member => operate member

/-- The information of a connection is rewritten. -/
noncomputable def update (connectionId : String) (change : ConnectionInfo → ConnectionInfo) :
    Members × DirectoryAnswer :=
  members.withMember connectionId fun member =>
    (members.put connectionId { member with info := change member.info }, .result (.ok ()))

/-- Those that have been silent for longer than a time. -/
def timedOut (timeout now : Instant) : Set String :=
  members.keysWith fun member => member.info.isTimeout timeout now = true

/-- What a call does to the directory, and what it answers. -/
noncomputable def perform : Operation → Members × DirectoryAnswer
  | .addConnection connectionId connection userId requiresAuth now =>
      members.add connectionId connection
        (ConnectionManager.initialInfo connectionId userId requiresAuth now) (-1)
  | .addConnectionWithLimit connectionId connection userId requiresAuth maxConnections now =>
      members.add connectionId connection
        (ConnectionManager.initialInfo connectionId userId requiresAuth now) maxConnections
  | .removeConnection connectionId =>
      members.withMember connectionId fun _ =>
        (members.without {connectionId}, .result (.ok ()))
  | .registryRemoveConnection connectionId =>
      (members.without {connectionId}, .found (members connectionId).isSome)
  | .removeConnectionSnapshots ids =>
      (members.without {id | id ∈ ids}, .removed ({id | id ∈ ids} ∩ members.keys))
  | .cleanupTimeoutConnections timeout now =>
      (members.without (members.timedOut timeout now), .removed (members.timedOut timeout now))
  | .bindUser connectionId userId now =>
      members.update connectionId fun info => InfoUpdate.apply now info (.bindUser userId)
  | .setConnectionAuthenticated connectionId userId now =>
      members.update connectionId fun info => InfoUpdate.apply now info (.setAuthenticated userId)
  | .updateConnectionNegotiation connectionId negotiation metadata now =>
      members.update connectionId fun info =>
        InfoUpdate.apply now info (.negotiation negotiation metadata)
  | .updateConnectionNegotiationWithPipeline connectionId negotiation parser pipeline now =>
      members.update connectionId fun info =>
        InfoUpdate.apply now info (.negotiationWithPipeline negotiation parser pipeline)
  | .markNegotiationConfirmed connectionId =>
      members.withMember connectionId fun member =>
        if member.info.negotiationCompleted then
          (members.put connectionId
            { member with info := { member.info with negotiationConfirmed := true } },
            .result (.ok ()))
        else (members, .result (.error (ConnectionManager.notCompleted connectionId)))
  | .updateConnectionActive connectionId now =>
      members.update connectionId fun info => { info with lastActive := now }

/-- The directory after calls, one after the other. -/
noncomputable def performAll : Members → List Operation → Members
  | members, [] => members
  | members, operation :: operations => performAll (members.perform operation).1 operations

/-- The answers to calls, one after the other. -/
noncomputable def answers : Members → List Operation → List DirectoryAnswer
  | _, [] => []
  | members, operation :: operations =>
      (members.perform operation).2 :: answers (members.perform operation).1 operations

end Members

/-- A reply is an answer; a list of ids that are removed names each of them once. -/
inductive Reply.Shows : Reply → DirectoryAnswer → Prop where
  | result (result : Result Unit) : Shows (.result result) (.result result)
  | found (found : Bool) : Shows (.found found) (.found found)
  | removed (ids : List String) (set : Set String) (distinct : ids.Nodup)
      (same : ∀ id, id ∈ ids ↔ id ∈ set) : Shows (.removed ids) (.removed set)

/-- Every query of a manager is answered as the directory says. -/
structure Answers (manager : ConnectionManager) (members : Members) : Prop where
  getConnection : ∀ connectionId, manager.getConnection connectionId =
    (members connectionId).map fun member => (member.connection, member.info)
  listConnections : manager.listConnections.Nodup ∧
    ∀ connectionId, connectionId ∈ manager.listConnections ↔ connectionId ∈ members.keys
  getUserConnections : ∀ owner, (manager.getUserConnections owner).Nodup ∧
    ∀ connectionId, connectionId ∈ manager.getUserConnections owner ↔
      connectionId ∈ members.ownedBy Member.owner owner
  totalConnections : manager.stats.totalConnections.toNat = members.size
  totalUsers : manager.stats.totalUsers.toNat = (members.owners Member.owner).ncard
  timeoutConnectionIds : ∀ timeout now connectionId,
    connectionId ∈ manager.timeoutConnectionIds timeout now ↔
      connectionId ∈ members.timedOut timeout now
  connectionSnapshotsForIds : ∀ ids, ((manager.connectionSnapshotsForIds ids).map
    fun snapshot => (snapshot.connectionId, snapshot.info)).Perm
      (ids.filterMap fun id => (members id).map fun member => (id, member.info))

/-- The table of a settled manager stores the directory. -/
structure Represents (manager : ConnectionManager) (members : Members) : Prop where
  settled : manager.Settled
  table : manager.connections.stores ConnectionEntry.member = members

/-! ## One call -/

namespace Represents

variable {manager : ConnectionManager} {members : Members}

/-- A connection is in the directory as it is in the table. -/
theorem member (represents : Represents manager members) (connectionId : String) :
    members connectionId = (manager.connections.get connectionId).map ConnectionEntry.member := by
  rw [← represents.table]
  rfl

theorem isSome (represents : Represents manager members) (connectionId : String) :
    (members connectionId).isSome = (manager.connections.get connectionId).isSome := by
  rw [represents.member, Option.isSome_map]

/-- The limit check reads the size of the directory. -/
theorem full_iff (represents : Represents manager members) (maxConnections : UInt64) :
    maxConnections ≤ manager.connectionCount ↔ maxConnections.toNat ≤ members.size := by
  rw [UInt64.le_iff_toNat_le, represents.settled.connectionCount, ← represents.table,
    ShardedMap.size_stores]

theorem new (capacity : Nat) :
    Represents (ConnectionManager.new capacity) fun _ => none where
  settled := .new capacity
  table := by
    funext connectionId
    simp [ShardedMap.stores, ConnectionManager.new]

theorem addConnectionWithLimit (represents : Represents manager members) (connectionId : String)
    (connection : ConnectionHandle) (userId : Option String) (requiresAuth : Bool)
    (maxConnections : UInt64) (now : Instant) :
    (manager.addConnectionWithLimit connectionId connection userId requiresAuth maxConnections
        now).1.connections.stores ConnectionEntry.member =
      (members.add connectionId connection
        (ConnectionManager.initialInfo connectionId userId requiresAuth now) maxConnections).1 ∧
    Reply.Shows (.result (manager.addConnectionWithLimit connectionId connection userId requiresAuth
        maxConnections now).2)
      (members.add connectionId connection
        (ConnectionManager.initialInfo connectionId userId requiresAuth now) maxConnections).2 := by
  rw [ConnectionManager.addConnectionWithLimit, Members.add]
  simp only [represents.full_iff, represents.isSome]
  split_ifs with full taken
  · exact ⟨represents.table, .result _⟩
  · exact ⟨represents.table, .result _⟩
  · refine ⟨?_, .result _⟩
    rw [ConnectionManager.insertOwnerConnection_connections, ← represents.table]
    exact ShardedMap.stores_insert connectionId _

/-- Operations on one connection fail alike if it is not there. -/
theorem missing (represents : Represents manager members) {connectionId : String}
    (absent : manager.connections.get connectionId = none)
    (operate : Member → Members × DirectoryAnswer) :
    members.withMember connectionId operate =
      (members, .result (.error (ConnectionManager.notFound connectionId))) := by
  rw [Members.withMember, represents.member, absent, Option.map_none]

theorem present (represents : Represents manager members) {connectionId : String}
    {entry : ConnectionEntry} (found : manager.connections.get connectionId = some entry)
    (operate : Member → Members × DirectoryAnswer) :
    members.withMember connectionId operate = operate entry.member := by
  rw [Members.withMember, represents.member, found, Option.map_some]

theorem removeConnection (represents : Represents manager members) (connectionId : String) :
    (manager.removeConnection connectionId).1.connections.stores ConnectionEntry.member =
      (members.perform (.removeConnection connectionId)).1 ∧
    Reply.Shows (.result (manager.removeConnection connectionId).2)
      (members.perform (.removeConnection connectionId)).2 := by
  rw [Members.perform, ConnectionManager.removeConnection]
  cases found : manager.connections.get connectionId with
  | none =>
      rw [represents.missing found]
      exact ⟨represents.table, .result _⟩
  | some entry =>
      rw [represents.present found]
      refine ⟨?_, .result _⟩
      rw [ConnectionManager.removeOwnerConnection_connections, ← represents.table]
      exact ShardedMap.stores_erase connectionId

theorem registryRemoveConnection (represents : Represents manager members)
    (connectionId : String) :
    (manager.registryRemoveConnection connectionId).1.connections.stores ConnectionEntry.member =
      (members.perform (.registryRemoveConnection connectionId)).1 ∧
    Reply.Shows (.found (manager.registryRemoveConnection connectionId).2)
      (members.perform (.registryRemoveConnection connectionId)).2 := by
  rw [Members.perform, ConnectionManager.registryRemoveConnection, represents.isSome]
  cases found : manager.connections.get connectionId with
  | none =>
      refine ⟨?_, .found _⟩
      rw [represents.table, Directory.without_eq_self]
      rintro other rfl
      rw [represents.member, found, Option.map_none]
  | some entry =>
      refine ⟨?_, .found _⟩
      rw [ConnectionManager.removeOwnerConnection_connections, ← represents.table]
      exact ShardedMap.stores_erase connectionId

/-- Every update of the information of a connection writes what is written in the directory. -/
theorem updateConnection (represents : Represents manager members) (connectionId : String)
    (update : InfoUpdate) (now : Instant) :
    (manager.updateConnection connectionId update now).1.connections.stores
        ConnectionEntry.member =
      (members.update connectionId fun info => update.apply now info).1 ∧
    Reply.Shows (.result (manager.updateConnection connectionId update now).2)
      (members.update connectionId fun info => update.apply now info).2 := by
  rw [Members.update, ConnectionManager.updateConnection]
  cases found : manager.connections.get connectionId with
  | none =>
      rw [represents.missing found]
      exact ⟨represents.table, .result _⟩
  | some entry =>
      rw [represents.present found]
      refine ⟨?_, .result _⟩
      simp only [ConnectionManager.reindexUserConnection,
        ConnectionManager.insertOwnerConnection_connections,
        ConnectionManager.removeOwnerConnection_connections, ← represents.table]
      exact ShardedMap.stores_insert connectionId _

theorem markNegotiationConfirmed (represents : Represents manager members)
    (connectionId : String) :
    (manager.markNegotiationConfirmed connectionId).1.connections.stores ConnectionEntry.member =
      (members.perform (.markNegotiationConfirmed connectionId)).1 ∧
    Reply.Shows (.result (manager.markNegotiationConfirmed connectionId).2)
      (members.perform (.markNegotiationConfirmed connectionId)).2 := by
  rw [Members.perform, ConnectionManager.markNegotiationConfirmed]
  cases found : manager.connections.get connectionId with
  | none =>
      rw [represents.missing found]
      exact ⟨represents.table, .result _⟩
  | some entry =>
      rw [represents.present found]
      by_cases completed : entry.info.negotiationCompleted = true
      · simp only [ConnectionEntry.member, completed, if_true]
        refine ⟨?_, .result _⟩
        rw [← represents.table]
        exact ShardedMap.stores_insert connectionId _
      · simp only [ConnectionEntry.member, completed, if_false, Bool.false_eq_true]
        exact ⟨represents.table, .result _⟩

theorem updateConnectionActive (represents : Represents manager members) (connectionId : String)
    (now : Instant) :
    (manager.updateConnectionActive connectionId now).1.connections.stores
        ConnectionEntry.member =
      (members.perform (.updateConnectionActive connectionId now)).1 ∧
    Reply.Shows (.result (manager.updateConnectionActive connectionId now).2)
      (members.perform (.updateConnectionActive connectionId now)).2 := by
  rw [Members.perform, Members.update, ConnectionManager.updateConnectionActive,
    ConnectionManager.touch]
  cases found : manager.connections.get connectionId with
  | none =>
      rw [represents.missing found]
      exact ⟨represents.table, .result _⟩
  | some entry =>
      rw [represents.present found]
      refine ⟨?_, .result _⟩
      rw [← represents.table]
      exact ShardedMap.stores_insert connectionId _

end Represents

/-- What a batch takes out of the table. -/
theorem ConnectionManager.get_takeEntries_of_mem {manager : ConnectionManager} {removed : Removed}
    {ids : List String} {id : String} (member : id ∈ ids) :
    (takeEntries manager removed ids).1.connections.get id = none := by
  induction ids generalizing manager removed with
  | nil => exact absurd member List.not_mem_nil
  | cons head ids inductionHypothesis =>
      by_cases later : id ∈ ids
      · cases found : manager.connections.get head with
        | none =>
            rw [takeEntries_cons_of_none found]
            exact inductionHypothesis later
        | some entry =>
            rw [takeEntries_cons_of_some found]
            exact inductionHypothesis later
      · obtain rfl := (List.mem_cons.mp member).resolve_right later
        cases found : manager.connections.get id with
        | none =>
            rw [takeEntries_cons_of_none found, get_takeEntries_of_not_mem later]
            exact found
        | some entry =>
            rw [takeEntries_cons_of_some found, get_takeEntries_of_not_mem later]
            exact ShardedMap.get_erase_self _ id

/-- What a batch reports: each id that it found, once. -/
theorem ConnectionManager.ids_takeEntries {manager : ConnectionManager} {removed : Removed}
    {ids : List String} (distinct : removed.ids.Nodup)
    (gone : ∀ id ∈ removed.ids, manager.connections.get id = none) :
    (takeEntries manager removed ids).2.ids.Nodup ∧
      ∀ id, id ∈ (takeEntries manager removed ids).2.ids ↔
        id ∈ removed.ids ∨ id ∈ ids ∧ (manager.connections.get id).isSome := by
  induction ids generalizing manager removed with
  | nil => exact ⟨distinct, fun id => by simp [takeEntries]⟩
  | cons head ids inductionHypothesis =>
      cases found : manager.connections.get head with
      | none =>
          rw [takeEntries_cons_of_none found]
          obtain ⟨nodup, mem⟩ := inductionHypothesis distinct gone
          refine ⟨nodup, fun id => ?_⟩
          rw [mem, List.mem_cons]
          by_cases same : id = head
          · simp [same, found]
          · simp [same]
      | some entry =>
          have fresh : head ∉ removed.ids := fun member => by simp [gone head member] at found
          rw [takeEntries_cons_of_some found]
          obtain ⟨nodup, mem⟩ := @inductionHypothesis
            ((manager.eraseEntry head).closeQueue ⟨head, entry.serial⟩)
            ⟨removed.ids ++ [head], _⟩
            (List.nodup_append'.mpr ⟨distinct, List.nodup_singleton head, by simpa using fresh⟩) (by
              intro id member
              change (manager.connections.erase head).get id = none
              rw [ShardedMap.get_erase]
              split_ifs with same
              · rfl
              · rcases List.mem_append.mp member with early | last
                · exact gone id early
                · exact absurd (List.mem_singleton.mp last) same)
          refine ⟨nodup, fun id => ?_⟩
          rw [mem, List.mem_cons, List.mem_append, List.mem_singleton]
          change _ ∨ id ∈ ids ∧ ((manager.connections.erase head).get id).isSome ↔ _
          rw [ShardedMap.get_erase]
          by_cases same : id = head
          · simp [same, found]
          · simp [same]

theorem ConnectionManager.removeUserConnectionsBatch_table (manager : ConnectionManager)
    (entries : List (DeviceOwner × String)) :
    (manager.removeUserConnectionsBatch entries).connections = manager.connections := by
  simp only [removeUserConnectionsBatch, foldl_removeIndexEntries, releaseUsers_connections,
    removeIndexEntries_connections]

namespace Represents

variable {manager : ConnectionManager} {members : Members}

/-- A batch takes the ids that it is given out, and reports those that were there. -/
theorem removeConnectionSnapshots (represents : Represents manager members) (ids : List String) :
    (manager.removeConnectionSnapshots ids).1.connections.stores ConnectionEntry.member =
      members.without {id | id ∈ ids} ∧
    (manager.removeConnectionSnapshots ids).2.Nodup ∧
    ∀ id, id ∈ (manager.removeConnectionSnapshots ids).2 ↔ id ∈ ids ∧ id ∈ members.keys := by
  have grouped : ∀ id, id ∈ (ConnectionManager.connectionGroups ids).flatten ↔ id ∈ ids :=
    fun id => (ShardedMap.flatten_groups_perm ids).mem_iff
  simp only [ConnectionManager.removeConnectionSnapshots, ConnectionManager.foldl_takeEntries,
    ConnectionManager.removeUserConnectionsBatch_table,
    ConnectionManager.releaseConnectionSlots_connections]
  obtain ⟨distinct, mem⟩ := @ConnectionManager.ids_takeEntries _ manager ⟨[], []⟩
    (ConnectionManager.connectionGroups ids).flatten List.nodup_nil nofun
  refine ⟨?_, distinct, fun id => ?_⟩
  · funext id
    by_cases taken : id ∈ ids
    · rw [Directory.without_of_mem _ (show id ∈ {id | id ∈ ids} from taken), ShardedMap.stores,
        ConnectionManager.get_takeEntries_of_mem ((grouped id).mpr taken), Option.map_none]
    · rw [Directory.without_of_not_mem _ (show id ∉ {id | id ∈ ids} from taken),
        ShardedMap.stores,
        ConnectionManager.get_takeEntries_of_not_mem fun member => taken ((grouped id).mp member),
        represents.member]
  · rw [mem, grouped]
    simp [Directory.keys, represents.isSome]

theorem mem_timeoutConnectionIds (represents : Represents manager members)
    (timeout now : Instant) (connectionId : String) :
    connectionId ∈ manager.timeoutConnectionIds timeout now ↔
      connectionId ∈ members.timedOut timeout now := by
  simp only [ConnectionManager.timeoutConnectionIds, List.mem_map, List.mem_filter, Prod.exists,
    ShardedMap.mem_bindings, Members.timedOut, Directory.keysWith, Set.mem_ofPred_eq,
    represents.member, Option.map_eq_some_iff]
  constructor
  · rintro ⟨id, entry, ⟨found, silent⟩, rfl⟩
    exact ⟨entry.member, ⟨entry, found, rfl⟩, silent⟩
  · rintro ⟨member, ⟨entry, found, rfl⟩, silent⟩
    exact ⟨connectionId, entry, ⟨found, silent⟩, rfl⟩

/-- **One call** does to the table what it does to the directory, and replies what the directory
answers. -/
theorem perform (represents : Represents manager members) (operation : Operation) :
    Represents (operation.perform manager) (members.perform operation).1 ∧
      Reply.Shows (operation.reply manager) (members.perform operation).2 := by
  have settled := represents.settled.perform operation
  suffices step : (operation.perform manager).connections.stores ConnectionEntry.member =
      (members.perform operation).1 ∧
      Reply.Shows (operation.reply manager) (members.perform operation).2 from
    ⟨⟨settled, step.1⟩, step.2⟩
  cases operation with
  | addConnection => exact represents.addConnectionWithLimit ..
  | addConnectionWithLimit => exact represents.addConnectionWithLimit ..
  | removeConnection => exact represents.removeConnection _
  | registryRemoveConnection => exact represents.registryRemoveConnection _
  | removeConnectionSnapshots ids =>
      obtain ⟨table, distinct, mem⟩ := represents.removeConnectionSnapshots ids
      exact ⟨table, .removed _ _ distinct mem⟩
  | cleanupTimeoutConnections timeout now =>
      obtain ⟨table, distinct, mem⟩ := represents.removeConnectionSnapshots
        (manager.timeoutConnectionIds timeout now)
      have same : {id | id ∈ manager.timeoutConnectionIds timeout now} =
          members.timedOut timeout now := by
        ext id
        exact represents.mem_timeoutConnectionIds timeout now id
      refine ⟨table.trans (by rw [same]; rfl), .removed _ _ distinct fun id => ?_⟩
      refine (mem id).trans ?_
      rw [represents.mem_timeoutConnectionIds, and_iff_left_iff_imp]
      rintro ⟨member, found, _⟩
      exact (Directory.mem_keys members).mpr ⟨member, found⟩
  | bindUser => exact represents.updateConnection ..
  | setConnectionAuthenticated => exact represents.updateConnection ..
  | updateConnectionNegotiation => exact represents.updateConnection ..
  | updateConnectionNegotiationWithPipeline => exact represents.updateConnection ..
  | markNegotiationConfirmed => exact represents.markNegotiationConfirmed _
  | updateConnectionActive => exact represents.updateConnectionActive ..

/-! ## Queries -/

/-- The index lists the connections of an owner. -/
theorem getUserConnections (represents : Represents manager members) (owner : DeviceOwner) :
    (manager.getUserConnections owner).Nodup ∧
      ∀ connectionId, connectionId ∈ manager.getUserConnections owner ↔
        connectionId ∈ members.ownedBy Member.owner owner := by
  have listed : ∀ connectionId, (manager.getUserConnections owner).count connectionId =
      manager.owns owner connectionId := represents.settled.listed owner
  constructor
  · rw [List.nodup_iff_count_le_one]
    intro connectionId
    rw [listed]
    exact manager.owns_le_one owner connectionId
  · intro connectionId
    have positive : 0 < manager.owns owner connectionId ↔
        manager.ownerOf connectionId = some owner := by
      rw [ConnectionManager.owns]
      split_ifs with owned <;> simp [owned]
    rw [← List.count_pos_iff, listed, positive, ConnectionManager.ownerOf,
      Option.bind_eq_some_iff]
    simp only [Directory.ownedBy, Directory.keysWith, represents.member, Set.mem_ofPred_eq,
      Option.map_eq_some_iff]
    constructor
    · rintro ⟨entry, found, owned⟩
      exact ⟨entry.member, ⟨entry, found, rfl⟩, owned⟩
    · rintro ⟨member, ⟨entry, found, rfl⟩, owned⟩
      exact ⟨entry, found, owned⟩

/-- The users counted are those that own a connection. -/
theorem totalUsers (represents : Represents manager members) :
    manager.users.size = (members.owners Member.owner).ncard := by
  have indexed : (manager.users.stores id).keys = members.owners Member.owner := by
    ext owner
    rw [ShardedMap.mem_keys_stores, ShardedMap.mem_keys]
    have listed := (represents.getUserConnections owner).2
    cases found : manager.users.get owner with
    | none =>
        have empty : manager.getUserConnections owner = [] := by
          rw [ConnectionManager.getUserConnections, found, Option.getD_none]
        refine iff_of_false nofun ?_
        rintro ⟨connectionId, owned⟩
        have member := (listed connectionId).mpr owned
        rw [empty] at member
        exact absurd member List.not_mem_nil
    | some ids =>
        have ofOwner : manager.getUserConnections owner = ids := by
          rw [ConnectionManager.getUserConnections, found, Option.getD_some]
        obtain ⟨first, member⟩ := List.exists_mem_of_ne_nil ids
          (represents.settled.wellFormed owner ids found).2
        exact iff_of_true rfl ⟨first, (listed first).mp (ofOwner ▸ member)⟩
  rw [← indexed, ← ShardedMap.size_stores (m := manager.users), Directory.size]

theorem answers (represents : Represents manager members) : Answers manager members where
  getConnection connectionId := by
    rw [represents.member, Option.map_map, ConnectionManager.getConnection]
    rfl
  listConnections := by
    refine ⟨manager.connections.nodup_keys, fun connectionId => ?_⟩
    rw [← represents.table, ShardedMap.mem_keys_stores]
    rfl
  getUserConnections := represents.getUserConnections
  totalConnections := by
    rw [← represents.table, ShardedMap.size_stores]
    exact represents.settled.connectionCount
  totalUsers := represents.settled.consistent.userCount.trans represents.totalUsers
  timeoutConnectionIds := represents.mem_timeoutConnectionIds
  connectionSnapshotsForIds ids := by
    have read := (manager.connections.getMany_perm ids).map
      fun entry => (entry.1, entry.2.info)
    rw [ConnectionManager.connectionSnapshotsForIds, List.map_map]
    refine read.trans (List.Perm.of_eq ?_)
    rw [List.map_filterMap]
    congr 1
    funext id
    rw [represents.member, Option.map_map, Option.map_map]
    rfl

/-- Calls, one after the other. -/
theorem performAll (represents : Represents manager members) (operations : List Operation) :
    Represents (operations.foldl Operation.perform manager) (members.performAll operations) ∧
      List.Forall₂ Reply.Shows (Operation.replies manager operations)
        (members.answers operations) := by
  induction operations generalizing manager members with
  | nil => exact ⟨represents, .nil⟩
  | cons operation operations inductionHypothesis =>
      obtain ⟨stillRepresents, shows⟩ := represents.perform operation
      obtain ⟨atLast, rest⟩ := inductionHypothesis stillRepresents
      exact ⟨atLast, .cons shows rest⟩

end Represents

/-- **The manager is a directory**: after any calls on a new manager, one after the other, the
replies were those of the directory, and every query is answered as the directory says. -/
theorem manager_refines_directory (writeQueueCapacity : Nat) (operations : List Operation) :
    List.Forall₂ Reply.Shows
        (Operation.replies (ConnectionManager.new writeQueueCapacity) operations)
        (Members.answers (fun _ => none) operations) ∧
      Answers (operations.foldl Operation.perform (ConnectionManager.new writeQueueCapacity))
        (Members.performAll (fun _ => none) operations) := by
  obtain ⟨represents, replies⟩ := (Represents.new writeQueueCapacity).performAll operations
  exact ⟨replies, represents.answers⟩

end Directory

end FlareCore.Server
