import FlareCore.Server.Connection.Tasks

/-!
# What a step of a call does

Between two of its sections a call owes something to the rest of the manager: a slot it
has reserved or not yet given back, an index entry it has not yet inserted or removed, an
owner it has not yet taken off the user counter.  The functions of the first part read
these debts off a task.

`Action` then lists the steps by what they do to the shared books.  Steps of a task that
owes nothing before and after fall into three kinds (`idle`, `refresh`, `enqueue`); each of
the others is listed on its own.  Every invariant of the concurrent manager is proved by
going through this list.
-/

namespace FlareCore.Server

open FlareCore.Common FlareCore.Foundations

set_option autoImplicit false

section Actions

variable [Hashing]

/-! ## What a task owes -/

namespace Task

/-- Index entries that are still to be inserted. -/
def inserting (task : Task) (owner : DeviceOwner) (connectionId : String) : Nat :=
  match task with
  | .addIndex call after => mark (some after) call.connectionId owner connectionId
  | .reindexRemove id _ after => mark after id owner connectionId
  | .reindexInsert id true after => mark (some after) id owner connectionId
  | _ => 0

/-- Index entries still to be removed by a task that keeps the table shard locked. -/
def lockedRemoving (task : Task) (owner : DeviceOwner) (connectionId : String) : Nat :=
  match task with
  | .removeRelease id before _ => mark before id owner connectionId
  | .removeIndex id before _ => mark (some before) id owner connectionId
  | .reindexRemove id before _ => mark (some before) id owner connectionId
  | _ => 0

/-- Index entries still to be removed by a task that has let go of the table shard. -/
def unlockedRemoving (task : Task) (owner : DeviceOwner) (connectionId : String) : Nat :=
  match task with
  | .registryRelease id before => mark before id owner connectionId
  | .registryIndex id before => mark (some before) id owner connectionId
  | .batchTake _ _ removed => removed.indexed.count (owner, connectionId)
  | .batchIndex groups _ _ => groups.flatten.count (owner, connectionId)
  | _ => 0

/-- Index entries that are still to be removed. -/
def removing (task : Task) (owner : DeviceOwner) (connectionId : String) : Nat :=
  task.lockedRemoving owner connectionId + task.unlockedRemoving owner connectionId

/-- Slots reserved for an entry that is not in the table yet. -/
def reserved : Task → Nat
  | .addInsert _ | .addDuplicate _ => 1
  | _ => 0

/-- Slots of entries that have left the table. -/
def unreleased : Task → Nat
  | .removeRelease _ _ _ | .registryRelease _ _ => 1
  | .batchTake _ _ removed => removed.ids.length
  | _ => 0

/-- Owners that have left the index and are still counted. -/
def emptied : Task → Nat
  | .batchIndex _ emptied _ => emptied
  | _ => 0

/-- The connection a task is about to list, and the owner it does so for. -/
def lists : Task → Option (String × DeviceOwner)
  | .addIndex call owner => some (call.connectionId, owner)
  | .reindexRemove id _ (some after) => some (id, after)
  | .reindexInsert id _ after => some (id, after)
  | _ => none

/-- The add a task performs, and whether its entry has been put into the table. -/
def addState : Task → Option (AddCall × Bool)
  | .reserveLoad call | .reserveExchange call _ _ | .addInsert call | .addDuplicate call
  | .rejected call _ => some (call, false)
  | .addIndex call _ | .added call => some (call, true)
  | _ => none

/-- The timeout of a cleanup in progress, and the ids it has found and not yet removed. -/
def condemned : Task → Option (Instant × List String)
  | .cleanupScan timeout _ _ found | .cleanupClose timeout _ found => some (timeout, found)
  | .batchTake (some timeout) groups _ => some (timeout, groups.flatten)
  | _ => none

/-- The delivery a task performs, also while it isolates a connection. -/
def delivery : Task → Option UserSend
  | .userRead send | .userSnapshot send _ | .userEnqueue send => some send
  | .removeTake _ resume | .removeRelease _ _ resume | .removeIndex _ _ resume => resume
  | _ => none

/-- The delivery whose next section reads the index. -/
def reads : Task → Option UserSend
  | .userRead send => some send
  | _ => none

/-- The connections that a delivery has read from the index and not yet looked up. -/
def addressing : Task → List String
  | .userSnapshot _ groups => groups.flatten
  | _ => []

/-- The connections whose last activity the next section of a task refreshes. -/
def touches : Task → List String
  | .touch id => [id]
  | .activate _ (group :: _) => group
  | _ => []

/-- The call has returned. -/
def isReturned : Task → Bool
  | .added _ | .rejected _ _ | .returned _ => true
  | _ => false

/-- A task that owes nothing and holds no lock. -/
structure Light (task : Task) : Prop where
  holds : task.holds = none
  lists : task.lists = none
  inserting : ∀ owner connectionId, task.inserting owner connectionId = 0
  removing : ∀ owner connectionId, task.removing owner connectionId = 0
  reserved : task.reserved = 0
  unreleased : task.unreleased = 0
  emptied : task.emptied = 0

/-- The places at which a call owes nothing. -/
def isLight : Task → Bool
  | .addInsert _ | .addDuplicate _ | .addIndex _ _ => false
  | .removeRelease _ _ _ | .removeIndex _ _ _ => false
  | .registryRelease _ _ | .registryIndex _ _ => false
  | .batchTake _ _ removed => removed.ids.isEmpty && removed.indexed.isEmpty
  | .batchIndex _ _ _ => false
  | .reindexRemove _ _ _ | .reindexInsert _ _ _ => false
  | _ => true

theorem Light.of_isLight {task : Task} (light : task.isLight = true) : Light task := by
  cases task with
  | batchTake timeout groups removed =>
      obtain ⟨ids, indexed⟩ := removed
      simp only [isLight, Bool.and_eq_true, List.isEmpty_iff] at light
      obtain ⟨rfl, rfl⟩ := light
      exact ⟨rfl, rfl, fun _ _ => rfl, fun _ _ => rfl, rfl, rfl, rfl⟩
  | _ =>
      first
      | exact ⟨rfl, rfl, fun _ _ => rfl, fun _ _ => rfl, rfl, rfl, rfl⟩
      | exact absurd light Bool.false_ne_true

omit [Hashing] in
theorem isLight_afterRemoval (resume : Option UserSend) (result : Result Unit) :
    (afterRemoval resume result).isLight = true := by
  cases resume <;> rfl

omit [Hashing] in
theorem addState_afterRemoval (resume : Option UserSend) (result : Result Unit) :
    (afterRemoval resume result).addState = none := by
  cases resume <;> rfl

theorem addState_afterScan (timeout : Instant) (closes : Bool) (found : List String) :
    (afterScan timeout closes found).addState = none := by
  cases closes <;> rfl

theorem isLight_afterScan (timeout : Instant) (closes : Bool) (found : List String) :
    (afterScan timeout closes found).isLight = true := by
  cases closes <;> rfl

theorem delivery_afterScan (timeout : Instant) (closes : Bool) (found : List String) :
    (afterScan timeout closes found).delivery = none := by
  cases closes <;> rfl

theorem isLight_startCall (number : Nat) (call : Call) :
    (startCall number call).isLight = true := by
  cases call <;> rfl

/-- A call that has returned owes nothing. -/
theorem Light.of_isReturned {task : Task} (returned : task.isReturned = true) : Light task := by
  cases task with
  | added | rejected | returned => exact .of_isLight rfl
  | _ => exact absurd returned Bool.false_ne_true

end Task

/-- How an add continues once the entry is in the table. -/
def afterInsert (call : AddCall) (owner : Option DeviceOwner) : Task :=
  match owner with
  | some owner => .addIndex call owner
  | none => .added call

/-- How a removal continues once the slot is given back. -/
def afterRelease (connectionId : String) (owner : Option DeviceOwner) (resume : Option UserSend) :
    Task :=
  match owner with
  | some owner => .removeIndex connectionId owner resume
  | none => afterRemoval resume (.ok ())

/-- How a registry removal continues once the slot is given back. -/
def afterRegistryRelease (connectionId : String) (owner : Option DeviceOwner) : Task :=
  match owner with
  | some owner => .registryIndex connectionId owner
  | none => .returned (.found true)

/-- The information an add puts into the table. -/
def AddCall.info (call : AddCall) (now : Instant) : ConnectionInfo :=
  ConnectionManager.initialInfo call.connectionId call.userId call.requiresAuth now

/-! ## Refreshing -/

namespace ConnectionManager

/-- Refreshing a connection is visible in its last activity only. -/
theorem touch_books (manager : ConnectionManager) (connectionId : String) (now : Instant) :
    (∀ id, (manager.touch connectionId now).ownerOf id = manager.ownerOf id) ∧
      (manager.touch connectionId now).connections.size = manager.connections.size ∧
      (∀ id, id ≠ connectionId →
        (manager.touch connectionId now).connections.get id = manager.connections.get id) ∧
      (manager.touch connectionId now).users = manager.users ∧
      (manager.touch connectionId now).userCount = manager.userCount ∧
      (manager.touch connectionId now).connectionCount = manager.connectionCount := by
  unfold touch
  cases found : manager.connections.get connectionId with
  | none => exact ⟨fun _ => rfl, rfl, fun _ _ => rfl, rfl, rfl, rfl⟩
  | some entry =>
      refine ⟨?_, size_writeInfo _ found, ?_, rfl, rfl, rfl⟩
      · intro id
        rw [ownerOf_writeInfo]
        split_ifs with same
        · rw [same, ownerOf_eq_of_get found]
          rfl
        · rfl
      · intro id distinct
        exact ShardedMap.get_insert_of_ne _ _ distinct

theorem touchGroup_books (manager : ConnectionManager) (group : List String) (now : Instant) :
    (∀ id, (manager.touchGroup group now).ownerOf id = manager.ownerOf id) ∧
      (manager.touchGroup group now).connections.size = manager.connections.size ∧
      (∀ id, id ∉ group →
        (manager.touchGroup group now).connections.get id = manager.connections.get id) ∧
      (manager.touchGroup group now).users = manager.users ∧
      (manager.touchGroup group now).userCount = manager.userCount ∧
      (manager.touchGroup group now).connectionCount = manager.connectionCount := by
  unfold touchGroup
  induction group generalizing manager with
  | nil => exact ⟨fun _ => rfl, rfl, fun _ _ => rfl, rfl, rfl, rfl⟩
  | cons head group inductionHypothesis =>
      obtain ⟨owner, size, get, users, userCount, connectionCount⟩ := manager.touch_books head now
      obtain ⟨owner', size', get', users', userCount', connectionCount'⟩ :=
        inductionHypothesis (manager.touch head now)
      refine ⟨fun id => (owner' id).trans (owner id), size'.trans size, ?_, users'.trans users,
        userCount'.trans userCount, connectionCount'.trans connectionCount⟩
      intro id absent
      exact (get' id fun member => absent (List.mem_cons_of_mem _ member)).trans
        (get id fun same => absent (same ▸ List.mem_cons_self))

end ConnectionManager

/-! ## The steps -/

/-- What a cleanup adds to its findings has timed out. -/
def Scans (shared : Shared) (task task' : Task) : Prop :=
  ∀ timeout found', task'.condemned = some (timeout, found') →
    ∃ found, task.condemned = some (timeout, found) ∧ ∀ id ∈ found', id ∈ found ∨
      ∀ entry, shared.manager.connections.get id = some entry →
        entry.info.isTimeout timeout shared.clock = true

/-- What a delivery addresses comes from the index, and what it is to serve are snapshots
of the connections it addresses. -/
def Sends (shared : Shared) (task task' : Task) : Prop :=
  ∀ send', task'.delivery = some send' →
    ∃ send, task.delivery = some send ∧ send'.owner = send.owner ∧
      (∀ id ∈ task'.addressing, id ∈ task.addressing ∨
        task.reads = some send ∧ id ∈ shared.manager.getUserConnections send.owner) ∧
      ∀ snapshot ∈ send'.remaining, snapshot ∈ send.remaining ∨
        ∃ id ∈ task.addressing, shared.manager.getConnectionSnapshot id = some snapshot

/-- A step between two places at which the task owes nothing. -/
structure LightStep (shared : Shared) (task task' : Task) : Prop where
  before : task.Light
  after : task'.Light
  sameAdd : task'.addState = task.addState
  scans : Scans shared task task'
  sends : Sends shared task task'

/-- The steps of a task, by what they do to the books. -/
inductive Action (shared : Shared) (others : List Task) : Task → Shared → Task → Prop where
  | idle {task task' : Task} (light : LightStep shared task task') :
      Action shared others task shared task'
  | refresh {task task' : Task} (group : List String) (now : Instant)
      (isFree : ∀ id ∈ group, free others id = true) (light : LightStep shared task task')
      (touches : task.touches = group) :
      Action shared others task (shared.with (shared.manager.touchGroup group now)) task'
  | enqueue {task task' : Task} {shared' : Shared} (light : LightStep shared task task')
      (connections : shared'.manager.connections = shared.manager.connections)
      (users : shared'.manager.users = shared.manager.users)
      (connectionCount : shared'.manager.connectionCount = shared.manager.connectionCount)
      (userCount : shared'.manager.userCount = shared.manager.userCount)
      (clock : shared'.clock = shared.clock)
      (deliveries : ∀ delivery ∈ shared'.deliveries, delivery ∈ shared.deliveries ∨
        ∃ send, task.delivery = some send ∧ delivery.target = send.owner ∧
          delivery.snapshot ∈ send.remaining) :
      Action shared others task shared' task'
  | exchange (call : AddCall) (below : ¬call.maxConnections ≤ shared.manager.connectionCount) :
      Action shared others (.reserveExchange call shared.manager.connectionCount below)
        (shared.with shared.manager.reserveConnectionSlot) (.addInsert call)
  | duplicate (call : AddCall) (isFree : free others call.connectionId = true)
      (taken : (shared.manager.connections.get call.connectionId).isSome) :
      Action shared others (.addInsert call) shared (.addDuplicate call)
  | insert (call : AddCall) (isFree : free others call.connectionId = true)
      (missing : shared.manager.connections.get call.connectionId = none) :
      Action shared others (.addInsert call)
        (shared.with (shared.manager.insertEntry call.connectionId call.connection
          (call.info shared.clock)))
        (afterInsert call (call.info shared.clock).owner)
  | giveBack (call : AddCall) :
      Action shared others (.addDuplicate call)
        (shared.with (shared.manager.releaseConnectionSlots 1))
        (.rejected call (ConnectionManager.alreadyExists call.connectionId))
  | list (call : AddCall) (owner : DeviceOwner) :
      Action shared others (.addIndex call owner)
        (shared.with (shared.manager.insertUserConnection owner call.connectionId)) (.added call)
  | take (id : String) (resume : Option UserSend) (entry : ConnectionEntry)
      (isFree : free others id = true) (found : shared.manager.connections.get id = some entry) :
      Action shared others (.removeTake id resume)
        (shared.with ((shared.manager.eraseEntry id).closeQueue ⟨id, entry.serial⟩))
        (.removeRelease id entry.info.owner resume)
  | release (id : String) (owner : Option DeviceOwner) (resume : Option UserSend) :
      Action shared others (.removeRelease id owner resume)
        (shared.with (shared.manager.releaseConnectionSlots 1)) (afterRelease id owner resume)
  | unlist (id : String) (owner : DeviceOwner) (resume : Option UserSend) :
      Action shared others (.removeIndex id owner resume)
        (shared.with (shared.manager.removeUserConnection owner id))
        (afterRemoval resume (.ok ()))
  | registryTake (id : String) (entry : ConnectionEntry) (isFree : free others id = true)
      (found : shared.manager.connections.get id = some entry) :
      Action shared others (.registryTake id) (shared.with (shared.manager.eraseEntry id))
        (.registryRelease id entry.info.owner)
  | registryRelease (id : String) (owner : Option DeviceOwner) :
      Action shared others (.registryRelease id owner)
        (shared.with (shared.manager.releaseConnectionSlots 1)) (afterRegistryRelease id owner)
  | registryUnlist (id : String) (owner : DeviceOwner) :
      Action shared others (.registryIndex id owner)
        (shared.with (shared.manager.removeUserConnection owner id)) (.returned (.found true))
  | batchTake (timeout : Option Instant) (group : List String) (groups : List (List String))
      (removed : ConnectionManager.Removed) (isFree : ∀ id ∈ group, free others id = true) :
      Action shared others (.batchTake timeout (group :: groups) removed)
        (shared.with (ConnectionManager.takeEntries shared.manager removed group).1)
        (.batchTake timeout groups (ConnectionManager.takeEntries shared.manager removed group).2)
  | batchRelease (timeout : Option Instant) (removed : ConnectionManager.Removed) :
      Action shared others (.batchTake timeout [] removed)
        (shared.with (shared.manager.releaseConnectionSlots removed.ids.length))
        (.batchIndex (ConnectionManager.userGroups removed.indexed) 0 removed.ids)
  | batchUnlist (group : List (DeviceOwner × String)) (groups : List (List (DeviceOwner × String)))
      (emptied : Nat) (ids : List String) :
      Action shared others (.batchIndex (group :: groups) emptied ids)
        (shared.with (shared.manager.removeIndexEntries group).1)
        (.batchIndex groups (emptied + (shared.manager.removeIndexEntries group).2) ids)
  | batchCount (emptied : Nat) (ids : List String) :
      Action shared others (.batchIndex [] emptied ids)
        (shared.with (shared.manager.releaseUsers emptied)) (.returned (.removed ids))
  | write (id : String) (update : InfoUpdate) (entry : ConnectionEntry)
      (isFree : free others id = true) (found : shared.manager.connections.get id = some entry) :
      Action shared others (.update id update)
        (shared.with (shared.manager.writeInfo id entry (update.apply shared.clock entry.info)))
        (afterUpdate id entry.info.owner (update.apply shared.clock entry.info).owner)
  | reindexUnlist (id : String) (before : DeviceOwner) (after : Option DeviceOwner) :
      Action shared others (.reindexRemove id before after)
        (shared.with (shared.manager.removeUserConnection before id)) (afterUnlisting id after)
  | reindexList (id : String) (owed : Bool) (after : DeviceOwner) :
      Action shared others (.reindexInsert id owed after)
        (shared.with (shared.manager.insertUserConnection after id))
        (.returned (.result (.ok ())))

/-- A step of a task that takes part in no cleanup and no delivery afterwards. -/
theorem LightStep.plain {shared : Shared} {task task' : Task} (before : task.isLight = true)
    (after : task'.isLight = true) (sameAdd : task'.addState = task.addState)
    (noCleanup : task'.condemned = none) (noDelivery : task'.delivery = none) :
    LightStep shared task task' where
  before := .of_isLight before
  after := .of_isLight after
  sameAdd := sameAdd
  scans timeout found condemned := by
    rw [noCleanup] at condemned
    cases condemned
  sends send delivers := by
    rw [noDelivery] at delivers
    cases delivers

/-- A step of a cleanup. -/
theorem LightStep.cleanup {shared : Shared} {task task' : Task} (before : task.isLight = true)
    (after : task'.isLight = true) (sameAdd : task'.addState = task.addState)
    (scans : Scans shared task task') (noDelivery : task'.delivery = none) :
    LightStep shared task task' where
  before := .of_isLight before
  after := .of_isLight after
  sameAdd := sameAdd
  scans := scans
  sends send delivers := by
    rw [noDelivery] at delivers
    cases delivers

/-- A step of a delivery. -/
theorem LightStep.deliver {shared : Shared} {task task' : Task} (before : task.isLight = true)
    (after : task'.isLight = true) (sameAdd : task'.addState = task.addState)
    (noCleanup : task'.condemned = none) (sends : Sends shared task task') :
    LightStep shared task task' where
  before := .of_isLight before
  after := .of_isLight after
  sameAdd := sameAdd
  scans timeout found condemned := by
    rw [noCleanup] at condemned
    cases condemned
  sends := sends

/-- A connection that a removal does not find is not looked for in the delivery either. -/
theorem LightStep.ofMissing {shared : Shared} (id : String) (resume : Option UserSend)
    (result : Result Unit) :
    LightStep shared (.removeTake id resume) (afterRemoval resume result) := by
  refine .deliver rfl (Task.isLight_afterRemoval _ _) (Task.addState_afterRemoval _ _) ?_ ?_
  · cases resume <;> rfl
  · intro send' delivers
    cases resume with
    | none => cases delivers
    | some send =>
        obtain rfl := Option.some.inj delivers
        exact ⟨send, rfl, rfl, fun _ member => absurd member List.not_mem_nil,
          fun _ member => Or.inl member⟩

/-- A scan of one shard finds connections that have timed out. -/
theorem scans_timedOutIn (shared : Shared) (timeout : Instant) (closes : Bool)
    (shard : Fin shardCount) (shards : List (Fin shardCount)) (found : List String) :
    Scans shared (.cleanupScan timeout closes (shard :: shards) found)
      (.cleanupScan timeout closes shards
        (found ++ shared.manager.timedOutIn shard timeout shared.clock)) := by
  intro timeout' found' condemned
  obtain ⟨rfl, rfl⟩ := Prod.mk.inj (Option.some.inj condemned)
  refine ⟨found, rfl, ?_⟩
  intro id member
  rcases List.mem_append.mp member with old | new
  · exact Or.inl old
  · right
    intro entry present
    obtain ⟨⟨_, other⟩, scanned, rfl⟩ := List.mem_map.mp new
    obtain ⟨listed, timedOut⟩ := List.mem_filter.mp scanned
    rw [ShardedMap.get_of_mem_shard listed] at present
    obtain rfl := Option.some.inj present
    exact timedOut

/-- A cleanup goes on with what it has found. -/
theorem scans_of_subset {shared : Shared} {task task' : Task} {timeout : Instant}
    {found found' : List String} (before : task.condemned = some (timeout, found))
    (after : task'.condemned = some (timeout, found')) (subset : ∀ id ∈ found', id ∈ found) :
    Scans shared task task' := by
  intro timeout' found'' condemned
  rw [after] at condemned
  obtain ⟨rfl, rfl⟩ := Prod.mk.inj (Option.some.inj condemned)
  exact ⟨found, before, fun id member => Or.inl (subset id member)⟩

theorem mem_of_mem_connectionGroups {ids : List String} {id : String}
    (member : id ∈ (ConnectionManager.connectionGroups ids).flatten) : id ∈ ids :=
  (ShardedMap.flatten_groups_perm ids).mem_iff.mp member

/-- The enqueues of a delivery leave the books alone. -/
theorem Action.ofEnqueueStep (shared : Shared) (others : List Task) (send : UserSend)
    (snapshot : ConnectionSnapshot) (remaining : List ConnectionSnapshot)
    (queued : send.remaining = snapshot :: remaining) :
    Action shared others (.userEnqueue send)
      (enqueueStep shared { send with remaining := remaining } snapshot).1
      (enqueueStep shared { send with remaining := remaining } snapshot).2 := by
  have fewer : ∀ next ∈ remaining, next ∈ send.remaining := by
    intro next member
    rw [queued]
    exact List.mem_cons_of_mem _ member
  have goesOn : ∀ (task' : Task) (send' : UserSend), task'.delivery = some send' →
      task'.isLight = true → task'.addState = none → task'.condemned = none →
      task'.addressing = [] → send'.owner = send.owner → send'.remaining = remaining →
      LightStep shared (.userEnqueue send) task' := by
    intro task' send' delivers light noAdd noCleanup addressing owner rest
    refine .deliver rfl light noAdd noCleanup ?_
    intro send'' delivers'
    obtain rfl := Option.some.inj (delivers.symm.trans delivers')
    refine ⟨send, rfl, owner, ?_, ?_⟩
    · intro id member
      rw [addressing] at member
      cases member
    · intro next member
      rw [rest] at member
      exact Or.inl (fewer next member)
  unfold enqueueStep
  split
  · exact .idle (goesOn _ _ rfl rfl rfl rfl rfl rfl rfl)
  · dsimp only
    split
    · refine .enqueue (goesOn _ _ rfl rfl rfl rfl rfl rfl rfl) rfl rfl rfl rfl rfl ?_
      intro delivery member
      rcases List.mem_append.mp member with old | new
      · exact Or.inl old
      · obtain rfl := List.mem_singleton.mp new
        refine Or.inr ⟨send, rfl, rfl, ?_⟩
        rw [queued]
        exact List.mem_cons_self
    · exact .enqueue (goesOn _ _ rfl rfl rfl rfl rfl rfl rfl) rfl rfl rfl rfl rfl
        fun _ member => Or.inl member

/-- **Every step of a task is one of the listed actions.** -/
theorem action_of_advance {shared shared' : Shared} {others : List Task} {task task' : Task}
    {spurious : Bool} (moved : advance shared others task spurious = some (shared', task')) :
    Action shared others task shared' task' := by
  cases task with
  | reserveLoad call =>
      simp only [advance] at moved
      split_ifs at moved
      all_goals
        obtain ⟨rfl, rfl⟩ := Prod.mk.inj (Option.some.inj moved)
        exact .idle (.plain rfl rfl rfl rfl rfl)
  | reserveExchange call current below =>
      simp only [advance] at moved
      split_ifs at moved with unchanged
      · obtain ⟨rfl, rfl⟩ := Prod.mk.inj (Option.some.inj moved)
        obtain ⟨rfl, -⟩ := unchanged
        exact .exchange call below
      · obtain ⟨rfl, rfl⟩ := Prod.mk.inj (Option.some.inj moved)
        exact .idle (.plain rfl rfl rfl rfl rfl)
  | addInsert call =>
      simp only [advance] at moved
      split_ifs at moved with locked taken
      · obtain ⟨rfl, rfl⟩ := Prod.mk.inj (Option.some.inj moved)
        exact .duplicate call (by simpa using locked) taken
      · obtain ⟨rfl, rfl⟩ := Prod.mk.inj (Option.some.inj moved)
        exact .insert call (by simpa using locked) (by simpa using taken)
  | addDuplicate call =>
      obtain ⟨rfl, rfl⟩ := Prod.mk.inj (Option.some.inj moved)
      exact .giveBack call
  | addIndex call owner =>
      obtain ⟨rfl, rfl⟩ := Prod.mk.inj (Option.some.inj moved)
      exact .list call owner
  | removeTake id resume =>
      simp only [advance] at moved
      split_ifs at moved with locked
      split at moved
      · obtain ⟨rfl, rfl⟩ := Prod.mk.inj (Option.some.inj moved)
        exact .idle (.ofMissing id resume _)
      · next entry found =>
          obtain ⟨rfl, rfl⟩ := Prod.mk.inj (Option.some.inj moved)
          exact .take id resume entry (by simpa using locked) found
  | removeRelease id owner resume =>
      obtain ⟨rfl, rfl⟩ := Prod.mk.inj (Option.some.inj moved)
      exact .release id owner resume
  | removeIndex id owner resume =>
      obtain ⟨rfl, rfl⟩ := Prod.mk.inj (Option.some.inj moved)
      exact .unlist id owner resume
  | registryTake id =>
      simp only [advance] at moved
      split_ifs at moved with locked
      split at moved
      · obtain ⟨rfl, rfl⟩ := Prod.mk.inj (Option.some.inj moved)
        exact .idle (.plain rfl rfl rfl rfl rfl)
      · next entry found =>
          obtain ⟨rfl, rfl⟩ := Prod.mk.inj (Option.some.inj moved)
          exact .registryTake id entry (by simpa using locked) found
  | registryRelease id owner =>
      obtain ⟨rfl, rfl⟩ := Prod.mk.inj (Option.some.inj moved)
      exact .registryRelease id owner
  | registryIndex id owner =>
      obtain ⟨rfl, rfl⟩ := Prod.mk.inj (Option.some.inj moved)
      exact .registryUnlist id owner
  | cleanupScan timeout closes shards found =>
      cases shards with
      | nil =>
          obtain ⟨rfl, rfl⟩ := Prod.mk.inj (Option.some.inj moved)
          refine .idle (.cleanup rfl (Task.isLight_afterScan _ _ _)
            (Task.addState_afterScan _ _ _) ?_ (Task.delivery_afterScan _ _ _))
          cases closes with
          | false => exact scans_of_subset rfl rfl fun _ => mem_of_mem_connectionGroups
          | true => exact scans_of_subset rfl rfl fun _ member => member
      | cons shard shards =>
          simp only [advance] at moved
          split_ifs at moved
          obtain ⟨rfl, rfl⟩ := Prod.mk.inj (Option.some.inj moved)
          exact .idle (.cleanup rfl rfl rfl (scans_timedOutIn _ _ _ _ _ _) rfl)
  | cleanupClose timeout closing found =>
      cases closing with
      | nil =>
          obtain ⟨rfl, rfl⟩ := Prod.mk.inj (Option.some.inj moved)
          exact .idle (.cleanup rfl rfl rfl
            (scans_of_subset rfl rfl fun _ => mem_of_mem_connectionGroups) rfl)
      | cons =>
          obtain ⟨rfl, rfl⟩ := Prod.mk.inj (Option.some.inj moved)
          exact .idle (.cleanup rfl rfl rfl (scans_of_subset rfl rfl fun _ member => member) rfl)
  | batchTake timeout groups removed =>
      cases groups with
      | nil =>
          obtain ⟨rfl, rfl⟩ := Prod.mk.inj (Option.some.inj moved)
          exact .batchRelease timeout removed
      | cons group groups =>
          simp only [advance] at moved
          split_ifs at moved with locked
          obtain ⟨rfl, rfl⟩ := Prod.mk.inj (Option.some.inj moved)
          exact .batchTake timeout group groups removed (by simpa using locked)
  | batchIndex groups emptied ids =>
      cases groups with
      | nil =>
          obtain ⟨rfl, rfl⟩ := Prod.mk.inj (Option.some.inj moved)
          exact .batchCount emptied ids
      | cons group groups =>
          obtain ⟨rfl, rfl⟩ := Prod.mk.inj (Option.some.inj moved)
          exact .batchUnlist group groups emptied ids
  | update id update =>
      simp only [advance] at moved
      split_ifs at moved with locked
      split at moved
      · obtain ⟨rfl, rfl⟩ := Prod.mk.inj (Option.some.inj moved)
        exact .idle (.plain rfl rfl rfl rfl rfl)
      · next entry found =>
          obtain ⟨rfl, rfl⟩ := Prod.mk.inj (Option.some.inj moved)
          exact .write id update entry (by simpa using locked) found
  | reindexRemove id before after =>
      obtain ⟨rfl, rfl⟩ := Prod.mk.inj (Option.some.inj moved)
      exact .reindexUnlist id before after
  | reindexInsert id owed after =>
      obtain ⟨rfl, rfl⟩ := Prod.mk.inj (Option.some.inj moved)
      exact .reindexList id owed after
  | touch id =>
      simp only [advance] at moved
      split_ifs at moved with locked
      obtain ⟨rfl, rfl⟩ := Prod.mk.inj (Option.some.inj moved)
      exact .refresh [id] shared.clock (by simpa using locked) (.plain rfl rfl rfl rfl rfl) rfl
  | activate now groups =>
      cases groups with
      | nil =>
          obtain ⟨rfl, rfl⟩ := Prod.mk.inj (Option.some.inj moved)
          exact .idle (.plain rfl rfl rfl rfl rfl)
      | cons group groups =>
          simp only [advance] at moved
          split_ifs at moved with locked
          obtain ⟨rfl, rfl⟩ := Prod.mk.inj (Option.some.inj moved)
          exact .refresh group now (by simpa using locked) (.plain rfl rfl rfl rfl rfl) rfl
  | userRead send =>
      obtain ⟨rfl, rfl⟩ := Prod.mk.inj (Option.some.inj moved)
      refine .idle (.deliver rfl rfl rfl rfl ?_)
      intro send' delivers
      obtain rfl := Option.some.inj delivers
      exact ⟨send, rfl, rfl, fun _ member => Or.inr ⟨rfl, mem_of_mem_connectionGroups member⟩,
        fun _ member => Or.inl member⟩
  | userSnapshot send groups =>
      cases groups with
      | nil =>
          obtain ⟨rfl, rfl⟩ := Prod.mk.inj (Option.some.inj moved)
          refine .idle (.deliver rfl rfl rfl rfl ?_)
          intro send' delivers
          obtain rfl := Option.some.inj delivers
          exact ⟨send, rfl, rfl, fun _ member => absurd member List.not_mem_nil,
            fun _ member => Or.inl member⟩
      | cons group groups =>
          simp only [advance] at moved
          split_ifs at moved
          obtain ⟨rfl, rfl⟩ := Prod.mk.inj (Option.some.inj moved)
          refine .idle (.deliver rfl rfl rfl rfl ?_)
          intro send' delivers
          obtain rfl := Option.some.inj delivers
          refine ⟨send, rfl, rfl, ?_, ?_⟩
          · intro id member
            exact Or.inl (List.mem_append_right group member)
          · intro snapshot member
            rcases List.mem_append.mp member with old | new
            · exact Or.inl old
            · obtain ⟨id, inGroup, found⟩ := List.mem_filterMap.mp new
              exact Or.inr ⟨id, List.mem_append_left groups.flatten inGroup, found⟩
  | userEnqueue send =>
      simp only [advance] at moved
      split at moved
      · next snapshot remaining queued =>
          obtain ⟨rfl, rfl⟩ := Prod.mk.inj (Option.some.inj moved)
          exact .ofEnqueueStep _ _ _ _ _ queued
      · obtain ⟨rfl, rfl⟩ := Prod.mk.inj (Option.some.inj moved)
        cases send.refresh <;> exact .idle (.plain rfl rfl rfl rfl rfl)
  | added | rejected | returned => simp [advance] at moved

end Actions

end FlareCore.Server
