import FlareCore.Server.Connection.Gate
import FlareCore.Server.Connection.Interleaving

/-!
# Deliveries to an owner

A send to a user reads the ids from the index, regroups them by table shard, and looks each
of them up under the lock of its shard.  In a consistent state this addresses every
connection of the owner exactly once and no other (`queues_sendToUser`,
`queues_sendFrameToUser`).

The index is read before the table, and the lookup does not compare the owner it finds with
the owner it was asked for.  A connection that is bound to another user in between is served
all the same (`delivery_reaches_other_owner`).  In a run in which no connection that a
delivery has read and not yet looked up is given another owner, and no delivery reads an
index entry whose connection has another owner already, every enqueued frame is on a
connection that belonged to the addressed owner when it was looked up.
-/

namespace FlareCore.Server

open FlareCore.Common FlareCore.Foundations

set_option autoImplicit false

/-! ## Without interleaving -/

section Addressing

variable [Hashing]

namespace ConnectionManager

/-- The snapshot behind a handle, if its connection belongs to the owner. -/
def addressed (manager : ConnectionManager) (owner : DeviceOwner) (handle : WriteHandle) :
    Option ConnectionSnapshot :=
  (manager.getConnectionSnapshot handle.connectionId).filter fun snapshot =>
    snapshot.handle = handle ∧ snapshot.info.owner = some owner

/-- The owner in a snapshot is the owner in the table. -/
theorem ownerOf_of_getConnectionSnapshot {manager : ConnectionManager} {id : String}
    {snapshot : ConnectionSnapshot} (found : manager.getConnectionSnapshot id = some snapshot) :
    manager.ownerOf id = snapshot.info.owner := by
  obtain ⟨entry, present, rfl⟩ := Option.map_eq_some_iff.mp found
  exact ownerOf_eq_of_get present

variable {manager : ConnectionManager} (consistent : manager.Consistent)

include consistent

/-- The lookup by shards neither loses nor repeats an id of the index. -/
theorem count_targets (owner : DeviceOwner) (id : String) :
    ((manager.connectionSnapshotsForIds (manager.getUserConnections owner)).map
      ConnectionSnapshot.connectionId).count id =
        if manager.ownerOf id = some owner then 1 else 0 := by
  have listed := consistent.listed owner id
  rw [(manager.snapshot_ids_perm _).count_eq]
  split_ifs at listed ⊢ with owned
  · have present : (manager.connections.get id).isSome = true := by
      obtain ⟨entry, found, -⟩ := Option.bind_eq_some_iff.mp owned
      exact Option.isSome_iff_exists.mpr ⟨entry, found⟩
    rw [List.count_filter (by exact present), listed]
  · have fewer := (List.filter_sublist (l := manager.getUserConnections owner)
      (p := fun id => (manager.connections.get id).isSome)).count_le id
    omega

/-- **A consistent index addresses each connection of the owner once.** -/
theorem targets_of_owner (owner : DeviceOwner) (handle : WriteHandle) :
    ((manager.connectionSnapshotsForIds (manager.getUserConnections owner)).filter
      fun snapshot => snapshot.handle = handle) = (manager.addressed owner handle).toList := by
  have counted := count_targets consistent owner handle.connectionId
  have found : ∀ snapshot ∈ (manager.connectionSnapshotsForIds
      (manager.getUserConnections owner)).filter fun snapshot => snapshot.handle = handle,
      manager.getConnectionSnapshot handle.connectionId = some snapshot ∧
        manager.ownerOf handle.connectionId = some owner := by
    intro snapshot member
    obtain ⟨target, here⟩ := List.mem_filter.mp member
    have sameId : snapshot.connectionId = handle.connectionId :=
      congrArg WriteHandle.connectionId (of_decide_eq_true here)
    refine ⟨sameId ▸ getConnectionSnapshot_of_mem target, ?_⟩
    by_contra foreign
    rw [if_neg foreign, ← sameId] at counted
    exact List.count_eq_zero.mp counted (List.mem_map_of_mem target)
  cases served : manager.addressed owner handle with
  | none =>
      refine List.eq_nil_iff_forall_not_mem.mpr ?_
      intro snapshot member
      obtain ⟨snapped, owned⟩ := found snapshot member
      have here := of_decide_eq_true (List.mem_filter.mp member).2
      rw [ownerOf_of_getConnectionSnapshot snapped] at owned
      simp [addressed, snapped, here, owned] at served
  | some snapshot =>
      obtain ⟨snapped, here⟩ := Option.filter_eq_some_iff.mp served
      obtain ⟨here, owned⟩ := of_decide_eq_true here
      have once : ((manager.connectionSnapshotsForIds (manager.getUserConnections owner)).filter
          fun snapshot => snapshot.handle = handle).length = 1 := by
        rw [ownerOf_of_getConnectionSnapshot snapped, if_pos owned, List.count, List.countP_map]
          at counted
        rw [← List.countP_eq_length_filter, ← counted]
        refine List.countP_congr ?_
        intro other target
        have snappedOther := getConnectionSnapshot_of_mem target
        constructor
        · intro same
          exact beq_iff_eq.mpr (congrArg WriteHandle.connectionId (of_decide_eq_true same))
        · intro same
          rw [beq_iff_eq.mp same] at snappedOther
          obtain rfl := Option.some.inj (snapped.symm.trans snappedOther)
          exact decide_eq_true here
      refine (List.eq_replicate_of_mem (a := snapshot) ?_).trans (by rw [once]; rfl)
      intro other member
      exact (Option.some.inj (snapped.symm.trans (found other member).1)).symm

/-- **`send_to_user` offers the data once to each connection of the owner.** -/
theorem queues_sendToUser (owner : DeviceOwner) (data : Wire) (handle : WriteHandle) :
    (manager.sendToUser owner data).queues handle =
      (manager.queues handle).offer ((manager.addressed owner handle).map fun _ => data) := by
  have agrees : ∀ snapshot ∈ manager.connectionSnapshotsForIds (manager.getUserConnections owner),
      Agrees manager snapshot := by
    intro snapshot member
    exact agrees_of_getConnectionSnapshot (getConnectionSnapshot_of_mem member)
  rw [sendToUser, queues_fanout agrees handle, targets_of_owner consistent]
  cases manager.addressed owner handle <;> rfl

/-- **`send_frame_to_user` offers the frame once to each connection of the owner**, encoded
for it. -/
theorem queues_sendFrameToUser [RustText] (registries : Registries) (gate : Frame → Bool)
    (owner : DeviceOwner) (frame : Frame) (parser : Option MessageParser) (now : Instant)
    (handle : WriteHandle) :
    (manager.sendFrameToUser registries gate owner frame parser now).queues handle =
      (manager.queues handle).offer ((manager.addressed owner handle).bind fun snapshot =>
        (serializeFrameForConnection registries gate snapshot.connectionId snapshot.info frame
          parser).toOption) := by
  let enumeration : Enumeration CodecProfile := ⟨id, fun _ => .rfl⟩
  have sent : ((FramePath.sendFrameToUser owner parser).send registries gate enumeration manager
      frame now).queues handle = _ := FramePath.queues_send _ now handle
  refine sent.trans ?_
  rw [FramePath.targets, targets_of_owner consistent]
  cases manager.addressed owner handle <;> rfl

end ConnectionManager

end Addressing

/-! ## Owners that change under way -/

section Delivery

variable [Hashing]

/-- The connection that the next section of a task gives an owner, and the owner: an add
inserts it, an update writes it. -/
def Task.assigns (shared : Shared) : Task → Option (String × Option DeviceOwner)
  | .addInsert call =>
      match shared.manager.connections.get call.connectionId with
      | none => some (call.connectionId, (call.info shared.clock).owner)
      | some _ => none
  | .update id change => (shared.manager.connections.get id).map fun entry =>
      (id, (change.apply shared.clock entry.info).owner)
  | _ => none

/-- The table entry of a connection, if there is one, belongs to the owner. -/
def ConnectionManager.Belongs (manager : ConnectionManager) (owner : DeviceOwner) (id : String) :
    Prop :=
  ∀ entry ∈ manager.connections.get id, entry.info.owner = some owner

instance (manager : ConnectionManager) (owner : DeviceOwner) (id : String) :
    Decidable (manager.Belongs owner id) :=
  inferInstanceAs (Decidable (∀ entry ∈ manager.connections.get id, entry.info.owner = some owner))

/-- No step gives another owner to a connection that a delivery has read from the index and
not yet looked up, and no delivery reads an index entry that a call in progress is about to
remove while the connection belongs to somebody else. -/
def OwnersSettled (pool : Pool Shared Task) : Move Call Bool Happening → Prop
  | .advance index _ => ∀ task ∈ pool.tasks[index]?,
      (∀ assigned ∈ task.assigns pool.memory, ∀ sender ∈ pool.tasks, ∀ send ∈ sender.delivery,
        assigned.1 ∈ sender.addressing → assigned.2 = some send.owner) ∧
      ∀ send ∈ task.reads, ∀ id ∈ pool.memory.manager.getUserConnections send.owner,
        (∃ other ∈ pool.tasks, other.removing send.owner id ≠ 0) →
          pool.memory.manager.Belongs send.owner id
  | .call _ | .environment _ => True

instance decidableOwnersSettled (pool : Pool Shared Task) :
    ∀ move, Decidable (OwnersSettled pool move)
  | .advance index _ => inferInstanceAs (Decidable (∀ task ∈ pool.tasks[index]?,
      (∀ assigned ∈ task.assigns pool.memory, ∀ sender ∈ pool.tasks, ∀ send ∈ sender.delivery,
        assigned.1 ∈ sender.addressing → assigned.2 = some send.owner) ∧
      ∀ send ∈ task.reads, ∀ id ∈ pool.memory.manager.getUserConnections send.owner,
        (∃ other ∈ pool.tasks, other.removing send.owner id ≠ 0) →
          pool.memory.manager.Belongs send.owner id))
  | .call _ | .environment _ => isTrue trivial

/-- Every frame that a delivery has enqueued went to a connection that belonged to the
addressed owner when it was looked up. -/
def DeliveredToOwner (shared : Shared) : Prop :=
  ∀ delivery ∈ shared.deliveries, delivery.snapshot.info.owner = some delivery.target

/-! ### One step -/

variable {shared shared' : Shared} {others : List Task} {task task' : Task}

/-- A step leaves the owner of an entry alone, unless it assigns one. -/
theorem Action.owner (action : Action shared others task shared' task') {id : String}
    {entry' : ConnectionEntry} (found : shared'.manager.connections.get id = some entry') :
    task.assigns shared = some (id, entry'.info.owner) ∨
      ∃ entry, shared.manager.connections.get id = some entry ∧
        entry'.info.owner = entry.info.owner := by
  cases action with
  | refresh group now =>
      obtain ⟨old, present, -⟩ := ConnectionManager.connection_touchGroup found
      have same := (shared.manager.touchGroup_books group now).1 id
      rw [ConnectionManager.ownerOf_eq_of_get present] at same
      exact Or.inr ⟨old, present, (ConnectionManager.ownerOf_eq_of_get found).symm.trans same⟩
  | enqueue _ connections => exact Or.inr ⟨entry', connections ▸ found, rfl⟩
  | insert call _ missing =>
      simp only [Shared.with_manager, ConnectionManager.insertEntry, ShardedMap.get_insert] at found
      split_ifs at found with same
      · obtain rfl := Option.some.inj found
        subst same
        left
        simp only [Task.assigns, missing]
      · exact Or.inr ⟨entry', found, rfl⟩
  | take taken | registryTake taken =>
      simp only [Shared.with_manager, ConnectionManager.closeQueue_connections,
        ConnectionManager.eraseEntry, ShardedMap.get_erase] at found
      split_ifs at found
      exact Or.inr ⟨entry', found, rfl⟩
  | batchTake => exact Or.inr ⟨entry', ConnectionManager.get_takeEntries found, rfl⟩
  | write written update old _ present =>
      simp only [Shared.with_manager, ConnectionManager.writeInfo, ShardedMap.get_insert] at found
      split_ifs at found with same
      · obtain rfl := Option.some.inj found
        subst same
        left
        simp only [Task.assigns, present, Option.map_some]
      · exact Or.inr ⟨entry', found, rfl⟩
  | _ => exact Or.inr ⟨entry', found, rfl⟩

/-- A delivery goes on with what it had, with what it reads and with what it looks up. -/
theorem Action.sends (action : Action shared others task shared' task') :
    Sends shared task task' := by
  have other : task'.delivery = none → Sends shared task task' := by
    intro none send delivers
    rw [none] at delivers
    cases delivers
  have resumes : task'.delivery = task.delivery → task'.addressing = [] →
      Sends shared task task' := by
    intro same nothing send delivers
    refine ⟨send, same.symm.trans delivers, rfl, ?_, fun _ member => Or.inl member⟩
    intro id member
    rw [nothing] at member
    cases member
  cases action with
  | idle light | refresh _ _ _ light | enqueue light => exact light.sends
  | insert call =>
      refine other ?_
      cases (call.info shared.clock).owner <;> rfl
  | take id resume => exact resumes rfl rfl
  | release id owner resume => cases owner <;> cases resume <;> exact resumes rfl rfl
  | unlist id owner resume => cases resume <;> exact resumes rfl rfl
  | registryRelease id owner => cases owner <;> exact other rfl
  | write id update entry =>
      refine other ?_
      unfold afterUpdate
      split <;> rfl
  | reindexUnlist id before after => cases after <;> exact other rfl
  | _ => exact other rfl

/-- Only a delivery adds to the history, and only one of its snapshots. -/
theorem Action.deliveries (action : Action shared others task shared' task') :
    ∀ delivery ∈ shared'.deliveries, delivery ∈ shared.deliveries ∨
      ∃ send, task.delivery = some send ∧ delivery.target = send.owner ∧
        delivery.snapshot ∈ send.remaining := by
  cases action with
  | enqueue _ _ _ _ _ _ deliveries => exact deliveries
  | _ => exact fun _ member => Or.inl member

/-- A task that reads the index writes nothing. -/
theorem Task.assigns_of_reads {send : UserSend} (reads : task.reads = some send) :
    task.assigns shared = none := by
  cases task with
  | userRead => rfl
  | _ => cases reads

/-! ### Runs -/

/-- What a delivery addresses and what it is about to serve belongs to its owner. -/
structure DeliveriesOwned (pool : Pool Shared Task) : Prop where
  addressed : ∀ task ∈ pool.tasks, ∀ send, task.delivery = some send →
    ∀ id ∈ task.addressing, pool.memory.manager.Belongs send.owner id
  snapped : ∀ task ∈ pool.tasks, ∀ send, task.delivery = some send →
    ∀ snapshot ∈ send.remaining, snapshot.info.owner = some send.owner
  delivered : DeliveredToOwner pool.memory

variable {before after : Pool Shared Task}

theorem DeliveriesOwned.initial (writeQueueCapacity : Nat) (clock : Instant) :
    DeliveriesOwned (initialPool writeQueueCapacity clock) := by
  refine ⟨?_, ?_, ?_⟩
  · intro task member
    cases member
  · intro task member
    cases member
  · intro delivery member
    cases member

/-- A call starts without addresses and snapshots. -/
theorem delivery_startCall {number : Nat} {call : Call} {send : UserSend}
    (delivers : (startCall number call).delivery = some send) :
    (startCall number call).addressing = [] ∧ send.remaining = [] := by
  cases call with
  | sendToUser =>
      obtain rfl := Option.some.inj delivers
      exact ⟨rfl, rfl⟩
  | _ => cases delivers

/-- What the index lists belongs to the owner, unless a call in progress is about to
remove it. -/
theorem Books.belongs_of_listed {pool : Pool Shared Task} (books : Books pool)
    {owner : DeviceOwner} {id : String}
    (listed : id ∈ pool.memory.manager.getUserConnections owner)
    (settled : (∃ other ∈ pool.tasks, other.removing owner id ≠ 0) →
      pool.memory.manager.Belongs owner id) :
    pool.memory.manager.Belongs owner id := by
  by_cases owned : pool.memory.manager.ownerOf id = some owner
  · intro entry found
    exact (ConnectionManager.ownerOf_eq_of_get found).symm.trans owned
  · refine settled ?_
    by_contra none
    have idle : ∀ other ∈ pool.tasks, other.removing owner id = 0 := by
      intro other member
      by_contra removes
      exact none ⟨other, member, removes⟩
    have covered := books.covered owner id
    rw [total_eq_zero.mpr idle, ConnectionManager.owns, if_neg owned] at covered
    exact List.count_eq_zero.mp (Nat.le_zero.mp covered) listed

/-- An assignment that respects the deliveries keeps what they address. -/
theorem Action.belongs (action : Action shared others task shared' task') {owner : DeviceOwner}
    {id : String} (belongs : shared.manager.Belongs owner id)
    (assigns : ∀ assigned ∈ task.assigns shared, assigned.1 = id → assigned.2 = some owner) :
    shared'.manager.Belongs owner id := by
  intro entry' found
  rcases action.owner found with assigned | ⟨entry, was, same⟩
  · exact assigns _ assigned rfl
  · exact same.trans (belongs entry was)

theorem DeliveriesOwned.step (step : managerMachine.Allowed OwnersSettled before after)
    (books : Books before) (owned : DeliveriesOwned before) : DeliveriesOwned after := by
  refine Machine.step_preserves_given ?_ ?_ ?_ step books owned
  · intro memory tasks call _ _ owned
    refine ⟨?_, ?_, owned.delivered⟩
    · intro task member send delivers id addressed
      rcases List.mem_append.mp member with old | new
      · exact owned.addressed task old send delivers id addressed
      · obtain rfl := List.mem_singleton.mp new
        have none : (startCall tasks.length call).addressing = [] := (delivery_startCall delivers).1
        exact absurd (none ▸ addressed) List.not_mem_nil
    · intro task member send delivers snapshot remains
      rcases List.mem_append.mp member with old | new
      · exact owned.snapped task old send delivers snapshot remains
      · obtain rfl := List.mem_singleton.mp new
        rw [(delivery_startCall delivers).2] at remains
        cases remains
  · intro memory earlier task later choice memory' task' settled books owned moved
    have action := action_of_advance moved
    have moving : task ∈ earlier ++ task :: later := mem_append_cons.mpr (Or.inl rfl)
    obtain ⟨assigns, reads⟩ := settled task (getElem?_append_cons_self ..)
    have keeps : ∀ sender ∈ earlier ++ task :: later, ∀ send, sender.delivery = some send →
        ∀ id ∈ sender.addressing, memory'.manager.Belongs send.owner id := by
      intro sender member send delivers id addressed
      refine action.belongs (owned.addressed sender member send delivers id addressed) ?_
      rintro assigned isAssigned rfl
      exact assigns assigned isAssigned sender member send delivers addressed
    refine ⟨?_, ?_, ?_⟩
    · intro sender member send' delivers id addressed
      rcases mem_append_cons.mp member with rfl | old
      · obtain ⟨send, delivered, sameOwner, addresses, -⟩ := action.sends send' delivers
        rw [sameOwner]
        rcases addresses id addressed with before | ⟨reading, listed⟩
        · exact keeps task moving send delivered id before
        · -- a read changes nothing: the entry is as the index was read
          refine action.belongs (books.belongs_of_listed listed (reads send reading id listed)) ?_
          intro assigned isAssigned
          rw [Task.assigns_of_reads reading] at isAssigned
          cases isAssigned
      · exact keeps sender (mem_append_cons.mpr (Or.inr old)) send' delivers id addressed
    · intro sender member send' delivers snapshot remains
      rcases mem_append_cons.mp member with rfl | old
      · obtain ⟨send, delivered, sameOwner, -, snapshots⟩ := action.sends send' delivers
        rw [sameOwner]
        rcases snapshots snapshot remains with before | ⟨id, addressed, found⟩
        · exact owned.snapped task moving send delivered snapshot before
        · obtain ⟨entry, present, rfl⟩ := Option.map_eq_some_iff.mp found
          exact owned.addressed task moving send delivered id addressed entry present
      · exact owned.snapped sender (mem_append_cons.mpr (Or.inr old)) send' delivers snapshot remains
    · intro delivery member
      rcases action.deliveries delivery member with before | ⟨send, delivers, target, remains⟩
      · exact owned.delivered delivery before
      · rw [target]
        exact owned.snapped task moving send delivers _ remains
  · intro memory tasks event _ _ owned
    cases event <;> exact ⟨owned.addressed, owned.snapped, owned.delivered⟩

/-- **Sends to a user reach the connections of that user.**  In a consistent state both sends
make one offer to each connection of the owner and none to any other; and in every run in
which the owners of what is being delivered are settled, whatever a delivery enqueues goes to
a connection that belonged to the addressed owner when it was looked up. -/
theorem sends_reach_owner [RustText] (registries : Registries) :
    (∀ (manager : ConnectionManager), manager.Consistent →
      ∀ (owner : DeviceOwner) (handle : WriteHandle),
        (∀ data, (manager.sendToUser owner data).queues handle =
          (manager.queues handle).offer ((manager.addressed owner handle).map fun _ => data)) ∧
        ∀ frame parser now, (manager.sendFrameToUser registries frameAllowedBeforeAuth owner frame
            parser now).queues handle =
          (manager.queues handle).offer ((manager.addressed owner handle).bind fun snapshot =>
            (ConnectionManager.serializeFrameForConnection registries frameAllowedBeforeAuth
              snapshot.connectionId snapshot.info frame parser).toOption)) ∧
    ∀ (writeQueueCapacity : Nat) (clock : Instant) (pool : Pool Shared Task),
      managerMachine.Reaches OwnersSettled (initialPool writeQueueCapacity clock) pool →
        DeliveredToOwner pool.memory := by
  refine ⟨?_, ?_⟩
  · intro manager consistent owner handle
    refine ⟨?_, ?_⟩
    · intro data
      exact ConnectionManager.queues_sendToUser consistent owner data handle
    · intro frame parser now
      exact ConnectionManager.queues_sendFrameToUser consistent registries _ owner frame parser now
        handle
  · intro writeQueueCapacity clock pool reached
    have invariant : Books pool ∧ DeliveriesOwned pool := by
      refine System.Reaches.invariant (I := fun pool => Books pool ∧ DeliveriesOwned pool) reached
        ⟨Books.initial _ _, DeliveriesOwned.initial _ _⟩ ?_
      intro before after step ⟨books, owned⟩
      exact ⟨books.step step, owned.step step books⟩
    exact invariant.2.delivered

end Delivery

/-! ## Concrete runs -/

section Run

open scoped SingleShard AsciiText

/-- A connection of alice, and a send to alice that has read the index; then comes `rest`. -/
def deliveryMoves (rest : List (Move Call Bool Happening)) : List (Move Call Bool Happening) :=
  [.call (.addConnectionWithLimit "c" (some "alice") false 10),
    .advance 0 false, .advance 0 false, .advance 0 false, .advance 0 false,
    .call (.sendToUser (.new none "alice") (fun _ => some fun _ => [1, 2]) true),
    .advance 1 false] ++ rest

/-- The owners of the connections that deliveries went to, with the owners addressed. -/
def deliveredOwners (shared : Shared) : List (DeviceOwner × Option DeviceOwner) :=
  shared.deliveries.map fun delivery => (delivery.target, delivery.snapshot.info.owner)

/-- Alice and bob have a connection each. -/
def twoUsers : ConnectionManager :=
  [Operation.addConnection "a" 0 (some "alice") false 0,
    Operation.addConnection "b" 1 (some "bob") false 0].foldl Operation.perform (.new 8)

theorem sends_reach_owner_alice :
    (((twoUsers.sendToUser (.new none "alice") fun _ => [1, 2]).queues ⟨"a", 0⟩).items.length = 1 ∧
      (twoUsers.sendToUser (.new none "alice") fun _ => [1, 2]).queues ⟨"b", 1⟩ =
        twoUsers.queues ⟨"b", 1⟩) ∧
    ∃ pool, managerMachine.Reaches OwnersSettled (initialPool 8 0) pool ∧
      deliveredOwners pool.memory = [(.new none "alice", some (.new none "alice"))] ∧
      DeliveredToOwner pool.memory := by
  obtain ⟨sequential, interleaved⟩ := sends_reach_owner ConnectionManager.idRegistries
  refine ⟨?_, ?_⟩
  · have consistent : twoUsers.Consistent :=
      ((ConnectionManager.Settled.new 8).performAll _).consistent
    refine ⟨?_, ?_⟩
    · rw [(sequential twoUsers consistent (.new none "alice") ⟨"a", 0⟩).1]
      decide +kernel
    · rw [(sequential twoUsers consistent (.new none "alice") ⟨"b", 1⟩).1]
      rfl
  · have evaluated : ((managerMachine.run (initialPool 8 0) (deliveryMoves
        [.advance 1 false, .advance 1 false, .advance 1 false])).any fun pool =>
        decide (deliveredOwners pool.memory =
          [(.new none "alice", some (.new none "alice"))])) = true := by
      decide +kernel
    obtain ⟨pool, reached, outcome⟩ := System.exists_reaches_of_run evaluated
      (by decide +kernel : managerMachine.Permits OwnersSettled (initialPool 8 0) _)
    exact ⟨pool, reached, of_decide_eq_true outcome, interleaved 8 0 pool reached⟩

/-- The connection is bound to bob after the index was read, and bob gets alice's frame. -/
theorem delivery_reaches_other_owner :
    ¬∀ pool, managerMachine.Reaches System.always (initialPool 8 0) pool →
      DeliveredToOwner pool.memory := by
  intro claimed
  have evaluated : ((managerMachine.run (initialPool 8 0) (deliveryMoves
      [.call (.updateConnection "c" (.bindUser "bob")), .advance 2 false, .advance 2 false,
        .advance 2 false, .advance 1 false, .advance 1 false, .advance 1 false])).any fun pool =>
      decide (deliveredOwners pool.memory =
        [(.new none "alice", some (.new none "bob"))])) = true := by
    decide +kernel
  obtain ⟨pool, reached, outcome⟩ :=
    System.exists_reaches_of_run evaluated (System.permits_always _ _)
  obtain ⟨delivery, rest, single⟩ : ∃ delivery rest, pool.memory.deliveries = delivery :: rest := by
    cases listed : pool.memory.deliveries with
    | nil =>
        rw [deliveredOwners, listed] at outcome
        cases of_decide_eq_true outcome
    | cons delivery rest => exact ⟨delivery, rest, rfl⟩
  have owned := claimed pool reached delivery (single ▸ List.mem_cons_self)
  have foreign := of_decide_eq_true outcome
  rw [deliveredOwners, single, List.map_cons] at foreign
  obtain ⟨target, other⟩ := Prod.mk.inj (List.cons.inj foreign).1
  rw [target, other] at owned
  revert owned
  decide

end Run

end FlareCore.Server
