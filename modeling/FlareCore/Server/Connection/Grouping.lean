import FlareCore.Server.Connection.Sending

/-!
# Grouped fan-out and one send after the other

`send_frame_to_connections` has two implementations.  The trait's default resolves, encodes
and sends for each id in turn.  The manager snapshots all connections first, groups the
unencrypted ones by codec profile, serializes once for each group, and leaves the encrypted
ones to the ordinary fan-out.

Both put the same bytes on the same queues, the same number of times, in every state with
room in the queues and whose cached parsers have the profile of their connection.  Their
counts differ in one way: an id that is not in the table is a failure for the default and
nothing at all for the grouped fan-out.  So the two agree exactly if every listed id is in
the table (`grouped_agrees_iff_all_present`).

The proofs compare both to `deliverable`, which says for each id what arrives where.
-/

namespace FlareCore.Server

open FlareCore.Common FlareCore.Foundations

set_option autoImplicit false

/-! ## Queues with room -/

namespace WriteQueue

theorem tryEnqueue_of_closed {queue : WriteQueue} (closed : queue.closed = true) (data : Wire) :
    queue.tryEnqueue data =
      (queue, .error (.connectionClosed "Connection write queue is closed")) :=
  if_pos closed

theorem tryEnqueue_of_open {queue : WriteQueue} (opened : queue.closed = false)
    (room : queue.items.length < queue.capacity) (data : Wire) :
    queue.tryEnqueue data = ({ queue with items := queue.items ++ [data] }, .ok ()) := by
  rw [tryEnqueue, if_neg (Bool.eq_false_iff.mp opened), if_neg (Nat.not_le.mpr room)]

/-- A queue with room takes what it is offered, unless it is closed. -/
theorem offer_of_room {queue : WriteQueue} (room : queue.items.length < queue.capacity)
    (data : Option Wire) :
    queue.offer data =
      { queue with items := queue.items ++ if queue.closed then [] else data.toList } := by
  cases closed : queue.closed with
  | true =>
      have refused : queue.offer data = queue := by
        cases data with
        | none => rfl
        | some data => simp only [offer, tryEnqueue_of_closed closed, close_of_closed closed]
      rw [refused]
      simp [← closed]
  | false =>
      cases data with
      | none => simp [offer, ← closed]
      | some data => simp [offer, tryEnqueue_of_open closed room, closed]

end WriteQueue

section Grouping

variable [Hashing]

namespace ConnectionManager

variable {manager : ConnectionManager} {encode : ConnectionSnapshot → Result Wire}

/-- A send succeeds if there is something to send and the queue takes it. -/
theorem sendEncoded_succeeds (encode : ConnectionSnapshot → Result Wire)
    {snapshot : ConnectionSnapshot}
    (room : (manager.queues snapshot.handle).items.length <
      (manager.queues snapshot.handle).capacity) :
    (manager.sendEncoded encode snapshot).2.toOption.isSome =
      ((encode snapshot).toOption.isSome && !(manager.queues snapshot.handle).closed) := by
  unfold sendEncoded sendToConnectionHandle
  cases encode snapshot with
  | error error => rfl
  | ok data =>
      cases closed : (manager.queues snapshot.handle).closed with
      | true => simp only [WriteQueue.tryEnqueue_of_closed closed]; rfl
      | false => simp only [WriteQueue.tryEnqueue_of_open closed room]; rfl

omit [Hashing] in
theorem length_served (successful : List String) (connectionId : String) (result : Result Unit) :
    (served successful connectionId result).length =
      successful.length + if result.toOption.isSome then 1 else 0 := by
  cases result with
  | error error => rfl
  | ok => simp [served, Except.toOption]

/-- After a send with room, every queue is open or closed as before. -/
theorem closed_sendEncoded (encode : ConnectionSnapshot → Result Wire)
    {snapshot : ConnectionSnapshot} (agrees : Agrees manager snapshot)
    (room : (manager.queues snapshot.handle).items.length <
      (manager.queues snapshot.handle).capacity) (handle : WriteHandle) :
    ((manager.sendEncoded encode snapshot).1.queues handle).closed =
      (manager.queues handle).closed := by
  rw [queues_sendEncoded agrees]
  by_cases here : handle = snapshot.handle
  · subst here
    rw [Function.update_self, WriteQueue.offer_of_room room]
  · rw [Function.update_of_ne here]

/-- Room for the sends to come, counting those that go to the same queue. -/
def Room (manager : ConnectionManager) (snapshots : List ConnectionSnapshot) : Prop :=
  ∀ snapshot ∈ snapshots, (manager.queues snapshot.handle).items.length +
    snapshots.countP (fun other => other.handle = snapshot.handle) ≤
      (manager.queues snapshot.handle).capacity

theorem Room.first {first : ConnectionSnapshot} {rest : List ConnectionSnapshot}
    (room : Room manager (first :: rest)) :
    (manager.queues first.handle).items.length < (manager.queues first.handle).capacity := by
  have here := room first List.mem_cons_self
  rw [List.countP_cons_of_pos (by simp)] at here
  omega

theorem Room.rest {first : ConnectionSnapshot} {rest : List ConnectionSnapshot}
    (room : Room manager (first :: rest)) (encode : ConnectionSnapshot → Result Wire)
    (agrees : Agrees manager first) : Room (manager.sendEncoded encode first).1 rest := by
  intro snapshot member
  have here := room snapshot (List.mem_cons_of_mem _ member)
  rw [queues_sendEncoded agrees]
  by_cases same : first.handle = snapshot.handle
  · rw [List.countP_cons_of_pos (by simpa using same), ← same] at here
    rw [← same, Function.update_self, WriteQueue.offer_of_room room.first]
    simp only [List.length_append]
    have atMostOne : (if (manager.queues first.handle).closed then []
        else (encode first).toOption.toList).length ≤ 1 := by
      split_ifs
      · exact Nat.zero_le 1
      · cases (encode first).toOption <;> simp
    omega
  · rw [List.countP_cons_of_neg (by simpa using same)] at here
    rwa [Function.update_of_ne (Ne.symm same)]

/-- How many connections a fan-out serves when all queues have room. -/
theorem length_fanout {successful : List String} {snapshots : List ConnectionSnapshot}
    (agrees : ∀ snapshot ∈ snapshots, Agrees manager snapshot) (room : Room manager snapshots) :
    (fanout encode (manager, successful) snapshots).2.length =
      successful.length + snapshots.countP fun snapshot =>
        (encode snapshot).toOption.isSome && !(manager.queues snapshot.handle).closed := by
  induction snapshots generalizing manager successful with
  | nil => rfl
  | cons first rest inductionHypothesis =>
      have agreesFirst := agrees first List.mem_cons_self
      have closed := closed_sendEncoded encode agreesFirst room.first
      rw [fanout_cons, inductionHypothesis
        (fun snapshot member => (agrees snapshot (List.mem_cons_of_mem _ member)).sendEncoded)
        (room.rest encode agreesFirst)]
      simp only [closed, length_served, sendEncoded_succeeds encode room.first, List.countP_cons]
      omega

/-- What a fan-out adds to a queue when all queues have room. -/
theorem items_fanout {successful : List String} {snapshots : List ConnectionSnapshot}
    (agrees : ∀ snapshot ∈ snapshots, Agrees manager snapshot) (room : Room manager snapshots)
    (handle : WriteHandle) :
    ((fanout encode (manager, successful) snapshots).1.queues handle).items =
      (manager.queues handle).items ++ snapshots.filterMap fun snapshot =>
        if snapshot.handle = handle ∧ (manager.queues handle).closed = false then
          (encode snapshot).toOption else none := by
  induction snapshots generalizing manager successful with
  | nil => simp [fanout]
  | cons first rest inductionHypothesis =>
      have agreesFirst := agrees first List.mem_cons_self
      have closed := closed_sendEncoded encode agreesFirst room.first
      rw [fanout_cons, inductionHypothesis
        (fun snapshot member => (agrees snapshot (List.mem_cons_of_mem _ member)).sendEncoded)
        (room.rest encode agreesFirst)]
      simp only [closed, List.filterMap_cons]
      rw [queues_sendEncoded agreesFirst]
      by_cases here : first.handle = handle
      · subst here
        rw [Function.update_self, WriteQueue.offer_of_room room.first, List.append_assoc]
        cases (manager.queues first.handle).closed <;> cases (encode first).toOption <;> simp
      · rw [Function.update_of_ne (Ne.symm here)]
        simp [here]

/-! ## Snapshots for a list of ids -/

theorem connectionSnapshotsForIds_perm (manager : ConnectionManager) (ids : List String) :
    (manager.connectionSnapshotsForIds ids).Perm
      (ids.filterMap manager.getConnectionSnapshot) := by
  refine ((ShardedMap.getMany_perm manager.connections ids).map _).trans ?_
  rw [List.map_filterMap]
  refine List.Perm.of_eq (List.filterMap_congr ?_)
  intro id _
  unfold getConnectionSnapshot
  cases manager.connections.get id <;> rfl

theorem getConnectionSnapshot_id {id : String} {snapshot : ConnectionSnapshot}
    (found : manager.getConnectionSnapshot id = some snapshot) : snapshot.connectionId = id := by
  obtain ⟨entry, -, rfl⟩ := Option.map_eq_some_iff.mp found
  rfl

/-- The snapshots are those of the listed ids that are in the table. -/
theorem snapshot_ids_perm (manager : ConnectionManager) (ids : List String) :
    ((manager.connectionSnapshotsForIds ids).map ConnectionSnapshot.connectionId).Perm
      (ids.filter fun id => (manager.connections.get id).isSome) := by
  refine ((manager.connectionSnapshotsForIds_perm ids).map _).trans (List.Perm.of_eq ?_)
  induction ids with
  | nil => rfl
  | cons id ids inductionHypothesis =>
      cases found : manager.connections.get id with
      | none =>
          have missing : manager.getConnectionSnapshot id = none := by
            rw [getConnectionSnapshot, found]
            rfl
          rw [List.filterMap_cons_none missing, List.filter_cons_of_neg (by simp [found]),
            inductionHypothesis]
      | some entry =>
          have present : manager.getConnectionSnapshot id = some ⟨id, entry.serial, entry.info⟩ := by
            rw [getConnectionSnapshot, found]
            rfl
          rw [List.filterMap_cons_some present, List.filter_cons_of_pos (by simp [found]),
            List.map_cons, inductionHypothesis]

theorem length_connectionSnapshotsForIds (manager : ConnectionManager) (ids : List String) :
    (manager.connectionSnapshotsForIds ids).length =
      ids.countP fun id => (manager.connections.get id).isSome := by
  have length := (manager.snapshot_ids_perm ids).length_eq
  rwa [List.length_map, ← List.countP_eq_length_filter] at length

theorem getConnectionSnapshot_of_mem {ids : List String} {snapshot : ConnectionSnapshot}
    (member : snapshot ∈ manager.connectionSnapshotsForIds ids) :
    manager.getConnectionSnapshot snapshot.connectionId = some snapshot := by
  obtain ⟨id, -, found⟩ := List.mem_filterMap.mp
    ((manager.connectionSnapshotsForIds_perm ids).mem_iff.mp member)
  rwa [getConnectionSnapshot_id found]

/-! ## Refreshing leaves the queues alone -/

@[simp]
theorem touch_queues (manager : ConnectionManager) (id : String) (now : Instant) :
    (manager.touch id now).queues = manager.queues := by
  unfold touch
  cases manager.connections.get id <;> rfl

theorem foldl_touch_queues (ids : List String) (now : Instant) (manager : ConnectionManager) :
    (ids.foldl (fun manager id => manager.touch id now) manager).queues = manager.queues := by
  induction ids generalizing manager with
  | nil => rfl
  | cons id ids inductionHypothesis => rw [List.foldl_cons, inductionHypothesis, touch_queues]

@[simp]
theorem updateConnectionsActive_queues (manager : ConnectionManager) (ids : List String)
    (now : Instant) : (manager.updateConnectionsActive ids now).queues = manager.queues := by
  unfold updateConnectionsActive
  induction connectionGroups ids generalizing manager with
  | nil => rfl
  | cons group groups inductionHypothesis =>
      rw [List.foldl_cons, inductionHypothesis, foldl_touch_queues]

theorem updateConnectionsActive_nil (manager : ConnectionManager) (now : Instant) :
    manager.updateConnectionsActive [] now = manager := by
  have none : connectionGroups [] = [] := by
    simp [connectionGroups, ShardedMap.groups, ShardedMap.group]
  rw [updateConnectionsActive, none]
  rfl

end ConnectionManager

end Grouping

/-! ## The grouped fan-out is a fan-out -/

section Regrouping

variable [Hashing] [RustText] {registries : Registries} {gate : Frame → Bool} {frame : Frame}

namespace ConnectionManager

/-- What the grouped fan-out sends to a snapshot. -/
def groupEncode (registries : Registries) (gate : Frame → Bool) (frame : Frame)
    (snapshot : ConnectionSnapshot) : Result Wire :=
  match sharedProfile snapshot.info with
  | some profile => do
      ensureFrameAllowedForConnection gate snapshot.connectionId snapshot.info frame
      (MessageParser.new profile.1 profile.2 .none).serialize registries frame
  | none =>
      serializeFrameForConnection registries gate snapshot.connectionId snapshot.info frame none

/-- The snapshots in the order in which the grouped fan-out serves them. -/
def regrouped (enumeration : Enumeration CodecProfile)
    (snapshots : List ConnectionSnapshot) : List ConnectionSnapshot :=
  ((enumeration.order (snapshots.filterMap (sharedProfile ·.info)).dedup).flatMap fun profile =>
    snapshots.filter fun snapshot => sharedProfile snapshot.info = some profile) ++
    snapshots.filter fun snapshot => sharedProfile snapshot.info = none

omit [Hashing] [RustText] in
theorem regrouped_perm (enumeration : Enumeration CodecProfile)
    (snapshots : List ConnectionSnapshot) : (regrouped enumeration snapshots).Perm snapshots := by
  have keys : (((enumeration.order
      (snapshots.filterMap fun snapshot : ConnectionSnapshot =>
        sharedProfile snapshot.info).dedup).map some ++
      [none]).flatMap fun profile => snapshots.filter fun snapshot =>
        sharedProfile snapshot.info = profile) = regrouped enumeration snapshots := by
    rw [List.flatMap_append, List.flatMap_map, List.flatMap_singleton]
    rfl
  rw [← keys]
  have permuted := enumeration.perm
    (snapshots.filterMap fun snapshot : ConnectionSnapshot => sharedProfile snapshot.info).dedup
  refine flatMap_filter_perm (fun snapshot : ConnectionSnapshot => sharedProfile snapshot.info) ?_ ?_
  · refine List.nodup_append.mpr ⟨?_, List.nodup_singleton none, ?_⟩
    · exact (permuted.nodup_iff.mpr (List.nodup_dedup _)).map (Option.some_injective _)
    · intro profile member other isNone same
      obtain ⟨_, -, rfl⟩ := List.mem_map.mp member
      rw [List.mem_singleton.mp isNone] at same
      cases same
  · intro snapshot member
    cases profile : sharedProfile snapshot.info with
    | none => exact List.mem_append_right _ (List.mem_singleton_self none)
    | some profile' =>
        refine List.mem_append_left _ (List.mem_map_of_mem ?_)
        refine permuted.mem_iff.mpr (List.mem_dedup.mpr ?_)
        exact List.mem_filterMap.mpr ⟨snapshot, member, profile⟩

/-- One group is a fan-out of its snapshots. -/
theorem fanoutGroup_eq (snapshots : List ConnectionSnapshot)
    (state : ConnectionManager × List String)
    (profile : CodecProfile) :
    fanoutGroup registries gate frame snapshots state profile =
      fanout (groupEncode registries gate frame) state
        (snapshots.filter fun snapshot => sharedProfile snapshot.info = some profile) := by
  have profiled : ∀ snapshot ∈ snapshots.filter fun snapshot =>
      sharedProfile snapshot.info = some profile, sharedProfile snapshot.info = some profile := by
    intro snapshot member
    exact of_decide_eq_true (List.mem_filter.mp member).2
  unfold fanoutGroup
  cases serialized : (MessageParser.new profile.1 profile.2 .none).serialize registries frame with
  | error error =>
      refine (fanout_of_none ?_ state).symm
      intro snapshot member
      simp only [groupEncode, profiled snapshot member, serialized]
      cases ensureFrameAllowedForConnection gate snapshot.connectionId snapshot.info frame <;> rfl
  | ok data =>
      refine fanout_congr ?_ state
      intro snapshot member
      simp only [groupEncode, profiled snapshot member, serialized]
      rfl

/-- **The grouped fan-out serves all snapshots, in another order.** -/
theorem fanoutFrameGroupedByEncoding_eq
    (enumeration : Enumeration CodecProfile)
    (manager : ConnectionManager) (ids : List String) (now : Instant) :
    fanoutFrameGroupedByEncoding registries gate enumeration manager ids frame now =
      let sent := fanout (groupEncode registries gate frame) (manager, [])
        (regrouped enumeration (manager.connectionSnapshotsForIds ids))
      (sent.1.updateConnectionsActive sent.2 now, Int32.ofNat sent.2.length,
        saturatingSub (Int32.ofNat (manager.connectionSnapshotsForIds ids).length)
          (Int32.ofNat sent.2.length)) := by
  have groups : ∀ (snapshots : List ConnectionSnapshot) (profiles : List CodecProfile) state,
      profiles.foldl (fanoutGroup registries gate frame snapshots) state =
        fanout (groupEncode registries gate frame) state (profiles.flatMap fun profile =>
          snapshots.filter fun snapshot => sharedProfile snapshot.info = some profile) := by
    intro snapshots profiles
    induction profiles with
    | nil => intro state; rfl
    | cons profile profiles inductionHypothesis =>
        intro state
        rw [List.foldl_cons, fanoutGroup_eq, inductionHypothesis, List.flatMap_cons, fanout_append]
  have encrypted : ∀ (snapshots : List ConnectionSnapshot) state,
      fanoutFrameToSnapshots registries gate state
          (snapshots.filter fun snapshot => sharedProfile snapshot.info = none) frame none =
        fanout (groupEncode registries gate frame) state
          (snapshots.filter fun snapshot => sharedProfile snapshot.info = none) := by
    intro snapshots state
    refine fanout_congr ?_ state
    intro snapshot member
    have unshared : sharedProfile snapshot.info = none :=
      of_decide_eq_true (List.mem_filter.mp member).2
    simp only [groupEncode, unshared]
  unfold fanoutFrameGroupedByEncoding
  dsimp only
  split_ifs with empty
  · have nothing : regrouped enumeration [] = [] := (regrouped_perm enumeration []).eq_nil
    rw [List.eq_nil_of_length_eq_zero empty, nothing]
    exact congrArg (·, _) (updateConnectionsActive_nil manager now).symm
  · rw [groups, encrypted, ← fanout_append]
    rfl

/-! ## One send after the other -/

/-- Where a frame sent to an id arrives, and as what; `none` if it does not. -/
def deliverable (registries : Registries) (gate : Frame → Bool) (frame : Frame)
    (manager : ConnectionManager) (id : String) : Option (WriteHandle × Wire) :=
  match manager.connections.get id with
  | none => none
  | some entry =>
      if (manager.queues ⟨id, entry.serial⟩).closed then none
      else
        (serializeFrameForConnection registries gate id entry.info frame none).toOption.map
          fun data => (⟨id, entry.serial⟩, data)

/-- Room for one frame in the queue of an id, and one more for each listed repetition. -/
def RoomFor (manager : ConnectionManager) (ids : List String) : Prop :=
  ∀ id entry, manager.connections.get id = some entry →
    (manager.queues ⟨id, entry.serial⟩).items.length + ids.count id ≤
      (manager.queues ⟨id, entry.serial⟩).capacity

/-- What one send to an id does, seen through `deliverable`. -/
structure Delivers (registries : Registries) (gate : Frame → Bool) (frame : Frame)
    (manager : ConnectionManager) (id : String) (ids : List String)
    (sent : ConnectionManager × Result Unit) : Prop where
  succeeds : sent.2.toOption.isSome = (deliverable registries gate frame manager id).isSome
  unchanged : ∀ other, deliverable registries gate frame sent.1 other =
    deliverable registries gate frame manager other
  items : ∀ handle, (sent.1.queues handle).items = (manager.queues handle).items ++
    (deliverable registries gate frame manager id).toList.filterMap fun arrived =>
      if arrived.1 = handle then some arrived.2 else none
  room : RoomFor sent.1 ids

/-- A send that changes nothing. -/
theorem Delivers.ofIdle {manager : ConnectionManager} {id : String} {ids : List String}
    {error : FlareError} (nothing : deliverable registries gate frame manager id = none)
    (room : RoomFor manager (id :: ids)) :
    Delivers registries gate frame manager id ids (manager, .error error) where
  succeeds := by
    rw [nothing]
    rfl
  unchanged := fun _ => rfl
  items := by
    intro handle
    rw [nothing]
    exact (List.append_nil _).symm
  room := by
    intro other entry found
    exact (Nat.add_le_add_left List.count_le_count_cons _).trans (room other entry found)

/-- A send to a closed queue removes the connection, which nothing could reach anyway. -/
theorem Delivers.ofClosed {manager : ConnectionManager} {id : String} {ids : List String}
    {entry : ConnectionEntry} {error : FlareError}
    (found : manager.connections.get id = some entry)
    (closed : (manager.queues ⟨id, entry.serial⟩).closed = true)
    (room : RoomFor manager (id :: ids)) :
    Delivers registries gate frame manager id ids
      (((manager.closeQueue ⟨id, entry.serial⟩).removeConnection id).1, .error error) := by
  have nothing : deliverable registries gate frame manager id = none := by
    simp only [deliverable, found, closed, if_true]
  have same : manager.closeQueue ⟨id, entry.serial⟩ = manager := by
    rw [closeQueue, WriteQueue.close_of_closed closed, Function.update_eq_self]
  rw [same]
  have queues : (manager.removeConnection id).1.queues = manager.queues := by
    have snapshot : manager.getConnectionSnapshot id = some ⟨id, entry.serial, entry.info⟩ := by
      rw [getConnectionSnapshot, found]
      rfl
    exact queues_removeConnection (agrees_of_getConnectionSnapshot snapshot) closed
  have table : ∀ other, (manager.removeConnection id).1.connections.get other =
      if other = id then none else manager.connections.get other := by
    intro other
    simp only [removeConnection, found, removeOwnerConnection_connections,
      releaseConnectionSlots_connections, closeQueue_connections, eraseEntry, ShardedMap.get_erase]
  have idle : Delivers registries gate frame manager id ids (manager, .error error) :=
    .ofIdle nothing room
  refine ⟨idle.succeeds, ?_, ?_, ?_⟩
  · intro other
    by_cases same : other = id
    · subst same
      rw [nothing, deliverable, table, if_pos rfl]
    · simp only [deliverable, table, if_neg same, queues]
  · intro handle
    rw [queues]
    exact idle.items handle
  · intro other entry' present
    rw [table] at present
    split_ifs at present
    rw [queues]
    exact idle.room other entry' present

/-- The manager with one more item on a queue. -/
def withItem (manager : ConnectionManager) (handle : WriteHandle) (data : Wire) :
    ConnectionManager :=
  { manager with
    queues := Function.update manager.queues handle
      { (manager.queues handle) with items := (manager.queues handle).items ++ [data] } }

/-- A send to an open queue with room arrives. -/
theorem Delivers.ofOpen {manager : ConnectionManager} {id : String} {ids : List String}
    {entry : ConnectionEntry} {data : Wire} (now : Instant)
    (found : manager.connections.get id = some entry)
    (opened : (manager.queues ⟨id, entry.serial⟩).closed = false)
    (encoded : serializeFrameForConnection registries gate id entry.info frame none = .ok data)
    (room : RoomFor manager (id :: ids)) :
    Delivers registries gate frame manager id ids
      ((manager.withItem ⟨id, entry.serial⟩ data).updateConnectionActive id now) := by
  have arrives : deliverable registries gate frame manager id =
      some (⟨id, entry.serial⟩, data) := by
    simp [deliverable, found, opened, encoded, Except.toOption]
  have table : ∀ other, ((manager.withItem ⟨id, entry.serial⟩ data).touch id
      now).connections.get other =
      if other = id then some { entry with info := { entry.info with lastActive := now } }
      else manager.connections.get other := by
    intro other
    simp only [touch, withItem, found, writeInfo, ShardedMap.get_insert]
  have away : ∀ other serial, other ≠ id →
      (manager.withItem ⟨id, entry.serial⟩ data).queues ⟨other, serial⟩ =
        manager.queues ⟨other, serial⟩ := by
    intro other serial distinct
    refine Function.update_of_ne ?_ _ _
    intro same
    exact distinct (WriteHandle.mk.inj same).1
  refine ⟨?_, ?_, ?_, ?_⟩
  · have present : ((manager.withItem ⟨id, entry.serial⟩ data).connections.get id).isSome = true := by
      rw [withItem, found]
      rfl
    rw [arrives, updateConnectionActive, if_pos present]
    rfl
  · intro other
    by_cases same : other = id
    · subst same
      have refreshed := (table other).trans (if_pos rfl)
      have stillOpen : ((manager.withItem ⟨other, entry.serial⟩ data).queues
          ⟨other, entry.serial⟩).closed = false := by
        simp only [withItem, Function.update_self]
        exact opened
      have sameData : serializeFrameForConnection registries gate other
          { entry.info with lastActive := now } frame none = .ok data := encoded
      rw [arrives]
      simp [deliverable, updateConnectionActive, refreshed, stillOpen, sameData, Except.toOption]
    · simp only [deliverable, updateConnectionActive, table, if_neg same, touch_queues]
      cases present : manager.connections.get other with
      | none => rfl
      | some entry' => simp only [away other entry'.serial same]
  · intro handle
    rw [arrives]
    simp only [updateConnectionActive, touch_queues, withItem]
    by_cases here : handle = ⟨id, entry.serial⟩
    · subst here
      simp
    · simp [Function.update_of_ne here, Ne.symm here]
  · intro other entry' present
    simp only [updateConnectionActive, table, touch_queues] at present ⊢
    by_cases same : other = id
    · subst same
      rw [if_pos rfl] at present
      obtain rfl := Option.some.inj present
      have here := room other entry found
      rw [List.count_cons_self] at here
      simp only [withItem, Function.update_self, List.length_append, List.length_singleton]
      omega
    · rw [if_neg same] at present
      rw [away other entry'.serial same]
      exact (Nat.add_le_add_left List.count_le_count_cons _).trans (room other entry' present)

/-- `send_frame_to` without an explicit parser. -/
theorem delivers_sendFrameTo {manager : ConnectionManager} {id : String} {ids : List String}
    (now : Instant) (room : RoomFor manager (id :: ids)) :
    Delivers registries gate frame manager id ids
      (manager.sendFrameTo registries gate id frame none now) := by
  unfold sendFrameTo getConnectionSnapshot
  cases found : manager.connections.get id with
  | none => exact .ofIdle (by simp only [deliverable, found]) room
  | some entry =>
      simp only [Option.map_some, sendEncoded]
      cases encoded : serializeFrameForConnection registries gate id entry.info frame none with
      | error error =>
          refine .ofIdle ?_ room
          simp [deliverable, found, encoded, Except.toOption]
      | ok data =>
          have space : (manager.queues ⟨id, entry.serial⟩).items.length <
              (manager.queues ⟨id, entry.serial⟩).capacity := by
            have here := room id entry found
            rw [List.count_cons_self] at here
            omega
          simp only [sendToConnectionHandle, ConnectionSnapshot.handle]
          cases closed : (manager.queues ⟨id, entry.serial⟩).closed with
          | true =>
              rw [WriteQueue.tryEnqueue_of_closed closed]
              exact .ofClosed found closed room
          | false =>
              rw [WriteQueue.tryEnqueue_of_open closed space]
              exact .ofOpen now found closed encoded room

omit [Hashing] [RustText] in
theorem tally_eq (counts : Int32 × Int32) (result : Result Unit) :
    tally counts result = (counts.1 + if result.toOption.isSome then 1 else 0,
      counts.2 + if result.toOption.isSome then 0 else 1) := by
  cases result <;> simp [tally, Except.toOption]

omit [Hashing] [RustText] in
theorem add_ofNat_succ (count : Int32) (n : Nat) :
    count + Int32.ofNat (n + 1) = count + 1 + Int32.ofNat n := by
  rw [Int32.ofNat_add, Int32.add_comm (Int32.ofNat n), ← Int32.add_assoc]
  rfl

/-- The default implementation, id after id. -/
theorem foldl_sendFrameTo {manager : ConnectionManager} {ids : List String} (now : Instant)
    (room : RoomFor manager ids) (counts : Int32 × Int32) :
    let sent := ids.foldl (fun state id =>
      let (manager, result) := state.1.sendFrameTo registries gate id frame none now
      (manager, tally state.2 result)) (manager, counts)
    let arrives := fun id => (deliverable registries gate frame manager id).isSome
    sent.2 = (counts.1 + Int32.ofNat (ids.countP arrives),
        counts.2 + Int32.ofNat (ids.countP fun id => !arrives id)) ∧
      ∀ handle, (sent.1.queues handle).items = (manager.queues handle).items ++
        (ids.filterMap (deliverable registries gate frame manager)).filterMap fun arrived =>
          if arrived.1 = handle then some arrived.2 else none := by
  induction ids generalizing manager counts with
  | nil => simp
  | cons id ids inductionHypothesis =>
      have delivers : Delivers registries gate frame manager id ids
        (manager.sendFrameTo registries gate id frame none now) := delivers_sendFrameTo now room
      obtain ⟨later, laterItems⟩ := inductionHypothesis delivers.room
        (tally counts (manager.sendFrameTo registries gate id frame none now).2)
      simp only [delivers.unchanged] at later laterItems
      refine ⟨?_, ?_⟩
      · refine later.trans ?_
        rw [tally_eq, delivers.succeeds]
        cases arrived : deliverable registries gate frame manager id with
        | none =>
            rw [List.countP_cons_of_neg (by simp [arrived]),
              List.countP_cons_of_pos (by simp [arrived]), add_ofNat_succ]
            simp
        | some place =>
            rw [List.countP_cons_of_pos (by simp [arrived]),
              List.countP_cons_of_neg (by simp [arrived]), add_ofNat_succ]
            simp
      · intro handle
        refine (laterItems handle).trans ?_
        rw [delivers.items, List.append_assoc, ← List.filterMap_append]
        congr 2
        cases arrived : deliverable registries gate frame manager id with
        | none => rw [List.filterMap_cons_none arrived]; rfl
        | some place => rw [List.filterMap_cons_some arrived]; rfl

/-! ## Comparison -/

/-- Every cached parser has the profile of its connection. -/
def ParsersMatch (manager : ConnectionManager) : Prop :=
  ∀ id entry, manager.connections.get id = some entry → ∀ parser ∈ entry.info.cachedParser,
    parser = .new entry.info.serializationFormat entry.info.compression entry.info.encryption

omit [Hashing] in
/-- Sharing bytes within a group gives every connection its own bytes. -/
theorem groupEncode_eq {snapshot : ConnectionSnapshot}
    (cached : ∀ parser ∈ snapshot.info.cachedParser, parser = .new
      snapshot.info.serializationFormat snapshot.info.compression snapshot.info.encryption) :
    groupEncode registries gate frame snapshot = serializeFrameForConnection registries gate
      snapshot.connectionId snapshot.info frame none := by
  cases negotiated : snapshot.info.negotiationCompleted with
  | false =>
      simp only [groupEncode, serializeFrameForConnection, sharedProfile, negotiated, Bool.not_false,
        if_true]
      rfl
  | true =>
      by_cases plain : snapshot.info.encryption = .none
      · simp only [groupEncode, serializeFrameForConnection, sharedProfile, negotiated, plain,
          Bool.not_true, Bool.false_eq_true, if_false, if_true]
        cases parser : snapshot.info.cachedParser with
        | none => rfl
        | some parser' =>
            rw [plain] at cached
            rw [cached parser' parser]
      · simp only [groupEncode, sharedProfile, negotiated, plain, Bool.not_true, Bool.false_eq_true,
          if_false]

/-- What the grouped fan-out sends to a snapshot is what arrives at its id. -/
theorem deliverable_of_snapshot {manager : ConnectionManager} (profiles : ParsersMatch manager)
    {snapshot : ConnectionSnapshot}
    (found : manager.getConnectionSnapshot snapshot.connectionId = some snapshot) :
    deliverable registries gate frame manager snapshot.connectionId =
      if (manager.queues snapshot.handle).closed then none
      else (groupEncode registries gate frame snapshot).toOption.map
        fun data => (snapshot.handle, data) := by
  obtain ⟨entry, present, same⟩ := Option.map_eq_some_iff.mp found
  obtain ⟨-, sameSerial, sameInfo⟩ := ConnectionSnapshot.mk.inj same
  have cached := profiles _ entry present
  rw [sameInfo] at cached
  rw [deliverable, present, groupEncode_eq cached, ConnectionSnapshot.handle, ← sameSerial,
    ← sameInfo]

/-- Where the bytes for one handle come from is determined by the handle. -/
theorem deliverable_handle {manager : ConnectionManager} {id : String} {handle : WriteHandle}
    {data : Wire} (arrives : deliverable registries gate frame manager id = some (handle, data)) :
    handle.connectionId = id := by
  unfold deliverable at arrives
  split at arrives
  · cases arrives
  · split_ifs at arrives
    obtain ⟨data', -, same⟩ := Option.map_eq_some_iff.mp arrives
    rw [← (Prod.mk.inj same).1]

/-- The bytes that arrive at one handle when a frame is sent to each id of a list. -/
def arrivals (registries : Registries) (gate : Frame → Bool) (frame : Frame)
    (manager : ConnectionManager) (handle : WriteHandle) (ids : List String) : List Wire :=
  ids.filterMap fun id => (deliverable registries gate frame manager id).bind fun arrived =>
    if arrived.1 = handle then some arrived.2 else none

/-- What arrives at one handle is always the same, so that the order does not matter. -/
theorem arrivals_perm {manager : ConnectionManager} {handle : WriteHandle}
    {first second : List String} (perm : first.Perm second) :
    arrivals registries gate frame manager handle first =
      arrivals registries gate frame manager handle second := by
  have permuted : (arrivals registries gate frame manager handle first).Perm
    (arrivals registries gate frame manager handle second) := perm.filterMap _
  have determined : ∀ data ∈ arrivals registries gate frame manager handle second,
      deliverable registries gate frame manager handle.connectionId = some (handle, data) := by
    intro data member
    obtain ⟨id, -, arrives⟩ := List.mem_filterMap.mp member
    obtain ⟨⟨place, data'⟩, delivered, here⟩ := Option.bind_eq_some_iff.mp arrives
    split_ifs at here with same
    obtain rfl := Option.some.inj here
    obtain rfl := same
    rw [deliverable_handle delivered, delivered]
  cases found : arrivals registries gate frame manager handle second with
  | nil =>
      rw [found] at permuted
      exact permuted.eq_nil
  | cons data rest =>
      have same : arrivals registries gate frame manager handle second =
          List.replicate (arrivals registries gate frame manager handle second).length data := by
        refine List.eq_replicate_of_mem ?_
        intro other member
        have one := determined data (found ▸ List.mem_cons_self)
        have two := determined other member
        rw [one] at two
        exact (Prod.mk.inj (Option.some.inj two)).2.symm
      rw [← found]
      rw [same] at permuted
      exact (List.perm_replicate.mp permuted).trans same.symm

omit [RustText] in
theorem regrouped_ids_perm (enumeration : Enumeration CodecProfile) (manager : ConnectionManager)
    (ids : List String) :
    ((regrouped enumeration (manager.connectionSnapshotsForIds ids)).map
      ConnectionSnapshot.connectionId).Perm
      (ids.filter fun id => (manager.connections.get id).isSome) :=
  ((regrouped_perm enumeration _).map _).trans (manager.snapshot_ids_perm ids)

section Grouped

variable {manager : ConnectionManager} {ids : List String}
  (enumeration : Enumeration CodecProfile)

omit [RustText] in
theorem getConnectionSnapshot_of_mem_regrouped {snapshot : ConnectionSnapshot}
    (member : snapshot ∈ regrouped enumeration (manager.connectionSnapshotsForIds ids)) :
    manager.getConnectionSnapshot snapshot.connectionId = some snapshot :=
  getConnectionSnapshot_of_mem ((regrouped_perm enumeration _).mem_iff.mp member)

omit [RustText] in
theorem agrees_regrouped : ∀ snapshot ∈ regrouped enumeration
    (manager.connectionSnapshotsForIds ids), Agrees manager snapshot :=
  fun _ member => agrees_of_getConnectionSnapshot
    (getConnectionSnapshot_of_mem_regrouped enumeration member)

omit [RustText] in
theorem RoomFor.ofSnapshots (room : RoomFor manager ids) :
    Room manager (regrouped enumeration (manager.connectionSnapshotsForIds ids)) := by
  intro snapshot member
  obtain ⟨entry, present, same⟩ := Option.map_eq_some_iff.mp
    (getConnectionSnapshot_of_mem_regrouped enumeration member)
  have space := room snapshot.connectionId entry present
  have handle : snapshot.handle = ⟨snapshot.connectionId, entry.serial⟩ := by
    rw [ConnectionSnapshot.handle, (ConnectionSnapshot.mk.inj same).2.1]
  have repeated : (regrouped enumeration (manager.connectionSnapshotsForIds ids)).countP
      (fun other => other.handle = snapshot.handle) ≤ ids.count snapshot.connectionId := by
    calc (regrouped enumeration (manager.connectionSnapshotsForIds ids)).countP
          (fun other => other.handle = snapshot.handle)
        ≤ (regrouped enumeration (manager.connectionSnapshotsForIds ids)).countP
            (fun other => other.connectionId = snapshot.connectionId) := by
          refine List.countP_mono_left ?_
          intro other _ sameHandle
          exact decide_eq_true (congrArg WriteHandle.connectionId (of_decide_eq_true sameHandle))
      _ = ((regrouped enumeration (manager.connectionSnapshotsForIds ids)).map
            ConnectionSnapshot.connectionId).count snapshot.connectionId := by
          rw [List.count_eq_countP, List.countP_map]
          rfl
      _ = (ids.filter fun id => (manager.connections.get id).isSome).count
            snapshot.connectionId := (regrouped_ids_perm enumeration manager ids).count_eq _
      _ ≤ ids.count snapshot.connectionId := List.filter_sublist.count_le _
  rw [handle] at repeated ⊢
  omega

/-- The grouped fan-out serves the ids at which the frame arrives. -/
theorem length_grouped (profiles : ParsersMatch manager) (room : RoomFor manager ids) :
    (fanout (groupEncode registries gate frame) (manager, [])
        (regrouped enumeration (manager.connectionSnapshotsForIds ids))).2.length =
      ids.countP fun id => (deliverable registries gate frame manager id).isSome := by
  calc (fanout (groupEncode registries gate frame) (manager, [])
        (regrouped enumeration (manager.connectionSnapshotsForIds ids))).2.length
      = 0 + (regrouped enumeration (manager.connectionSnapshotsForIds ids)).countP (fun snapshot =>
          (groupEncode registries gate frame snapshot).toOption.isSome &&
            !(manager.queues snapshot.handle).closed) :=
        length_fanout (agrees_regrouped enumeration) (room.ofSnapshots enumeration)
    _ = (regrouped enumeration (manager.connectionSnapshotsForIds ids)).countP (fun snapshot =>
          (deliverable registries gate frame manager snapshot.connectionId).isSome) := by
        rw [Nat.zero_add]
        refine List.countP_congr ?_
        intro snapshot member
        rw [deliverable_of_snapshot profiles
          (getConnectionSnapshot_of_mem_regrouped enumeration member)]
        cases (manager.queues snapshot.handle).closed <;> simp
    _ = ((regrouped enumeration (manager.connectionSnapshotsForIds ids)).map
          ConnectionSnapshot.connectionId).countP (fun id =>
            (deliverable registries gate frame manager id).isSome) := by
        rw [List.countP_map]
        rfl
    _ = (ids.filter fun id => (manager.connections.get id).isSome).countP (fun id =>
          (deliverable registries gate frame manager id).isSome) :=
        (regrouped_ids_perm enumeration manager ids).countP_eq _
    _ = ids.countP fun id => (deliverable registries gate frame manager id).isSome := by
        rw [List.countP_filter]
        refine List.countP_congr ?_
        intro id _
        unfold deliverable
        cases manager.connections.get id <;> simp

/-- The grouped fan-out adds to each queue what arrives there. -/
theorem items_grouped (profiles : ParsersMatch manager) (room : RoomFor manager ids)
    (handle : WriteHandle) :
    ((fanout (groupEncode registries gate frame) (manager, [])
        (regrouped enumeration (manager.connectionSnapshotsForIds ids))).1.queues handle).items =
      (manager.queues handle).items ++ arrivals registries gate frame manager handle ids := by
  have added : ((fanout (groupEncode registries gate frame) (manager, [])
        (regrouped enumeration (manager.connectionSnapshotsForIds ids))).1.queues handle).items =
      (manager.queues handle).items ++
        (regrouped enumeration (manager.connectionSnapshotsForIds ids)).filterMap fun snapshot =>
          if snapshot.handle = handle ∧ (manager.queues handle).closed = false then
            (groupEncode registries gate frame snapshot).toOption else none :=
    items_fanout (agrees_regrouped enumeration) (room.ofSnapshots enumeration) handle
  refine added.trans (congrArg _ ?_)
  calc (regrouped enumeration (manager.connectionSnapshotsForIds ids)).filterMap (fun snapshot =>
        if snapshot.handle = handle ∧ (manager.queues handle).closed = false then
          (groupEncode registries gate frame snapshot).toOption else none)
      = arrivals registries gate frame manager handle
          ((regrouped enumeration (manager.connectionSnapshotsForIds ids)).map
            ConnectionSnapshot.connectionId) := by
        rw [arrivals, List.filterMap_map]
        refine List.filterMap_congr ?_
        intro snapshot member
        rw [Function.comp_apply, deliverable_of_snapshot profiles
          (getConnectionSnapshot_of_mem_regrouped enumeration member)]
        by_cases here : snapshot.handle = handle
        · subst here
          cases (manager.queues snapshot.handle).closed <;>
            cases (groupEncode registries gate frame snapshot).toOption <;> simp
        · cases (manager.queues snapshot.handle).closed <;>
            cases (groupEncode registries gate frame snapshot).toOption <;> simp [here]
    _ = arrivals registries gate frame manager handle
          (ids.filter fun id => (manager.connections.get id).isSome) :=
        arrivals_perm (regrouped_ids_perm enumeration manager ids)
    _ = arrivals registries gate frame manager handle ids := by
        rw [arrivals, arrivals, List.filterMap_filter]
        refine List.filterMap_congr ?_
        intro id _
        unfold deliverable
        cases manager.connections.get id <;> simp

end Grouped

omit [Hashing] [RustText] in
theorem saturatingSub_ofNat {total success : Nat} (bounded : success ≤ total)
    (short : total < 2 ^ 31) :
    saturatingSub (Int32.ofNat total) (Int32.ofNat success) = Int32.ofNat (total - success) := by
  rw [← Int32.toInt_inj, saturatingSub, Int32.toInt_ofNat_of_lt short,
    Int32.toInt_ofNat_of_lt (by omega), Int32.toInt_ofNat_of_lt (by omega)]
  have lower : Int32.minValue.toInt ≤ (total : Int) - success := by
    have least : Int32.minValue.toInt = -2 ^ 31 := by decide
    omega
  have upper : (total : Int) - success ≤ Int32.maxValue.toInt := by
    have most : Int32.maxValue.toInt = 2 ^ 31 - 1 := by decide
    omega
  rw [Int32.toInt_ofIntClamp lower upper]
  omega

omit [Hashing] [RustText] in
theorem ofNat_inj {first second : Nat} (firstShort : first < 2 ^ 31) (secondShort : second < 2 ^ 31) :
    Int32.ofNat first = Int32.ofNat second ↔ first = second := by
  rw [← Int32.toInt_inj, Int32.toInt_ofNat_of_lt firstShort, Int32.toInt_ofNat_of_lt secondShort]
  omega

/-- **The grouped fan-out and the default agree exactly if no listed id is missing.**  They
agree when they put the same frames on the same queues and return the same counts. -/
theorem grouped_agrees_iff_all_present (registries : Registries)
    (enumeration : Enumeration CodecProfile) (manager : ConnectionManager) (ids : List String)
    (frame : Frame) (now : Instant) (profiles : ParsersMatch manager) (room : RoomFor manager ids)
    (short : ids.length < 2 ^ 31) :
    ((∀ handle,
        ((fanoutFrameGroupedByEncoding registries frameAllowedBeforeAuth enumeration manager ids
          frame now).1.queues handle).items =
        ((manager.sendFrameToEach registries frameAllowedBeforeAuth ids frame now).1.queues
          handle).items) ∧
      (fanoutFrameGroupedByEncoding registries frameAllowedBeforeAuth enumeration manager ids
          frame now).2 =
        (manager.sendFrameToEach registries frameAllowedBeforeAuth ids frame now).2) ↔
      ∀ id ∈ ids, (manager.connections.get id).isSome := by
  obtain ⟨counts, items⟩ : (manager.sendFrameToEach registries frameAllowedBeforeAuth ids frame
      now).2 = _ ∧ _ := foldl_sendFrameTo now room (0, 0)
  have sameItems : ∀ handle,
      ((fanoutFrameGroupedByEncoding registries frameAllowedBeforeAuth enumeration manager ids frame
        now).1.queues handle).items =
      ((manager.sendFrameToEach registries frameAllowedBeforeAuth ids frame now).1.queues
        handle).items := by
    intro handle
    rw [fanoutFrameGroupedByEncoding_eq]
    dsimp only
    rw [updateConnectionsActive_queues, items_grouped enumeration profiles room, arrivals,
      ← List.filterMap_filterMap]
    exact (items handle).symm
  rw [and_iff_right sameItems, fanoutFrameGroupedByEncoding_eq, counts]
  dsimp only
  rw [length_grouped enumeration profiles room, length_connectionSnapshotsForIds]
  have split := List.length_eq_countP_add_countP
    (fun id => (deliverable registries frameAllowedBeforeAuth frame manager id).isSome) (l := ids)
  simp only [Bool.not_eq_true, Bool.decide_eq_false] at split
  have arrived : ids.countP (fun id =>
      (deliverable registries frameAllowedBeforeAuth frame manager id).isSome) ≤
      ids.countP fun id => (manager.connections.get id).isSome := by
    refine List.countP_mono_left ?_
    intro id _ arrives
    unfold deliverable at arrives
    cases found : manager.connections.get id with
    | none => simp [found] at arrives
    | some entry => rfl
  have listed : (ids.countP fun id => (manager.connections.get id).isSome) ≤ ids.length :=
    List.countP_le_length
  rw [saturatingSub_ofNat arrived (by omega), Int32.zero_add, Int32.zero_add, Prod.mk.injEq,
    and_iff_right rfl, ofNat_inj (by omega) (by omega), ← List.countP_eq_length]
  omega

end ConnectionManager

end Regrouping

/-! ## Concrete states -/

section Run

open scoped SingleShard AsciiText

namespace ConnectionManager

/-- A serializer that writes the message id. -/
def idSerializer : Serializer where
  serialize frame := .ok (utf8 frame.messageId)
  deserialize _ := .error (.deserializationError "write only")
  canDetect _ := false

def idRegistries : Registries where
  serializers := (∅ : StringMap Serializer).insert "json" idSerializer
  compressors := ∅
  encryptors := ∅

def sampleFrame : Frame := ⟨none, "m", 0, 0, ∅⟩

/-- A manager with two connections that need no authentication. -/
def pairManager : ConnectionManager :=
  (((new 8).addConnection "a" 0 none false 0).1.addConnection "b" 1 none false 0).1

theorem grouped_agrees_iff_all_present_pair :
    (∀ handle,
      ((fanoutFrameGroupedByEncoding idRegistries frameAllowedBeforeAuth ⟨id, fun _ => .rfl⟩
        pairManager ["a", "b", "a"] sampleFrame 0).1.queues handle).items =
      ((pairManager.sendFrameToEach idRegistries frameAllowedBeforeAuth ["a", "b", "a"] sampleFrame
        0).1.queues handle).items) ∧
    (fanoutFrameGroupedByEncoding idRegistries frameAllowedBeforeAuth ⟨id, fun _ => .rfl⟩
        pairManager ["a", "b", "a"] sampleFrame 0).2 =
      (pairManager.sendFrameToEach idRegistries frameAllowedBeforeAuth ["a", "b", "a"] sampleFrame
        0).2 := by
  have profiles : ∀ binding ∈ pairManager.connections.bindings,
      ∀ parser ∈ binding.2.info.cachedParser, parser = .new binding.2.info.serializationFormat
        binding.2.info.compression binding.2.info.encryption := by
    decide +kernel
  have room : ∀ binding ∈ pairManager.connections.bindings,
      (pairManager.queues ⟨binding.1, binding.2.serial⟩).items.length +
          ["a", "b", "a"].count binding.1 ≤
        (pairManager.queues ⟨binding.1, binding.2.serial⟩).capacity := by
    decide +kernel
  refine (grouped_agrees_iff_all_present idRegistries ⟨id, fun _ => .rfl⟩ pairManager
    ["a", "b", "a"] sampleFrame 0 ?_ ?_ (by decide)).mpr (by decide +kernel)
  · intro id entry found
    exact profiles (id, entry) (ShardedMap.mem_bindings.mpr found)
  · intro id entry found
    exact room (id, entry) (ShardedMap.mem_bindings.mpr found)

/-- An id without a connection is a failure for the default only. -/
theorem grouped_ignores_missing_id :
    ParsersMatch (new 8) ∧ RoomFor (new 8) ["ghost"] ∧
    (fanoutFrameGroupedByEncoding idRegistries frameAllowedBeforeAuth ⟨id, fun _ => .rfl⟩ (new 8)
        ["ghost"] sampleFrame 0).2 ≠
      ((new 8).sendFrameToEach idRegistries frameAllowedBeforeAuth ["ghost"] sampleFrame 0).2 := by
  have empty : ∀ id entry, (new 8).connections.get id ≠ some entry := by
    intro id entry found
    rw [new, ShardedMap.get_empty] at found
    cases found
  refine ⟨?_, ?_, by decide +kernel⟩
  · intro id entry found
    exact absurd found (empty id entry)
  · intro id entry found
    exact absurd found (empty id entry)

end ConnectionManager

end Run

end FlareCore.Server
