import FlareCore.Server.Runtime

/-!
# What the steps of the runtime keep

Whatever a task does to the connection manager, an entry of the table is the entry that was
there before: it may be gone, it may be authenticated now, but whether its negotiation is
completed has not changed.  There are two exceptions, the acceptance of a new connection and
the completion of a negotiation by the connection's own consumer, and both concern a single
connection.  Nor does a task put anything into a write queue, except by a send.

The invariants of whole runs are derived from these facts and never look inside the manager.
-/

namespace FlareCore.Server

open FlareCore.Common FlareCore.Foundations

set_option autoImplicit false

/-- What every update of a connection keeps, but the completion of its negotiation. -/
structure ConnectionInfo.Follows (before after : ConnectionInfo) : Prop where
  authenticated : before.authenticated = true → after.authenticated = true
  negotiationCompleted : after.negotiationCompleted = before.negotiationCompleted

theorem ConnectionInfo.Follows.refl (info : ConnectionInfo) : info.Follows info :=
  ⟨id, rfl⟩

/-- The updates that do not complete a negotiation. -/
def InfoUpdate.completes : InfoUpdate → Bool
  | .negotiationWithPipeline _ _ _ => true
  | .bindUser _ | .setAuthenticated _ | .negotiation _ _ => false

/-- The updates that only say who is connected. -/
def InfoUpdate.identifies : InfoUpdate → Bool
  | .bindUser _ | .setAuthenticated _ => true
  | .negotiation _ _ | .negotiationWithPipeline _ _ _ => false

theorem InfoUpdate.completes_of_identifies (update : InfoUpdate)
    (identifies : update.identifies = true) : update.completes = false := by
  cases update with
  | bindUser userId => rfl
  | setAuthenticated userId => rfl
  | negotiation negotiation metadata => rfl
  | negotiationWithPipeline negotiation parser pipeline => cases identifies

theorem InfoUpdate.follows_apply {update : InfoUpdate} (open_ : update.completes = false)
    (now : Instant) (info : ConnectionInfo) : info.Follows (update.apply now info) := by
  cases update with
  | bindUser userId => exact ⟨id, rfl⟩
  | setAuthenticated userId => exact ⟨fun _ => rfl, rfl⟩
  | negotiation profile metadata => exact ⟨id, rfl⟩
  | negotiationWithPipeline profile parser pipeline => cases open_

section Evolution

variable [Hashing]

namespace ConnectionManager

/-! ## Single connections -/

/-- The connection is the one it was, or gone. -/
def KeepsConnection (before after : ConnectionManager) (id : String) : Prop :=
  ∀ entry, after.connections.get id = some entry →
    ∃ earlier, before.connections.get id = some earlier ∧ earlier.info.Follows entry.info

theorem KeepsConnection.of_get {before after : ConnectionManager} {id : String}
    (same : ∀ entry, after.connections.get id = some entry →
      before.connections.get id = some entry) : KeepsConnection before after id :=
  fun entry found => ⟨entry, same entry found, .refl entry.info⟩

theorem KeepsConnection.trans {first second third : ConnectionManager} {id : String}
    (earlier : KeepsConnection first second id) (later : KeepsConnection second third id) :
    KeepsConnection first third id := by
  intro entry found
  obtain ⟨middle, foundMiddle, follows⟩ := later entry found
  obtain ⟨start, foundStart, followed⟩ := earlier middle foundMiddle
  exact ⟨start, foundStart, fun authenticated => follows.authenticated
    (followed.authenticated authenticated),
    follows.negotiationCompleted.trans followed.negotiationCompleted⟩

/-! ## The manager -/

/-- No connection is added or completed, and nothing is put into a queue. -/
structure Tame (before after : ConnectionManager) : Prop where
  connections : ∀ id, KeepsConnection before after id
  items : ∀ handle data, data ∈ (after.queues handle).items → data ∈ (before.queues handle).items

theorem Tame.of_eq {before after : ConnectionManager}
    (connections : after.connections = before.connections) (queues : after.queues = before.queues) :
    Tame before after where
  connections id := .of_get fun entry found => by rwa [connections] at found
  items handle data member := by rwa [queues] at member

theorem Tame.refl (manager : ConnectionManager) : Tame manager manager :=
  .of_eq rfl rfl

theorem Tame.trans {first second third : ConnectionManager} (earlier : Tame first second)
    (later : Tame second third) : Tame first third where
  connections id := (earlier.connections id).trans (later.connections id)
  items handle data member := earlier.items handle data (later.items handle data member)

/-- Connections are only removed, and so are the contents of the queues. -/
structure Shrinks (before after : ConnectionManager) : Prop where
  connections : ∀ id entry, after.connections.get id = some entry →
    before.connections.get id = some entry
  items : ∀ handle data, data ∈ (after.queues handle).items → data ∈ (before.queues handle).items

namespace Shrinks

theorem of_eq {before after : ConnectionManager} (connections : after.connections = before.connections)
    (queues : after.queues = before.queues) : Shrinks before after where
  connections id entry found := by rwa [connections] at found
  items handle data member := by rwa [queues] at member

theorem refl (manager : ConnectionManager) : Shrinks manager manager :=
  .of_eq rfl rfl

theorem trans {first second third : ConnectionManager} (earlier : Shrinks first second)
    (later : Shrinks second third) : Shrinks first third where
  connections id entry found := earlier.connections id entry (later.connections id entry found)
  items handle data member := earlier.items handle data (later.items handle data member)

theorem tame {before after : ConnectionManager} (shrinks : Shrinks before after) :
    Tame before after where
  connections id := .of_get (shrinks.connections id)
  items := shrinks.items

end Shrinks

theorem insertOwnerConnection_queues (manager : ConnectionManager) (owner : Option DeviceOwner)
    (id : String) : (manager.insertOwnerConnection owner id).queues = manager.queues := by
  cases owner <;> rfl

variable (manager : ConnectionManager)

theorem shrinks_insertOwnerConnection (owner : Option DeviceOwner) (id : String) :
    Shrinks manager (manager.insertOwnerConnection owner id) :=
  .of_eq (insertOwnerConnection_connections ..) (insertOwnerConnection_queues ..)

theorem shrinks_removeOwnerConnection (owner : Option DeviceOwner) (id : String) :
    Shrinks manager (manager.removeOwnerConnection owner id) :=
  .of_eq (removeOwnerConnection_connections ..) (removeOwnerConnection_queues ..)

theorem shrinks_eraseEntry (id : String) : Shrinks manager (manager.eraseEntry id) where
  connections other entry found := by
    rw [eraseEntry, ShardedMap.get_erase] at found
    split_ifs at found
    exact found
  items _ _ member := member

theorem shrinks_closeQueue (handle : WriteHandle) :
    Shrinks manager (manager.closeQueue handle) where
  connections _ _ found := found
  items other data member := by
    unfold closeQueue at member
    dsimp only at member
    by_cases same : other = handle
    · subst same
      rwa [Function.update_self] at member
    · rwa [Function.update_of_ne same] at member

theorem shrinks_releaseConnectionSlots (slots : Nat) :
    Shrinks manager (manager.releaseConnectionSlots slots) :=
  .of_eq rfl rfl

theorem shrinks_removeConnection (id : String) :
    Shrinks manager (manager.removeConnection id).1 := by
  unfold removeConnection
  split
  · exact .refl manager
  · exact (((manager.shrinks_eraseEntry id).trans (shrinks_closeQueue _ _)).trans
      (shrinks_releaseConnectionSlots _ 1)).trans (shrinks_removeOwnerConnection _ _ id)

theorem shrinks_registryRemoveConnection (id : String) :
    Shrinks manager (manager.registryRemoveConnection id).1 := by
  unfold registryRemoveConnection
  split
  · exact .refl manager
  · exact ((manager.shrinks_eraseEntry id).trans (shrinks_releaseConnectionSlots _ 1)).trans
      (shrinks_removeOwnerConnection _ _ id)

theorem shrinks_takeEntries (removed : Removed) (ids : List String) :
    Shrinks manager (takeEntries manager removed ids).1 := by
  induction ids generalizing manager removed with
  | nil => exact .refl manager
  | cons id ids inductionHypothesis =>
      unfold takeEntries
      split
      · exact inductionHypothesis manager removed
      · exact ((manager.shrinks_eraseEntry id).trans (shrinks_closeQueue _ _)).trans
          (inductionHypothesis _ _)

theorem shrinks_removeUserConnectionsBatch (entries : List (DeviceOwner × String)) :
    Shrinks manager (manager.removeUserConnectionsBatch entries) := by
  have groups : ∀ (groups : List (List (DeviceOwner × String))) (state : ConnectionManager × Nat),
      Shrinks state.1 (groups.foldl (fun state group =>
        ((state.1.removeIndexEntries group).1, state.2 + (state.1.removeIndexEntries group).2))
        state).1 := by
    intro groups
    induction groups with
    | nil => exact fun state => .refl state.1
    | cons group groups inductionHypothesis =>
        intro state
        have first : Shrinks state.1 (state.1.removeIndexEntries group).1 := .of_eq rfl rfl
        exact first.trans (inductionHypothesis
          ((state.1.removeIndexEntries group).1, state.2 + (state.1.removeIndexEntries group).2))
  exact (groups (userGroups entries) (manager, 0)).trans (.of_eq rfl rfl)

theorem shrinks_removeConnectionSnapshots (ids : List String) :
    Shrinks manager (manager.removeConnectionSnapshots ids).1 := by
  unfold removeConnectionSnapshots
  rw [foldl_takeEntries]
  exact ((manager.shrinks_takeEntries _ _).trans (shrinks_releaseConnectionSlots _ _)).trans
    (shrinks_removeUserConnectionsBatch _ _)

variable {manager} in
theorem tame_writeInfo {id : String} {entry : ConnectionEntry} {info : ConnectionInfo}
    (found : manager.connections.get id = some entry) (follows : entry.info.Follows info) :
    Tame manager (manager.writeInfo id entry info) where
  connections other later present := by
    rw [writeInfo, ShardedMap.get_insert] at present
    split_ifs at present with same
    · obtain rfl := Option.some.inj present
      exact ⟨entry, same ▸ found, follows⟩
    · exact ⟨later, present, .refl _⟩
  items _ _ member := member

theorem tame_touch (id : String) (now : Instant) : Tame manager (manager.touch id now) := by
  unfold touch
  split
  · exact .refl manager
  · next found => exact tame_writeInfo found ⟨fun authenticated => authenticated, rfl⟩

theorem tame_touchAll (ids : List String) (now : Instant) :
    Tame manager (ids.foldl (fun manager id => manager.touch id now) manager) := by
  induction ids generalizing manager with
  | nil => exact .refl manager
  | cons id ids inductionHypothesis =>
      exact (manager.tame_touch id now).trans (inductionHypothesis _)

theorem tame_markNegotiationConfirmed (id : String) :
    Tame manager (manager.markNegotiationConfirmed id).1 := by
  unfold markNegotiationConfirmed
  split
  · exact .refl manager
  · next found =>
      split_ifs
      · exact tame_writeInfo found ⟨fun authenticated => authenticated, rfl⟩
      · exact .refl manager

theorem tame_updateConnection (id : String) {update : InfoUpdate}
    (open_ : update.completes = false) (now : Instant) :
    Tame manager (manager.updateConnection id update now).1 := by
  unfold updateConnection
  split
  · exact .refl manager
  · next entry found =>
      exact ((tame_writeInfo found (InfoUpdate.follows_apply open_ now entry.info)).trans
        (shrinks_removeOwnerConnection _ _ id).tame).trans
          (shrinks_insertOwnerConnection _ _ id).tame

/-- All that a task may do to the manager, but for a send: it removes connections, refreshes
them, confirms a negotiation, or makes one of the updates that it may make. -/
inductive Changes (may : String → InfoUpdate → Prop) (before : ConnectionManager) :
    ConnectionManager → Prop where
  | shrinks {after : ConnectionManager} (shrinks : Shrinks before after) : Changes may before after
  | touched (ids : List String) (now : Instant) :
      Changes may before (ids.foldl (fun manager id => manager.touch id now) before)
  | confirmed (id : String) : Changes may before (before.markNegotiationConfirmed id).1
  | updated (id : String) (update : InfoUpdate) (now : Instant) (permitted : may id update) :
      Changes may before (before.updateConnection id update now).1

theorem Changes.tame {may : String → InfoUpdate → Prop} {before after : ConnectionManager}
    (changes : Changes may before after)
    (open_ : ∀ id update, may id update → update.completes = false) : Tame before after := by
  cases changes with
  | shrinks shrinks => exact shrinks.tame
  | touched ids now => exact before.tame_touchAll ids now
  | confirmed id => exact before.tame_markNegotiationConfirmed id
  | updated id update now permitted =>
      exact before.tame_updateConnection id (open_ id update permitted) now

/-- What a send puts into a queue is what was encoded for its snapshot. -/
theorem items_sendEncoded (encode : ConnectionSnapshot → Result Wire)
    (snapshot : ConnectionSnapshot) (handle : WriteHandle) (data : Wire)
    (member : data ∈ ((manager.sendEncoded encode snapshot).1.queues handle).items) :
    data ∈ (manager.queues handle).items ∨
      handle = snapshot.handle ∧ encode snapshot = .ok data := by
  unfold sendEncoded at member
  cases encoded : encode snapshot with
  | error error =>
      rw [encoded] at member
      exact Or.inl member
  | ok sent =>
      rw [encoded] at member
      unfold sendToConnectionHandle WriteQueue.tryEnqueue at member
      dsimp only at member
      split_ifs at member
      · exact Or.inl (((manager.shrinks_closeQueue _).trans (shrinks_removeConnection _ _)).items
          handle data member)
      · exact Or.inl (((manager.shrinks_closeQueue _).trans (shrinks_removeConnection _ _)).items
          handle data member)
      · dsimp only at member
        by_cases same : handle = snapshot.handle
        · subst same
          rw [Function.update_self] at member
          rcases List.mem_append.mp member with earlier | added
          · exact Or.inl earlier
          · rw [List.mem_singleton.mp added]
            exact Or.inr ⟨rfl, rfl⟩
        · rw [Function.update_of_ne same] at member
          exact Or.inl member

theorem keepsConnection_sendEncoded (encode : ConnectionSnapshot → Result Wire)
    (snapshot : ConnectionSnapshot) (id : String) :
    KeepsConnection manager (manager.sendEncoded encode snapshot).1 id :=
  .of_get fun _ found => get_of_get_sendEncoded found

/-- The completion of a negotiation concerns one connection. -/
theorem keepsConnection_completeNegotiation (core : ServerCore) {id other : String}
    (distinct : other ≠ id) (device : Option DeviceInfo) (userId : Option String)
    (profile : Profile) (now : Instant) :
    KeepsConnection manager (manager.completeNegotiation core id device userId profile now)
      other :=
  .of_get fun _ found => (get_updateConnection_of_ne distinct _ now).symm.trans found

theorem queues_updateConnection (id : String) (update : InfoUpdate) (now : Instant) :
    (manager.updateConnection id update now).1.queues = manager.queues := by
  unfold updateConnection
  split
  · rfl
  · simp only [reindexUserConnection, insertOwnerConnection_queues, removeOwnerConnection_queues,
      writeInfo_queues]

/-! ## Accepting -/

/-- A connection after an acceptance was there before, or it is new. -/
theorem get_of_get_addConnectionWithLimit {manager manager' : ConnectionManager}
    {id other : String} {connection : ConnectionHandle} {requiresAuth : Bool}
    {maxConnections : UInt64} {now : Instant} {answer : Result Unit} {entry : ConnectionEntry}
    (added : manager.addConnectionWithLimit id connection none requiresAuth maxConnections now =
      (manager', answer)) (found : manager'.connections.get other = some entry) :
    manager.connections.get other = some entry ∨
      other = id ∧ entry.info = initialInfo id none requiresAuth now := by
  unfold addConnectionWithLimit at added
  split_ifs at added
  · obtain ⟨rfl, -⟩ := Prod.mk.inj added
    exact Or.inl found
  · obtain ⟨rfl, -⟩ := Prod.mk.inj added
    exact Or.inl found
  · obtain ⟨rfl, -⟩ := Prod.mk.inj added
    rw [insertOwnerConnection_connections, insertEntry, ShardedMap.get_insert] at found
    split_ifs at found with same
    · rw [← Option.some.inj found]
      exact Or.inr ⟨same, rfl⟩
    · exact Or.inl found

/-- A new connection has an empty queue. -/
theorem items_addConnectionWithLimit {manager manager' : ConnectionManager} {id : String}
    {connection : ConnectionHandle} {requiresAuth : Bool} {maxConnections : UInt64} {now : Instant}
    {answer : Result Unit} (added : manager.addConnectionWithLimit id connection none requiresAuth
      maxConnections now = (manager', answer)) :
    ∀ handle data, data ∈ (manager'.queues handle).items →
      data ∈ (manager.queues handle).items := by
  unfold addConnectionWithLimit at added
  split_ifs at added
  · obtain ⟨rfl, -⟩ := Prod.mk.inj added
    exact fun _ _ member => member
  · obtain ⟨rfl, -⟩ := Prod.mk.inj added
    exact fun _ _ member => member
  · obtain ⟨rfl, -⟩ := Prod.mk.inj added
    intro handle data member
    rw [insertOwnerConnection_queues, insertEntry] at member
    dsimp only at member
    by_cases same : handle = ⟨id, manager.reserveConnectionSlot.nextSerial⟩
    · rw [same, Function.update_self] at member
      cases member
    · rwa [Function.update_of_ne same] at member

end ConnectionManager

/-! ## Tasks -/

section Steps

variable [RustText] (setting : Setting) (world : World) (answer : Answer)

open ConnectionManager

/-- What a job does to the manager, unless it is a send. -/
theorem Job.changes_perform (job : Job) (quiet : ∀ fanout, job ≠ .deliver fanout) :
    Changes (fun _ update => update.identifies = true) world.manager
      (job.perform setting.registries setting.stamps setting.enumeration world answer).manager := by
  cases job with
  | systemCommand id frame received =>
      simp only [perform, World.handleSystemCommand]
      split <;> exact .shrinks (.of_eq rfl rfl)
  | updateActive id => exact .touched [id] world.clock
  | confirmNegotiation id => exact .confirmed id
  | read reads fanout => cases reads <;> exact .shrinks (.of_eq rfl rfl)
  | deliver fanout => exact absurd rfl (quiet fanout)
  | activate now groups =>
      cases groups with
      | nil => exact .shrinks (.of_eq rfl rfl)
      | cons group groups => exact .touched group now
  | bindUser id userId => exact .updated id (.bindUser userId) world.clock rfl
  | setAuthenticated id userId => exact .updated id (.setAuthenticated userId) world.clock rfl
  | removeDisconnected id => exact .shrinks (world.manager.shrinks_removeConnection id)
  | disconnect id => exact .shrinks (world.manager.shrinks_removeConnection id)
  | isolate id => exact .shrinks (world.manager.shrinks_registryRemoveConnection id)
  | evict ids => exact .shrinks (world.manager.shrinks_removeConnectionSnapshots ids)
  | _ => exact .shrinks (.of_eq rfl rfl)

/-- A job is tame, or it is a send. -/
theorem Job.tame_perform (job : Job) (quiet : ∀ fanout, job ≠ .deliver fanout) :
    Tame world.manager (job.perform setting.registries setting.stamps setting.enumeration world
      answer).manager := by
  refine (job.changes_perform setting world answer quiet).tame ?_
  exact fun _ update identifies => update.completes_of_identifies identifies

/-- No job adds or completes a connection. -/
theorem Job.keepsConnection_perform (job : Job) (id : String) :
    KeepsConnection world.manager (job.perform setting.registries setting.stamps
      setting.enumeration world answer).manager id := by
  by_cases sends : ∃ fanout, job = .deliver fanout
  · obtain ⟨fanout, rfl⟩ := sends
    simp only [perform, World.deliver]
    split
    · exact .of_get fun _ found => found
    · exact world.manager.keepsConnection_sendEncoded _ _ id
  · exact (job.tame_perform setting world answer fun fanout same => sends ⟨fanout, same⟩).connections
      id

omit [RustText] in
theorem World.manager_explain (world : World) (id : String) (encoded : Result Wire) :
    (world.explain id encoded).manager = world.manager := by
  cases encoded <;> rfl

/-- The updates that a consumer makes, to its own connection. -/
def Consumer.MayUpdate (id : String) (consumer : Consumer) (other : String) (update : InfoUpdate) :
    Prop :=
  other = id ∧
    match consumer with
    | .informing acceptance => ∃ negotiation metadata, update = .negotiation negotiation metadata ∧
        negotiation.userId = acceptance.identity.userId
    | .marking acceptance => update = .setAuthenticated acceptance.identity.userId
    | .storing profile device userId => ∃ pipeline, update = .negotiationWithPipeline
        ⟨device, profile.format, profile.compression, profile.encryption, userId⟩ profile.parser
        pipeline
    | _ => False

/-- What a consumer does to the manager. -/
theorem World.changes_consume (id : String) (consumer : Consumer) :
    Changes (consumer.MayUpdate id) world.manager
      (world.consume setting id answer consumer).1.manager := by
  cases consumer with
  | receive =>
      simp only [consume, takeUp]
      split
      · exact .shrinks (.refl _)
      · split_ifs <;> exact .shrinks (.of_eq rfl rfl)
  | taken data received => exact .touched [id] world.clock
  | negotiated data info received =>
      simp only [consume, handleNegotiatedMessage]
      split_ifs
      · exact .confirmed id
      · split <;> exact .shrinks (.refl _)
  | handling frame received =>
      simp only [consume, handleFrame]
      split <;> try split_ifs
      all_goals exact .shrinks (.of_eq rfl rfl)
  | informing acceptance => exact .updated id _ world.clock ⟨rfl, _, _, rfl, rfl⟩
  | marking acceptance => exact .updated id _ world.clock ⟨rfl, rfl⟩
  | registering acceptance =>
      simp only [consume, register]
      split <;> exact .shrinks (.of_eq rfl rfl)
  | kicking conflict victims =>
      cases victims with
      | nil => exact .shrinks (.refl _)
      | cons victim victims =>
          simp only [consume, kick]
          split_ifs
          · exact .shrinks (.refl _)
          · split
            · exact .shrinks (.refl _)
            · split <;> exact .shrinks (.of_eq rfl rfl)
  | kickRemoving conflict victim victims =>
      exact .shrinks (world.manager.shrinks_removeConnection victim)
  | acknowledging profile conflicts =>
      simp only [consume, acknowledge]
      split <;> exact .shrinks (.of_eq rfl rfl)
  | storing profile device userId => exact .updated id _ world.clock ⟨rfl, _, rfl⟩
  | rejectingLate profile error =>
      simp only [consume, rejectAfterAck]
      exact .shrinks (.of_eq (by rw [manager_explain]) (by rw [manager_explain]))
  | rejecting error =>
      simp only [consume, rejectConnect]
      split
      · exact .shrinks (.refl _)
      · exact .shrinks (.of_eq (by rw [manager_explain]) (by rw [manager_explain]))
  | removing => exact .shrinks (world.manager.shrinks_removeConnection id)
  | _ => exact .shrinks (.of_eq rfl rfl)

/-- A consumer is tame, unless it completes a negotiation. -/
theorem World.tame_consume (id : String) (consumer : Consumer)
    (quiet : ∀ profile device userId, consumer ≠ .storing profile device userId) :
    Tame world.manager (world.consume setting id answer consumer).1.manager := by
  refine (world.changes_consume setting answer id consumer).tame ?_
  rintro other update ⟨-, permitted⟩
  cases consumer with
  | informing acceptance =>
      obtain ⟨negotiation, metadata, rfl, -⟩ := permitted
      rfl
  | marking acceptance =>
      rw [permitted]
      rfl
  | storing profile device userId => exact absurd rfl (quiet profile device userId)
  | _ => cases permitted

/-- A consumer adds nothing and completes its own connection only. -/
theorem World.keepsConnection_consume (id : String) (consumer : Consumer) {other : String}
    (distinct : other ≠ id) :
    KeepsConnection world.manager (world.consume setting id answer consumer).1.manager other := by
  by_cases stores : ∃ profile device userId, consumer = .storing profile device userId
  · obtain ⟨profile, device, userId, rfl⟩ := stores
    exact world.manager.keepsConnection_completeNegotiation setting.core distinct device userId
      profile world.clock
  · refine (world.tame_consume setting answer id consumer ?_).connections other
    intro profile device userId same
    exact stores ⟨profile, device, userId, same⟩

/-! ## The stages of a consumer -/

/-- The stage that a step of a consumer leads to, with what it has read in the table.  Every step may
lead back to the queue. -/
inductive World.LeadsTo (world : World) (id : String) : Consumer → Consumer → Prop where
  | rests (consumer : Consumer) : LeadsTo world id consumer .receive
  | takes (data : Bytes) (received : Option Bool) :
      LeadsTo world id .receive (.taken data received)
  | refreshes (data : Bytes) (received : Option Bool) :
      LeadsTo world id (.taken data received) (.refreshed data received)
  | finished (data : Bytes) (received : Option Bool) (entry : ConnectionEntry)
      (found : world.manager.connections.get id = some entry)
      (completed : entry.info.negotiationCompleted = true) :
      LeadsTo world id (.refreshed data received) (.negotiated data entry.info received)
  | unfinished (data : Bytes) (received : Option Bool)
      (uncompleted : ∀ entry, world.manager.connections.get id = some entry →
        entry.info.negotiationCompleted = false) :
      LeadsTo world id (.refreshed data received) (.preNegotiation data received)
  | handles (consumer : Consumer) (frame : Frame) (received : Option Bool) :
      LeadsTo world id consumer (.handling frame received)
  | connects (data : Bytes) (received : Option Bool) (frame : Frame) :
      LeadsTo world id (.preNegotiation data received) (.connecting frame)
  | authenticates (frame : Frame) (present : (world.manager.connections.get id).isSome = true) :
      LeadsTo world id (.connecting frame) (.authenticating frame)
  | rejects (frame : Frame) (error : FlareError) :
      LeadsTo world id (.authenticating frame) (.rejecting error)
  | accepts (frame : Frame) (acceptance : Acceptance) :
      LeadsTo world id (.authenticating frame) (.informing acceptance)
  | marks (acceptance : Acceptance) :
      LeadsTo world id (.informing acceptance) (.marking acceptance)
  | registers (acceptance : Acceptance) :
      LeadsTo world id (.marking acceptance) (.registering acceptance)
  | conflicts (acceptance : Acceptance) (conflict : Conflict) (victims : List String) :
      LeadsTo world id (.registering acceptance) (.kicking conflict victims)
  | unregistered (acceptance : Acceptance) (profile : Profile) (conflicts : List String) :
      LeadsTo world id (.registering acceptance) (.acknowledging profile conflicts)
  | resolved (conflict : Conflict) (profile : Profile) (conflicts : List String) :
      LeadsTo world id (.kicking conflict []) (.acknowledging profile conflicts)
  | skips (conflict : Conflict) (victim : String) (victims : List String) :
      LeadsTo world id (.kicking conflict (victim :: victims)) (.kicking conflict victims)
  | kicks (conflict : Conflict) (victim : String) (data : Wire) (victims : List String)
      (other : victim ≠ id) (present : (world.manager.connections.get victim).isSome = true) :
      LeadsTo world id (.kicking conflict (victim :: victims))
        (.kickSending conflict victim data victims)
  | unencoded (conflict : Conflict) (victim : String) (victims : List String) :
      LeadsTo world id (.kicking conflict (victim :: victims))
        (.kickUnregistering conflict victim victims)
  | missing (conflict : Conflict) (victim : String) (victims : List String) :
      LeadsTo world id (.kicking conflict (victim :: victims))
        (.kickRemoving conflict victim victims)
  | unregisters (conflict : Conflict) (victim : String) (data : Wire) (victims : List String) :
      LeadsTo world id (.kickSending conflict victim data victims)
        (.kickUnregistering conflict victim victims)
  | removes (conflict : Conflict) (victim : String) (victims : List String) :
      LeadsTo world id (.kickUnregistering conflict victim victims)
        (.kickRemoving conflict victim victims)
  | kicked (conflict : Conflict) (victim : String) (victims : List String) :
      LeadsTo world id (.kickRemoving conflict victim victims) (.kicking conflict victims)
  | acknowledged (profile : Profile) (conflicts : List String) :
      LeadsTo world id (.acknowledging profile conflicts) (.completing profile)
  | fails (profile : Profile) (conflicts : List String) :
      LeadsTo world id (.acknowledging profile conflicts) .removing
  | gone (profile : Profile) (missing : world.manager.connections.get id = none) :
      LeadsTo world id (.completing profile) (.notifying profile)
  | completes (profile : Profile) (device : Option DeviceInfo) (userId : Option String) :
      LeadsTo world id (.completing profile) (.storing profile device userId)
  | stored (profile : Profile) (device : Option DeviceInfo) (userId : Option String) :
      LeadsTo world id (.storing profile device userId) (.notifying profile)
  | rejectsLate (profile : Profile) (error : FlareError) :
      LeadsTo world id (.notifying profile) (.rejectingLate profile error)
  | leavesLate (profile : Profile) (error : FlareError) :
      LeadsTo world id (.rejectingLate profile error) .removing
  | leaves (error : FlareError) : LeadsTo world id (.rejecting error) .removing

/-- **Inversion of a step of a consumer.** -/
theorem World.leadsTo_consume (id : String) (consumer : Consumer) :
    world.LeadsTo id consumer (world.consume setting id answer consumer).2 := by
  cases consumer with
  | receive =>
      simp only [consume, takeUp]
      split
      · exact .rests _
      · split_ifs
        · exact .rests _
        · exact .takes _ _
  | taken data received => exact .refreshes data received
  | refreshed data received =>
      simp only [consume, route]
      split
      · next missing =>
          refine .unfinished data received fun entry found => ?_
          cases missing.symm.trans found
      · next entry found =>
          split_ifs with completed
          · exact .finished data received entry found completed
          · refine .unfinished data received fun other isOther => ?_
            obtain rfl := Option.some.inj (found.symm.trans isOther)
            exact Bool.eq_false_iff.mpr completed
  | negotiated data info received =>
      simp only [consume, handleNegotiatedMessage]
      split_ifs
      · exact .rests _
      · split
        · exact .handles _ _ _
        · exact .rests _
  | preNegotiation data received =>
      simp only [consume, handlePreNegotiationMessage]
      split
      · exact .rests _
      · split_ifs
        · exact .connects data received _
        · exact .handles _ _ _
  | handling frame received => exact .rests _
  | connecting frame =>
      simp only [consume]
      split_ifs with present
      · exact .authenticates frame present
      · exact .rests _
  | authenticating frame =>
      simp only [consume, authenticate]
      split
      · exact .rejects frame _
      · exact .accepts frame _
  | informing acceptance => exact .marks acceptance
  | marking acceptance => exact .registers acceptance
  | registering acceptance =>
      simp only [consume, register]
      split
      · exact .conflicts acceptance _ _
      · exact .unregistered acceptance _ _
  | kicking conflict victims =>
      cases victims with
      | nil => exact .resolved conflict _ _
      | cons victim victims =>
          simp only [consume, kick]
          split_ifs with same
          · exact .skips conflict victim victims
          · split
            · exact .missing conflict victim victims
            · next entry found =>
                split
                · exact .kicks conflict victim _ victims same (by rw [found, Option.isSome_some])
                · exact .unencoded conflict victim victims
  | kickSending conflict victim data victims => exact .unregisters conflict victim data victims
  | kickUnregistering conflict victim victims => exact .removes conflict victim victims
  | kickRemoving conflict victim victims => exact .kicked conflict victim victims
  | acknowledging profile conflicts =>
      simp only [consume, acknowledge]
      split
      · exact .fails profile conflicts
      · dsimp only
        split_ifs
        · exact .acknowledged profile conflicts
        · exact .fails profile conflicts
  | completing profile =>
      simp only [consume]
      split
      · next missing => exact .gone profile missing
      · exact .completes profile _ _
  | storing profile device userId => exact .stored profile device userId
  | notifying profile =>
      simp only [consume]
      split
      · exact .rests _
      · exact .rejectsLate profile _
  | rejectingLate profile error => exact .leavesLate profile error
  | rejecting error => exact .leaves error
  | removing => exact .rests _

/-! ## The log of writes -/

/-- A consumer adds to the log. -/
theorem World.written_consume (setting : Setting) (world : World) (id : String) (answer : Answer)
    (consumer : Consumer) :
    ∃ more, (world.consume setting id answer consumer).1.written = world.written ++ more := by
  have same : world.written = world.written ++ [] := (List.append_nil _).symm
  have explained : ∀ encoded : Result Wire,
      ∃ more, (world.explain id encoded).written = world.written ++ more := by
    intro encoded
    cases encoded with
    | ok data => exact ⟨_, rfl⟩
    | error error => exact ⟨[], same⟩
  cases consumer with
  | receive =>
      simp only [consume, takeUp]
      split
      · exact ⟨[], same⟩
      · split_ifs <;> exact ⟨[], same⟩
  | negotiated data info received =>
      simp only [consume, handleNegotiatedMessage]
      split_ifs
      · exact ⟨[], same⟩
      · split <;> exact ⟨[], same⟩
  | handling frame received =>
      simp only [consume, World.handleFrame]
      split <;> try split_ifs
      all_goals exact ⟨[], same⟩
  | registering acceptance =>
      simp only [consume, register]
      split <;> exact ⟨[], same⟩
  | kicking conflict victims =>
      cases victims with
      | nil => exact ⟨[], same⟩
      | cons victim victims =>
          simp only [consume, World.kick]
          split_ifs
          · exact ⟨[], same⟩
          · split
            · exact ⟨[], same⟩
            · split <;> exact ⟨[], same⟩
  | kickSending conflict victim data victims => exact ⟨_, rfl⟩
  | acknowledging profile conflicts =>
      simp only [consume, World.acknowledge]
      split
      · exact ⟨[], same⟩
      · exact ⟨_, rfl⟩
  | rejectingLate profile error => exact explained _
  | rejecting error =>
      simp only [consume, World.rejectConnect]
      split
      · exact ⟨[], same⟩
      · exact explained _
  | _ => exact ⟨[], same⟩

/-- Jobs do not write past the queues. -/
theorem Job.written_perform (setting : Setting) (world : World) (answer : Answer) (job : Job) :
    (job.perform setting.registries setting.stamps setting.enumeration world answer).written =
      world.written := by
  cases job with
  | systemCommand id frame received =>
      simp only [perform, World.handleSystemCommand]
      split <;> rfl
  | read reads fanout => cases reads <;> rfl
  | deliver fanout =>
      simp only [perform, World.deliver]
      split <;> rfl
  | activate now groups => cases groups <;> rfl
  | _ => rfl

/-! ## Accepting and writing -/

variable {setting} {state state' : Runtime}

omit [RustText] in
/-- An accepted connection is the only one that is new, and so is its consumer. -/
theorem Runtime.accept_cases {id : String} {connection : ConnectionHandle}
    (accepted : state.accept setting id connection = some state') :
    ∃ manager consumers, state' = ⟨state.world.withManager manager, consumers, state.writing⟩ ∧
      (∀ other entry, manager.connections.get other = some entry →
        state.world.manager.connections.get other = some entry ∨
          other = id ∧ entry.info = initialInfo id none setting.core.authEnabled
            state.world.clock) ∧
      (∀ handle data, data ∈ (manager.queues handle).items →
        data ∈ (state.world.manager.queues handle).items) ∧
      ∀ other consumer, consumers other = some consumer →
        consumer = .receive ∨ other ≠ id ∧ state.consumers other = some consumer := by
  unfold Runtime.accept at accepted
  split_ifs at accepted with taken
  have fresh : ∀ other consumer, state.consumers other = some consumer → other ≠ id := by
    rintro other consumer found rfl
    exact taken (found ▸ rfl)
  cases added : state.world.manager.addConnectionWithLimit id connection none
      setting.core.authEnabled setting.maxConnections state.world.clock with
  | mk manager result =>
      have items := items_addConnectionWithLimit added
      have new : ∀ other entry, manager.connections.get other = some entry →
          state.world.manager.connections.get other = some entry ∨
            other = id ∧ entry.info = initialInfo id none setting.core.authEnabled
              state.world.clock :=
        fun _ _ found => get_of_get_addConnectionWithLimit added found
      rw [added] at accepted
      cases result with
      | error error =>
          obtain rfl := Option.some.inj accepted
          refine ⟨manager, _, rfl, new, items, ?_⟩
          intro other consumer found
          exact Or.inr ⟨fresh other consumer found, found⟩
      | ok =>
          obtain rfl := Option.some.inj accepted
          refine ⟨manager, _, rfl, new, items, ?_⟩
          intro other consumer found
          by_cases same : other = id
          · rw [same, Function.update_self] at found
            exact Or.inl (Option.some.inj found).symm
          · rw [Function.update_of_ne same] at found
            exact Or.inr ⟨same, found⟩

omit [RustText] in
/-- A writer task takes an item out of its queue, or writes the item it has taken out. -/
theorem Runtime.flush_cases {handle : WriteHandle} {succeeds : Bool}
    (flushed : state.flush handle succeeds = some state') :
    (∃ data manager, data ∈ (state.world.manager.queues handle).items ∧
      Shrinks state.world.manager manager ∧
      state' = ⟨state.world.withManager manager, state.consumers,
        Function.update state.writing handle (some data)⟩) ∨
    ∃ data manager jobs, state.writing handle = some data ∧ Shrinks state.world.manager manager ∧
      (∀ job ∈ jobs, job = .isolate handle.connectionId) ∧
      state' = ⟨((state.world.writes handle.connectionId data false).withManager manager).spawn
        jobs, state.consumers, Function.update state.writing handle none⟩ := by
  unfold Runtime.flush at flushed
  split at flushed
  · next data writing =>
      obtain rfl := Option.some.inj flushed
      refine Or.inr ?_
      cases succeeds with
      | true =>
          refine ⟨data, state.world.manager, [], writing, .refl _, by simp, ?_⟩
          simp only [if_true, World.withManager, World.spawn, World.writes, List.append_nil]
      | false =>
          exact ⟨data, _, [.isolate handle.connectionId], writing, shrinks_closeQueue _ handle,
            by simp, rfl⟩
  · dsimp only at flushed
    split at flushed
    · cases flushed
    · next data rest items =>
        split_ifs at flushed
        obtain rfl := Option.some.inj flushed
        refine Or.inl ⟨data, _, items ▸ List.mem_cons_self, ?_, rfl⟩
        refine ⟨fun _ _ found => found, ?_⟩
        intro other item member
        dsimp only at member
        by_cases same : other = handle
        · subst same
          rw [Function.update_self] at member
          exact items ▸ List.mem_cons_of_mem _ member
        · rwa [Function.update_of_ne same] at member

end Steps

end Evolution

end FlareCore.Server
