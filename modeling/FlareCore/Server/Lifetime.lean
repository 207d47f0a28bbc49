import FlareCore.Server.Evolution

/-!
# The lifetime of a connection

What a connection's frames are encoded with is decided by a few fields of its information, its
`codec`.  Acceptance creates them, CONNECT writes them twice, and nothing else ever changes
them: every other step leaves the codec of a connection as it is or takes the connection out
of the table.  `Runtime.removes` lists the connections that a step takes out, and
`Runtime.codec_step` says that these are the only ones.
-/

namespace FlareCore.Server

open FlareCore.Common FlareCore.Foundations

set_option autoImplicit false

/-- What decides how frames are encoded for a connection. -/
structure ConnectionCodec where
  negotiationCompleted : Bool
  profile : Profile
  cachedParser : Option MessageParser

def ConnectionInfo.codec (info : ConnectionInfo) : ConnectionCodec where
  negotiationCompleted := info.negotiationCompleted
  profile := ⟨info.serializationFormat, info.compression, info.encryption⟩
  cachedParser := info.cachedParser

section Lifetime

variable [Hashing]

namespace ConnectionManager

/-- The codec of a connection in the table. -/
def codec (manager : ConnectionManager) (id : String) : Option ConnectionCodec :=
  (manager.connections.get id).map fun entry => entry.info.codec

theorem codec_of_get {manager : ConnectionManager} {id : String} {entry : ConnectionEntry}
    (found : manager.connections.get id = some entry) :
    manager.codec id = some entry.info.codec := by
  rw [codec, found, Option.map_some]

theorem get_eq_none_iff {manager : ConnectionManager} {id : String} :
    manager.connections.get id = none ↔ manager.codec id = none := by
  rw [codec, Option.map_eq_none_iff]

theorem codec_congr {before after : ConnectionManager}
    (connections : after.connections = before.connections) (id : String) :
    after.codec id = before.codec id := by
  rw [codec, connections, codec]

/-- A connection keeps its codec, unless it is one of those that are removed. -/
def Evolves (removed : List String) (before after : ConnectionManager) (id : String) : Prop :=
  after.codec id = before.codec id ∨ id ∈ removed ∧ after.codec id = none

theorem Evolves.trans {first second third : ConnectionManager} {removed removed' : List String}
    {id : String} (earlier : Evolves removed first second id)
    (later : Evolves removed' second third id) : Evolves (removed ++ removed') first third id := by
  rcases later with same | ⟨listed, gone⟩
  · rcases earlier with kept | ⟨listed, gone⟩
    · exact Or.inl (same.trans kept)
    · exact Or.inr ⟨List.mem_append_left _ listed, same.trans gone⟩
  · exact Or.inr ⟨List.mem_append_right _ listed, gone⟩

/-- What is gone stays gone. -/
theorem Evolves.eq_none {before after : ConnectionManager} {removed : List String} {id : String}
    (evolves : Evolves removed before after id) (gone : before.codec id = none) :
    after.codec id = none := by
  rcases evolves with same | ⟨-, removed⟩
  · exact same.trans gone
  · exact removed

/-- What is not removed keeps its codec. -/
theorem Evolves.of_notMem {before after : ConnectionManager} {removed : List String} {id : String}
    (evolves : Evolves removed before after id) (kept : id ∉ removed) :
    after.codec id = before.codec id := by
  rcases evolves with same | ⟨listed, -⟩
  · exact same
  · exact absurd listed kept

variable (manager : ConnectionManager)

/-! ## Updates -/

variable {manager} in
theorem codec_writeInfo {id : String} {entry : ConnectionEntry} {info : ConnectionInfo}
    (found : manager.connections.get id = some entry) (same : info.codec = entry.info.codec)
    (other : String) : (manager.writeInfo id entry info).codec other = manager.codec other := by
  rw [codec, writeInfo, ShardedMap.get_insert]
  split_ifs with own
  · rw [own, codec_of_get found, Option.map_some, same]
  · rfl

theorem codec_touch (id : String) (now : Instant) (other : String) :
    (manager.touch id now).codec other = manager.codec other := by
  unfold touch
  split
  · rfl
  · next entry found =>
      refine codec_writeInfo found ?_ other
      rfl

theorem codec_touchAll (ids : List String) (now : Instant) (other : String) :
    (ids.foldl (fun manager id => manager.touch id now) manager).codec other =
      manager.codec other := by
  induction ids generalizing manager with
  | nil => rfl
  | cons id ids inductionHypothesis =>
      exact (inductionHypothesis _).trans (manager.codec_touch id now other)

theorem codec_markNegotiationConfirmed (id other : String) :
    (manager.markNegotiationConfirmed id).1.codec other = manager.codec other := by
  unfold markNegotiationConfirmed
  split
  · rfl
  · next entry found =>
      split_ifs
      · refine codec_writeInfo found ?_ other
        rfl
      · rfl

/-- The updates that are not part of a negotiation. -/
theorem codec_updateConnection {update : InfoUpdate}
    (keeps : ∀ now info, (update.apply now info).codec = info.codec) (id : String) (now : Instant)
    (other : String) : (manager.updateConnection id update now).1.codec other =
      manager.codec other := by
  unfold updateConnection
  split
  · rfl
  · next entry found =>
      refine (codec_congr ?_ other).trans (codec_writeInfo found (keeps now entry.info) other)
      simp only [reindexUserConnection, insertOwnerConnection_connections,
        removeOwnerConnection_connections]

/-- An update of one connection leaves the codecs of the others alone. -/
theorem codec_updateConnection_of_ne {id other : String} (distinct : other ≠ id)
    (update : InfoUpdate) (now : Instant) :
    (manager.updateConnection id update now).1.codec other = manager.codec other := by
  rw [codec, get_updateConnection_of_ne distinct, codec]

/-! ## Removals -/

theorem evolves_removeConnection (id other : String) :
    Evolves [id] manager (manager.removeConnection id).1 other := by
  unfold Evolves
  rw [codec, codec, get_removeConnection]
  split_ifs with own
  · exact Or.inr ⟨List.mem_singleton.mpr own, rfl⟩
  · exact Or.inl rfl

theorem evolves_eraseEntry (id other : String) : Evolves [id] manager (manager.eraseEntry id) other := by
  unfold Evolves
  rw [codec, codec, eraseEntry, ShardedMap.get_erase]
  split_ifs with own
  · exact Or.inr ⟨List.mem_singleton.mpr own, rfl⟩
  · exact Or.inl rfl

/-- What only touches counters, queues and the index. -/
theorem Evolves.of_connections {before after later : ConnectionManager} {removed : List String}
    {id : String} (evolves : Evolves removed before after id)
    (connections : later.connections = after.connections) : Evolves removed before later id := by
  unfold Evolves
  rw [codec_congr connections]
  exact evolves

theorem evolves_registryRemoveConnection (id other : String) :
    Evolves [id] manager (manager.registryRemoveConnection id).1 other := by
  unfold registryRemoveConnection
  split
  · exact Or.inl rfl
  · refine (manager.evolves_eraseEntry id other).of_connections ?_
    rw [removeOwnerConnection_connections, releaseConnectionSlots_connections]

theorem evolves_takeEntries (removed : Removed) (ids : List String) (other : String) :
    Evolves ids manager (takeEntries manager removed ids).1 other := by
  induction ids generalizing manager removed with
  | nil => exact Or.inl rfl
  | cons id ids inductionHypothesis =>
      unfold takeEntries
      split
      · exact (inductionHypothesis manager removed).imp_right fun gone =>
          ⟨List.mem_cons_of_mem _ gone.1, gone.2⟩
      · exact ((manager.evolves_eraseEntry id other).of_connections
          (closeQueue_connections ..)).trans (inductionHypothesis _ _)

theorem removeUserConnectionsBatch_connections (entries : List (DeviceOwner × String)) :
    (manager.removeUserConnectionsBatch entries).connections = manager.connections := by
  have groups : ∀ (groups : List (List (DeviceOwner × String))) (state : ConnectionManager × Nat),
      (groups.foldl (fun state group =>
        ((state.1.removeIndexEntries group).1, state.2 + (state.1.removeIndexEntries group).2))
        state).1.connections = state.1.connections := by
    intro groups
    induction groups with
    | nil => exact fun _ => rfl
    | cons group groups inductionHypothesis =>
        intro state
        rw [List.foldl_cons, inductionHypothesis]
        rfl
  exact groups (userGroups entries) (manager, 0)

theorem evolves_removeConnectionSnapshots (ids : List String) (other : String) :
    Evolves ids manager (manager.removeConnectionSnapshots ids).1 other := by
  unfold removeConnectionSnapshots
  rw [foldl_takeEntries]
  have taken : Evolves ids manager (takeEntries manager ⟨[], []⟩ (connectionGroups ids).flatten).1
      other :=
    (manager.evolves_takeEntries ⟨[], []⟩ _ other).imp_right fun gone =>
      ⟨(ShardedMap.flatten_groups_perm ids).mem_iff.mp gone.1, gone.2⟩
  refine taken.of_connections ?_
  rw [removeUserConnectionsBatch_connections, releaseConnectionSlots_connections]

/-- The queue takes nothing more. -/
def refuses (handle : WriteHandle) : Bool :=
  (manager.queues handle).closed ||
    decide ((manager.queues handle).capacity ≤ (manager.queues handle).items.length)

/-- A send removes the connection whose queue refuses. -/
theorem evolves_sendEncoded (encode : ConnectionSnapshot → Result Wire)
    (snapshot : ConnectionSnapshot) (other : String) :
    Evolves (if (encode snapshot).isOk && manager.refuses snapshot.handle then
        [snapshot.connectionId] else []) manager (manager.sendEncoded encode snapshot).1 other := by
  unfold sendEncoded
  cases encode snapshot with
  | error error => exact Or.inl rfl
  | ok data =>
      have removal : Evolves [snapshot.connectionId] manager
          ((manager.closeQueue snapshot.handle).removeConnection snapshot.connectionId).1 other :=
        ((manager.closeQueue snapshot.handle).evolves_removeConnection _ other).imp_left
          fun same => same.trans (codec_congr (closeQueue_connections ..) other)
      simp only [sendToConnectionHandle, WriteQueue.tryEnqueue, refuses, Except.isOk, Except.toBool,
        Bool.true_and, Bool.or_eq_true, decide_eq_true_eq]
      by_cases closed : (manager.queues snapshot.handle).closed = true
      · simp only [closed, if_true, true_or]
        exact removal
      · by_cases full : (manager.queues snapshot.handle).capacity ≤
            (manager.queues snapshot.handle).items.length
        · simp only [closed, full, or_true, if_true]
          exact removal
        · simp only [closed, full, if_false]
          exact Or.inl rfl

/-- The codec of a connection that is being added. -/
theorem codec_addConnectionWithLimit {manager' : ConnectionManager} {id : String}
    {connection : ConnectionHandle} {requiresAuth : Bool} {maxConnections : UInt64} {now : Instant}
    {answer : Result Unit} (added : manager.addConnectionWithLimit id connection none requiresAuth
      maxConnections now = (manager', answer)) (other : String) :
    manager'.codec other = manager.codec other ∨
      other = id ∧ answer = .ok () ∧
        manager'.codec id = some (initialInfo id none requiresAuth now).codec := by
  unfold addConnectionWithLimit at added
  split_ifs at added
  · obtain ⟨rfl, -⟩ := Prod.mk.inj added
    exact Or.inl rfl
  · obtain ⟨rfl, -⟩ := Prod.mk.inj added
    exact Or.inl rfl
  · obtain ⟨rfl, rfl⟩ := Prod.mk.inj added
    by_cases same : other = id
    · refine Or.inr ⟨same, rfl, ?_⟩
      rw [codec, insertOwnerConnection_connections, insertEntry, ShardedMap.get_insert_self]
      rfl
    · refine Or.inl ?_
      rw [codec, insertOwnerConnection_connections, insertEntry,
        ShardedMap.get_insert_of_ne _ _ same]
      rfl

end ConnectionManager

/-! ## Steps -/

/-- The connections that one send of a fan-out removes. -/
def Fanout.removes [RustText] (registries : Registries) (manager : ConnectionManager)
    (fanout : Fanout) : List String :=
  match fanout.remaining with
  | [] => []
  | snapshot :: _ =>
      if (fanout.encode registries snapshot).isOk && manager.refuses snapshot.handle then
        [snapshot.connectionId]
      else []

/-- The connections that a job takes out of the table. -/
def Job.removes [RustText] (registries : Registries) (manager : ConnectionManager) :
    Job → List String
  | .deliver fanout => fanout.removes registries manager
  | .removeDisconnected id | .disconnect id | .isolate id => [id]
  | .evict ids => ids
  | _ => []

/-- The connections that a consumer takes out of the table. -/
def Consumer.removes (id : String) : Consumer → List String
  | .kickRemoving _ victim _ => [victim]
  | .removing => [id]
  | _ => []

/-- The consumers that write the codec of their connection. -/
def Consumer.negotiates : Consumer → Bool
  | .informing _ | .storing _ _ _ => true
  | _ => false

section Steps

variable [RustText] (setting : Setting) (world : World) (answer : Answer)

open ConnectionManager

theorem Job.evolves_perform (job : Job) (id : String) :
    Evolves (job.removes setting.registries world.manager) world.manager
      (job.perform setting.registries setting.stamps setting.enumeration world answer).manager
      id := by
  cases job with
  | systemCommand owner frame received =>
      simp only [perform, World.handleSystemCommand]
      split <;> exact Or.inl rfl
  | updateActive owner => exact Or.inl (world.manager.codec_touch owner world.clock id)
  | confirmNegotiation owner =>
      exact Or.inl (world.manager.codec_markNegotiationConfirmed owner id)
  | read reads fanout => cases reads <;> exact Or.inl rfl
  | deliver fanout =>
      cases remaining : fanout.remaining with
      | nil =>
          simp only [perform, World.deliver, remaining]
          exact Or.inl rfl
      | cons snapshot rest =>
          simp only [perform, World.deliver, removes, Fanout.removes, remaining]
          exact world.manager.evolves_sendEncoded _ _ id
  | activate now groups =>
      cases groups with
      | nil => exact Or.inl rfl
      | cons group groups => exact Or.inl (world.manager.codec_touchAll group now id)
  | bindUser owner userId =>
      refine Or.inl (world.manager.codec_updateConnection ?_ owner world.clock id)
      exact fun _ _ => rfl
  | setAuthenticated owner userId =>
      refine Or.inl (world.manager.codec_updateConnection ?_ owner world.clock id)
      exact fun _ _ => rfl
  | removeDisconnected owner => exact world.manager.evolves_removeConnection owner id
  | disconnect owner => exact world.manager.evolves_removeConnection owner id
  | isolate owner => exact world.manager.evolves_registryRemoveConnection owner id
  | evict ids => exact world.manager.evolves_removeConnectionSnapshots ids id
  | _ => exact Or.inl rfl

theorem World.evolves_consume (own : String) (consumer : Consumer) (id : String)
    (foreign : id ≠ own ∨ consumer.negotiates = false) :
    Evolves (consumer.removes own) world.manager
      (world.consume setting own answer consumer).1.manager id := by
  cases consumer with
  | receive =>
      simp only [consume, takeUp]
      split
      · exact Or.inl rfl
      · split_ifs <;> exact Or.inl rfl
  | taken data received => exact Or.inl (world.manager.codec_touch own world.clock id)
  | negotiated data info received =>
      simp only [consume, handleNegotiatedMessage]
      split_ifs
      · exact Or.inl (world.manager.codec_markNegotiationConfirmed own id)
      · split <;> exact Or.inl rfl
  | handling frame received =>
      simp only [consume, handleFrame]
      split <;> try split_ifs
      all_goals exact Or.inl rfl
  | informing acceptance =>
      exact Or.inl (world.manager.codec_updateConnection_of_ne (foreign.resolve_right Bool.noConfusion) _ _)
  | marking acceptance =>
      refine Or.inl (world.manager.codec_updateConnection ?_ own world.clock id)
      exact fun _ _ => rfl
  | registering acceptance =>
      simp only [consume, register]
      split <;> exact Or.inl rfl
  | kicking conflict victims =>
      cases victims with
      | nil => exact Or.inl rfl
      | cons victim victims =>
          simp only [consume, kick]
          split_ifs
          · exact Or.inl rfl
          · split
            · exact Or.inl rfl
            · split <;> exact Or.inl rfl
  | kickRemoving conflict victim victims =>
      exact world.manager.evolves_removeConnection victim id
  | acknowledging profile conflicts =>
      simp only [consume, acknowledge]
      split <;> exact Or.inl rfl
  | storing profile device userId =>
      exact Or.inl (world.manager.codec_updateConnection_of_ne (foreign.resolve_right Bool.noConfusion) _ _)
  | rejectingLate profile error =>
      simp only [consume, rejectAfterAck]
      rw [manager_explain]
      exact Or.inl rfl
  | rejecting error =>
      simp only [consume, rejectConnect]
      split
      · exact Or.inl rfl
      · rw [manager_explain]
        exact Or.inl rfl
  | removing => exact world.manager.evolves_removeConnection own id
  | _ => exact Or.inl rfl

/-- CONNECT writes the profile of a connection that is still there. -/
theorem World.codec_informing (own : String) (acceptance : Acceptance) :
    (world.consume setting own answer (.informing acceptance)).1.manager.codec own =
      (world.manager.codec own).map fun codec => { codec with profile := acceptance.profile } := by
  cases found : world.manager.connections.get own with
  | none =>
      simp only [consume, withManager, updateConnectionInfo, updateConnectionNegotiation,
        updateConnection, codec, found, Option.map_none]
  | some entry =>
      simp only [consume, withManager, updateConnectionInfo, updateConnectionNegotiation, codec,
        get_updateConnection found, found, Option.map_some]
      rfl

/-- The completion of a negotiation. -/
theorem World.codec_storing (own : String) (profile : Profile) (device : Option DeviceInfo)
    (userId : Option String) :
    (world.consume setting own answer (.storing profile device userId)).1.manager.codec own =
      (world.manager.codec own).map fun _ => ⟨true, profile, some profile.parser⟩ := by
  cases found : world.manager.connections.get own with
  | none =>
      simp only [consume, withManager, completeNegotiation, updateConnectionNegotiationWithPipeline,
        updateConnection, codec, found, Option.map_none]
  | some entry =>
      simp only [consume, withManager, completeNegotiation, updateConnectionNegotiationWithPipeline,
        codec, get_updateConnection found, found, Option.map_some]
      rfl

end Steps

/-! ## The runtime -/

/-- What happens to the server from outside, and the passing of time. -/
def Move.isOuter : Move → Bool
  | .arrive _ _ | .websocketPing _ | .closed _ _ | .call _ | .tick _ => true
  | .accept _ _ | .consume _ _ | .work _ _ | .flush _ _ => false

namespace Runtime

variable [RustText] (setting : Setting)

/-- The connections that a step takes out of the table. -/
def removes (state : Runtime) : Move → List String
  | .consume id _ => ((state.consumers id).map (Consumer.removes id)).getD []
  | .work index _ =>
      ((state.world.jobs[index]?).map (Job.removes setting.registries state.world.manager)).getD []
  | _ => []

variable {setting} {state state' : Runtime}

open ConnectionManager

/-- What the outer moves can do: they start jobs, and may write the answer to a WebSocket PING,
but they touch neither tables nor tasks. -/
theorem outer_cases {move : Move} (outer : move.isOuter = true)
    (stepped : state.step setting move = some state') :
    ∃ inbound clock frames jobs written,
      state' = { state with world := { state.world with
        inbound := inbound
        clock := clock
        frames := frames
        jobs := state.world.jobs ++ jobs
        written := state.world.written ++ written } } ∧
      (∀ job ∈ jobs, (∃ id, job = .transportError id ∨ job = .disconnected id) ∨
        ∃ (call : ServerCall) (stamp : Stamp), job ∈ call.jobs stamp) ∧
      ∀ write ∈ written, move = .websocketPing write.connectionId := by
  cases move with
  | arrive id data =>
      simp only [Runtime.step, Runtime.arrive] at stepped
      split_ifs at stepped
      all_goals
        obtain rfl := Option.some.inj stepped
        exact ⟨_, _, _, [], [], by simp only [List.append_nil]; rfl, by simp, by simp⟩
  | websocketPing id =>
      simp only [Runtime.step] at stepped
      split_ifs at stepped
      obtain rfl := Option.some.inj stepped
      refine ⟨_, _, _, [], _, by simp only [List.append_nil]; rfl, by simp, ?_⟩
      intro write member
      rw [List.mem_singleton.mp member]
  | closed id errored =>
      simp only [Runtime.step] at stepped
      split_ifs at stepped
      all_goals
        obtain rfl := Option.some.inj stepped
        refine ⟨_, _, _, _, [], by simp only [List.append_nil]; rfl, ?_, by simp⟩
        intro job member
        rw [List.mem_singleton.mp member]
        exact Or.inl ⟨id, by simp⟩
  | call call =>
      obtain rfl := Option.some.inj stepped
      refine ⟨_, _, _, _, [], by simp only [List.append_nil]; rfl, ?_, by simp⟩
      intro job member
      exact Or.inr ⟨call, _, member⟩
  | tick duration =>
      obtain rfl := Option.some.inj stepped
      exact ⟨_, _, _, [], [], by simp only [List.append_nil]; rfl, by simp, by simp⟩
  | accept id connection => cases outer
  | consume id answer => cases outer
  | work index answer => cases outer
  | flush handle succeeds => cases outer

omit [RustText] in
/-- A connection is accepted once, and is the only one that is new. -/
theorem codec_accept {id : String} {connection : ConnectionHandle}
    (accepted : state.accept setting id connection = some state') (other : String) :
    state'.world.manager.codec other = state.world.manager.codec other ∨
      other = id ∧ state.consumers id = none ∧ state'.consumers id = some .receive ∧
        ∃ codec, state'.world.manager.codec id = some codec ∧
          codec.negotiationCompleted = false := by
  unfold Runtime.accept at accepted
  split_ifs at accepted with taken
  have fresh : state.consumers id = none := by simpa using taken
  cases added : state.world.manager.addConnectionWithLimit id connection none
      setting.core.authEnabled setting.maxConnections state.world.clock with
  | mk manager result =>
      rw [added] at accepted
      have new := codec_addConnectionWithLimit _ added other
      cases result with
      | error error =>
          obtain rfl := Option.some.inj accepted
          refine Or.inl (new.resolve_right ?_)
          rintro ⟨-, succeeded, -⟩
          cases succeeded
      | ok =>
          obtain rfl := Option.some.inj accepted
          refine new.imp_right ?_
          rintro ⟨same, -, codec⟩
          exact ⟨same, fresh, Function.update_self .., _, codec, rfl⟩

/-- **What a step does to a connection in the table**: it leaves the codec alone or removes the
connection, unless it is the acceptance of the connection or a part of its CONNECT. -/
theorem codec_step {move : Move} (stepped : state.step setting move = some state') (id : String) :
    Evolves (state.removes setting move) state.world.manager state'.world.manager id ∨
      (state.consumers id = none ∧ state'.consumers id = some .receive ∧
        ∃ codec, state'.world.manager.codec id = some codec ∧
          codec.negotiationCompleted = false) ∨
      ∃ answer consumer, move = .consume id answer ∧ state.consumers id = some consumer ∧
        consumer.negotiates = true := by
  cases move with
  | accept other connection =>
      rcases codec_accept stepped id with same | ⟨rfl, fresh, started, codec⟩
      · exact Or.inl (Or.inl same)
      · exact Or.inr (Or.inl ⟨fresh, started, codec⟩)
  | consume own answer =>
      obtain ⟨consumer, found, rfl⟩ := Option.map_eq_some_iff.mp stepped
      by_cases foreign : id ≠ own ∨ consumer.negotiates = false
      · have evolves := state.world.evolves_consume setting answer own consumer id foreign
        refine Or.inl ?_
        simpa only [removes, found, Option.map_some, Option.getD_some] using evolves
      · rw [not_or, not_not, Bool.not_eq_false] at foreign
        obtain ⟨rfl, negotiates⟩ := foreign
        exact Or.inr (Or.inr ⟨answer, consumer, rfl, found, negotiates⟩)
  | work index answer =>
      obtain ⟨job, found, rfl⟩ := Option.map_eq_some_iff.mp stepped
      have evolves := job.evolves_perform setting
        { state.world with jobs := state.world.jobs.eraseIdx index } answer id
      refine Or.inl ?_
      simpa only [removes, found, Option.map_some, Option.getD_some] using evolves
  | flush handle succeeds =>
      refine Or.inl (Or.inl ?_)
      unfold Runtime.step Runtime.flush at stepped
      dsimp only at stepped
      split at stepped
      · obtain rfl := Option.some.inj stepped
        split_ifs <;> rfl
      · split at stepped
        · cases stepped
        · split_ifs at stepped
          obtain rfl := Option.some.inj stepped
          rfl
  | _ =>
      obtain ⟨inbound, clock, frames, jobs, written, rfl, -⟩ := outer_cases rfl stepped
      exact Or.inl (Or.inl rfl)

/-- **What a step does to the consumers**: one of them moves, or a new one is started. -/
theorem consumers_cases {move : Move} (stepped : state.step setting move = some state') :
    state'.consumers = state.consumers ∨
      (∃ id connection, move = .accept id connection ∧ state.consumers id = none ∧
        state'.consumers = Function.update state.consumers id (some .receive)) ∨
      ∃ id answer consumer, move = .consume id answer ∧ state.consumers id = some consumer ∧
        state'.consumers = Function.update state.consumers id
          (some (state.world.consume setting id answer consumer).2) := by
  cases move with
  | accept id connection =>
      simp only [Runtime.step, Runtime.accept] at stepped
      split_ifs at stepped with taken
      split at stepped
      · obtain rfl := Option.some.inj stepped
        exact Or.inr (Or.inl ⟨id, connection, rfl, by simpa using taken, rfl⟩)
      · obtain rfl := Option.some.inj stepped
        exact Or.inl rfl
  | consume id answer =>
      obtain ⟨consumer, current, rfl⟩ := Option.map_eq_some_iff.mp stepped
      exact Or.inr (Or.inr ⟨id, answer, consumer, rfl, current, rfl⟩)
  | work index answer =>
      obtain ⟨job, -, rfl⟩ := Option.map_eq_some_iff.mp stepped
      exact Or.inl rfl
  | flush handle succeeds =>
      rcases Runtime.flush_cases stepped with ⟨data, manager, -, -, rfl⟩ |
        ⟨data, manager, jobs, -, -, -, rfl⟩ <;> exact Or.inl rfl
  | _ =>
      obtain ⟨inbound, clock, frames, jobs, written, rfl, -⟩ := outer_cases rfl stepped
      exact Or.inl rfl

/-- Where a consumer stands after a step. -/
theorem consumers_step {move : Move} (stepped : state.step setting move = some state')
    {id : String} {later : Consumer} (found : state'.consumers id = some later) :
    state.consumers id = some later ∨ (later = .receive ∧ state.consumers id = none) ∨
      ∃ answer consumer, move = .consume id answer ∧ state.consumers id = some consumer ∧
        later = (state.world.consume setting id answer consumer).2 := by
  rcases consumers_cases stepped with same | ⟨own, connection, rfl, fresh, updated⟩ |
    ⟨own, answer, consumer, rfl, current, updated⟩
  · exact Or.inl (same ▸ found)
  · rw [updated, Function.update_apply] at found
    split_ifs at found with same
    · exact Or.inr (Or.inl ⟨(Option.some.inj found).symm, same ▸ fresh⟩)
    · exact Or.inl found
  · rw [updated, Function.update_apply] at found
    split_ifs at found with same
    · subst same
      exact Or.inr (Or.inr ⟨answer, consumer, rfl, current, (Option.some.inj found).symm⟩)
    · exact Or.inl found

/-- A consumer is never taken away. -/
theorem exists_consumer_step {move : Move} (stepped : state.step setting move = some state')
    {id : String} {consumer : Consumer} (found : state.consumers id = some consumer) :
    ∃ later, state'.consumers id = some later := by
  rcases consumers_cases stepped with same | ⟨own, connection, rfl, fresh, updated⟩ |
    ⟨own, answer, current, rfl, -, updated⟩
  · exact ⟨consumer, same ▸ found⟩
  · rw [updated, Function.update_apply]
    split_ifs
    · exact ⟨_, rfl⟩
    · exact ⟨consumer, found⟩
  · rw [updated, Function.update_apply]
    split_ifs
    · exact ⟨_, rfl⟩
    · exact ⟨consumer, found⟩

/-- The connections that have a consumer were accepted. -/
theorem accepted_of_run {moves : List Move} {start finish : Runtime}
    (evaluated : (serverSystem setting).run start moves = some finish) {id : String}
    {consumer : Consumer} (found : finish.consumers id = some consumer) :
    (start.consumers id).isSome = true ∨ ∃ connection, Move.accept id connection ∈ moves := by
  induction moves generalizing start with
  | nil =>
      obtain rfl := Option.some.inj evaluated
      exact Or.inl (by rw [found, Option.isSome_some])
  | cons move moves inductionHypothesis =>
      obtain ⟨next, stepped, rest⟩ := Option.bind_eq_some_iff.mp evaluated
      rcases inductionHypothesis rest with started | ⟨connection, listed⟩
      · obtain ⟨later, present⟩ := Option.isSome_iff_exists.mp started
        rcases consumers_cases stepped with same | ⟨own, connection, rfl, -, updated⟩ |
          ⟨own, answer, current, rfl, own_found, updated⟩
        · exact Or.inl (by rw [← same, present, Option.isSome_some])
        · rw [updated, Function.update_apply] at present
          split_ifs at present with same
          · exact Or.inr ⟨connection, same ▸ List.mem_cons_self⟩
          · exact Or.inl (by rw [present, Option.isSome_some])
        · rw [updated, Function.update_apply] at present
          split_ifs at present with same
          · exact Or.inl (by rw [same, own_found, Option.isSome_some])
          · exact Or.inl (by rw [present, Option.isSome_some])
      · exact Or.inr ⟨connection, List.mem_cons_of_mem _ listed⟩

end Runtime

end Lifetime

end FlareCore.Server
