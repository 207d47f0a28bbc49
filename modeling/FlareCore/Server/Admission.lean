import FlareCore.Server.Evolution

/-!
# Frames of connections that are not authenticated

A connection is authenticated before its negotiation is completed, since its own consumer does
both, one after the other.  So a frame that is decoded with a negotiated profile was taken off
the queue of an authenticated connection.  Before that, `handle_pre_negotiation_message` passes
every frame that is not CONNECT on to the application, and nobody looks at the flag: a payload
that arrives before CONNECT is delivered.

In every run in which that does not happen, no business frame reaches a callback that was
received while its connection was not authenticated (`business_frames_admitted`).
-/

namespace FlareCore.Server

open FlareCore.Common FlareCore.Foundations

set_option autoImplicit false

/-- Payloads, notifications, custom commands and system events. -/
def isBusinessFrame (frame : Frame) : Bool :=
  match frame.commandType with
  | some (.system command) => command.type = SystemType.event.toInt32
  | some (.payload _) | some (.notification _) | some (.custom _) => true
  | none => false

/-- A frame that may be delivered, given the flag with which it was received. -/
def Admissible (frame : Frame) (received : Option Bool) : Prop :=
  isBusinessFrame frame = true → received ≠ some false

def Callback.Admissible : Callback → Prop
  | .handle _ frame received => Server.Admissible frame received
  | .onConnect _ | .onDisconnect _ | .onError _ => True

def Job.Admissible : Job → Prop
  | .systemCommand _ frame received | .systemEvent _ frame received
  | .customCommand _ frame received => Server.Admissible frame received
  | _ => True

section Admission

variable [Hashing]

/-! ## The invariant -/

/-- The connection is authenticated, if it is in the table. -/
def ConnectionManager.Authenticates (manager : ConnectionManager) (id : String) : Prop :=
  ∀ entry, manager.connections.get id = some entry → entry.info.authenticated = true

/-- What a consumer knows about its connection and its frame. -/
def Consumer.Admissible (manager : ConnectionManager) (id : String) : Consumer → Prop
  | .taken _ received | .refreshed _ received =>
      ∀ entry, manager.connections.get id = some entry →
        entry.info.negotiationCompleted = true → received ≠ some false
  | .negotiated _ _ received => received ≠ some false
  | .handling frame received => Server.Admissible frame received
  | .registering _ | .kicking _ _ | .kickSending _ _ _ _ | .kickUnregistering _ _ _
  | .kickRemoving _ _ _ | .acknowledging _ _ | .completing _ | .storing _ _ _ =>
      manager.Authenticates id
  | .receive | .preNegotiation _ _ | .connecting _ | .authenticating _ | .informing _ | .marking _
  | .notifying _ | .rejectingLate _ _ | .rejecting _ | .removing => True

structure World.Admissible (world : World) : Prop where
  /-- Negotiation is completed for authenticated connections only. -/
  table : ∀ id entry, world.manager.connections.get id = some entry →
    entry.info.negotiationCompleted = true → entry.info.authenticated = true
  jobs : ∀ job ∈ world.jobs, job.Admissible
  callbacks : ∀ callback ∈ world.callbacks, callback.Admissible

structure Runtime.Admissible (state : Runtime) : Prop where
  world : state.world.Admissible
  consumers : ∀ id consumer, state.consumers id = some consumer →
    consumer.Admissible state.world.manager id

/-- What one consumer knows is not affected by the steps of the others. -/
theorem Consumer.Admissible.of_keeps {before after : ConnectionManager} {id : String}
    {consumer : Consumer} (knows : consumer.Admissible before id)
    (keeps : ConnectionManager.KeepsConnection before after id) : consumer.Admissible after id := by
  have authenticates : before.Authenticates id → after.Authenticates id := by
    intro authenticated entry found
    obtain ⟨earlier, foundEarlier, follows⟩ := keeps entry found
    exact follows.authenticated (authenticated earlier foundEarlier)
  have received : ∀ received : Option Bool, (∀ entry, before.connections.get id = some entry →
      entry.info.negotiationCompleted = true → received ≠ some false) →
      ∀ entry, after.connections.get id = some entry →
        entry.info.negotiationCompleted = true → received ≠ some false := by
    intro received known entry found completed
    obtain ⟨earlier, foundEarlier, follows⟩ := keeps entry found
    exact known earlier foundEarlier (follows.negotiationCompleted ▸ completed)
  cases consumer with
  | taken data flag => exact received flag knows
  | refreshed data flag => exact received flag knows
  | registering => exact authenticates knows
  | kicking => exact authenticates knows
  | kickSending => exact authenticates knows
  | kickUnregistering => exact authenticates knows
  | kickRemoving => exact authenticates knows
  | acknowledging => exact authenticates knows
  | completing => exact authenticates knows
  | storing => exact authenticates knows
  | _ => exact knows

namespace World.Admissible

variable {world : World} (admissible : world.Admissible)

include admissible

theorem spawn {jobs : List Job} (clear : ∀ job ∈ jobs, job.Admissible) :
    (world.spawn jobs).Admissible where
  table := admissible.table
  jobs job member := (List.mem_append.mp member).elim (admissible.jobs job) (clear job)
  callbacks := admissible.callbacks

theorem calls {callback : Callback} (clear : callback.Admissible) :
    (world.calls callback).Admissible where
  table := admissible.table
  jobs := admissible.jobs
  callbacks other member := by
    rcases List.mem_append.mp member with earlier | added
    · exact admissible.callbacks other earlier
    · exact List.mem_singleton.mp added ▸ clear

theorem withManager {manager : ConnectionManager}
    (keeps : ∀ id, ConnectionManager.KeepsConnection world.manager manager id) :
    (world.withManager manager).Admissible where
  table id entry found completed := by
    obtain ⟨earlier, foundEarlier, follows⟩ := keeps id entry found
    exact follows.authenticated (admissible.table id earlier foundEarlier
      (follows.negotiationCompleted ▸ completed))
  jobs := admissible.jobs
  callbacks := admissible.callbacks

theorem stamped : world.stamped.Admissible :=
  ⟨admissible.table, admissible.jobs, admissible.callbacks⟩

theorem writes (id : String) (data : Wire) (ack : Bool) : (world.writes id data ack).Admissible :=
  ⟨admissible.table, admissible.jobs, admissible.callbacks⟩

theorem explain (id : String) (encoded : Result Wire) : (world.explain id encoded).Admissible := by
  cases encoded with
  | ok data => exact admissible.stamped.writes id data false
  | error error => exact admissible.stamped

theorem handleAndSendResponse (stamps : Nat → Stamp) (id : String) {frame : Frame}
    {received : Option Bool} (clear : Server.Admissible frame received) (messageId : String)
    (answer : Answer) :
    (world.handleAndSendResponse stamps id frame received messageId answer).Admissible := by
  have called : Callback.Admissible (.handle id frame received) := clear
  exact (admissible.calls called).stamped.spawn (by simp [sendFrameToJob, Job.Admissible])

theorem handleFrame (stamps : Nat → Stamp) (id : String) {frame : Frame} {received : Option Bool}
    (clear : Server.Admissible frame received) (answer : Answer) :
    (world.handleFrame stamps id frame received answer).Admissible := by
  unfold World.handleFrame
  split
  · split_ifs
    · exact admissible
    · exact admissible.spawn (List.forall_mem_singleton.mpr clear)
  · split_ifs
    · exact admissible.handleAndSendResponse stamps id clear _ answer
    · exact admissible
  · exact admissible.handleAndSendResponse stamps id clear _ answer
  · exact admissible.spawn (List.forall_mem_singleton.mpr clear)
  · exact admissible

theorem handleSystemCommand (stamps : Nat → Stamp) (id : String) {frame : Frame}
    {received : Option Bool} (clear : Server.Admissible frame received) (answer : Answer) :
    (world.handleSystemCommand stamps id frame received answer).Admissible := by
  have called : Callback.Admissible (.handle id frame received) := clear
  unfold World.handleSystemCommand
  split
  · exact (admissible.calls called).stamped.spawn (by simp [sendFrameToJob, Job.Admissible])
  · exact (admissible.calls called).spawn (by simp [Job.Admissible])
  · refine admissible.spawn ?_
    simp only [List.mem_cons, List.not_mem_nil, or_false, forall_eq_or_imp, forall_eq]
    exact ⟨trivial, clear⟩
  · exact admissible.spawn (by simp [Job.Admissible])
  · exact admissible

end World.Admissible

/-! ## One step -/

variable [RustText] {setting : Setting} {world : World}

theorem World.Admissible.perform (admissible : world.Admissible) {job : Job}
    (clear : job.Admissible) (answer : Answer) :
    (job.perform setting.registries setting.stamps setting.enumeration world answer).Admissible := by
  have keeps := job.keepsConnection_perform setting world answer
  cases job with
  | systemCommand id frame received => exact admissible.handleSystemCommand _ id clear answer
  | systemEvent id frame received => exact admissible.handleAndSendResponse _ id clear _ answer
  | customCommand id frame received =>
      exact (admissible.handleAndSendResponse _ id clear _ answer).spawn (by simp [Job.Admissible])
  | updateActive id => exact admissible.withManager keeps
  | confirmNegotiation id => exact admissible.withManager keeps
  | readUser owner fanout => exact admissible.spawn (by simp [Job.Admissible])
  | read reads fanout => cases reads <;> exact admissible.spawn (by simp [Job.Admissible])
  | deliver fanout =>
      simp only [Job.perform, World.deliver]
      split
      · exact admissible.spawn (by simp [Job.Admissible])
      · exact (admissible.withManager
          (world.manager.keepsConnection_sendEncoded _ _)).spawn (by simp [Job.Admissible])
  | activate now groups =>
      cases groups with
      | nil => exact admissible
      | cons group groups => exact (admissible.withManager keeps).spawn (by simp [Job.Admissible])
  | bindUser id userId => exact admissible.withManager keeps
  | setAuthenticated id userId => exact admissible.withManager keeps
  | transportError id =>
      have called : Callback.Admissible (.onError id) := trivial
      exact (admissible.calls called).spawn (by simp [Job.Admissible])
  | disconnected id =>
      have called : Callback.Admissible (.onDisconnect id) := trivial
      exact (admissible.calls called).spawn (by simp [Job.Admissible])
  | removeDisconnected id => exact (admissible.withManager keeps).spawn (by simp [Job.Admissible])
  | disconnect id => exact admissible.withManager keeps
  | unregister id => exact ⟨admissible.table, admissible.jobs, admissible.callbacks⟩
  | isolate id => exact admissible.withManager keeps
  | scan timeout => exact admissible.spawn (by simp [Job.Admissible])
  | evict ids => exact admissible.withManager keeps
  | forceClose => exact admissible.spawn (by simp [Job.Admissible])

/-- What `handle_pre_negotiation_message` is about to pass on for a connection that was not
authenticated when the frame was received. -/
def Consumer.passesOnEarly (setting : Setting) : Consumer → Bool
  | .preNegotiation data (some false) =>
      (setting.parsePreNegotiation data).toOption.any isBusinessFrame
  | _ => false

/-- What a frame that is not a negotiation's makes of a consumer. -/
theorem admissible_handlePreNegotiationMessage {data : Bytes} {received : Option Bool}
    (withheld : (Consumer.preNegotiation data received).passesOnEarly setting = false)
    (manager : ConnectionManager) (id : String) :
    (World.handlePreNegotiationMessage setting data received).Admissible manager id := by
  unfold World.handlePreNegotiationMessage
  cases parsed : setting.parsePreNegotiation data with
  | error error => trivial
  | ok frame =>
      dsimp only
      split_ifs
      · trivial
      · rintro business rfl
        simp [Consumer.passesOnEarly, parsed, Except.toOption, business] at withheld

/-- A frame is taken up with the flag of its connection. -/
theorem World.Admissible.takeUp (admissible : world.Admissible) (id : String) :
    (world.takeUp setting id).1.Admissible ∧
      (world.takeUp setting id).2.Admissible (world.takeUp setting id).1.manager id := by
  unfold World.takeUp
  split
  · exact ⟨admissible, trivial⟩
  · split_ifs
    · exact ⟨⟨admissible.table, admissible.jobs, admissible.callbacks⟩, trivial⟩
    · refine ⟨⟨admissible.table, admissible.jobs, admissible.callbacks⟩, ?_⟩
      intro entry found completed
      have authenticated := admissible.table id entry found completed
      have flag : world.authenticated id = some entry.info.authenticated :=
        congrArg (Option.map fun entry : ConnectionEntry => entry.info.authenticated) found
      rw [flag, authenticated]
      decide

omit [RustText] in
/-- What is decoded with a negotiated profile comes from an authenticated connection. -/
theorem admissible_route {id : String} {data : Bytes} {received : Option Bool}
    (knows : (Consumer.refreshed data received).Admissible world.manager id) :
    (world.route id data received).Admissible world.manager id := by
  unfold World.route
  split
  · trivial
  · next entry found =>
      split_ifs with completed
      · exact knows entry found completed
      · trivial

theorem World.Admissible.handleNegotiatedMessage (admissible : world.Admissible) (id : String)
    (data : Bytes) (info : ConnectionInfo) {received : Option Bool}
    (authenticated : received ≠ some false) :
    (world.handleNegotiatedMessage setting id data info received).1.Admissible ∧
      (world.handleNegotiatedMessage setting id data info received).2.Admissible
        (world.handleNegotiatedMessage setting id data info received).1.manager id := by
  unfold World.handleNegotiatedMessage
  split_ifs
  · exact ⟨admissible.withManager (world.manager.tame_markNegotiationConfirmed id).connections,
      trivial⟩
  · split
    · exact ⟨admissible, fun _ => authenticated⟩
    · exact ⟨admissible, trivial⟩

omit [RustText] in
/-- After `mark_connection_authenticated` the connection is authenticated. -/
theorem authenticates_markConnectionAuthenticated (manager : ConnectionManager) (id : String)
    (identity : ConnectionIdentity) (now : Instant) :
    (manager.markConnectionAuthenticated id identity now).Authenticates id := by
  intro entry found
  have open_ : (InfoUpdate.setAuthenticated identity.userId).completes = false := rfl
  obtain ⟨earlier, foundEarlier, -⟩ :=
    (manager.tame_updateConnection id open_ now).connections id entry found
  have marked := ConnectionManager.get_updateConnection foundEarlier
    (.setAuthenticated identity.userId) now
  obtain rfl := Option.some.inj (marked.symm.trans found)
  rfl

omit [RustText] in
theorem World.Admissible.register (admissible : world.Admissible) {id : String}
    (authenticated : world.manager.Authenticates id) (acceptance : Acceptance) :
    (world.register id acceptance).1.Admissible ∧
      (world.register id acceptance).2.Admissible (world.register id acceptance).1.manager id := by
  unfold World.register
  split
  · exact ⟨⟨admissible.table, admissible.jobs, admissible.callbacks⟩, authenticated⟩
  · exact ⟨admissible, authenticated⟩

theorem World.Admissible.kick (admissible : world.Admissible) {id : String}
    (authenticated : world.manager.Authenticates id) (conflict : Conflict) (victim : String)
    (victims : List String) :
    (world.kick setting id conflict victim victims).1.Admissible ∧
      (world.kick setting id conflict victim victims).2.Admissible
        (world.kick setting id conflict victim victims).1.manager id := by
  unfold World.kick
  split_ifs
  · exact ⟨admissible, authenticated⟩
  · split
    · exact ⟨admissible, authenticated⟩
    · split <;> exact ⟨admissible.stamped, authenticated⟩

theorem World.Admissible.acknowledge (admissible : world.Admissible) {id : String}
    (authenticated : world.manager.Authenticates id) (profile : Profile) (conflicts : List String)
    (answer : Answer) :
    (world.acknowledge setting id profile conflicts answer).1.Admissible ∧
      (world.acknowledge setting id profile conflicts answer).2.Admissible
        (world.acknowledge setting id profile conflicts answer).1.manager id := by
  unfold World.acknowledge
  split
  · exact ⟨admissible.stamped, trivial⟩
  · refine ⟨admissible.stamped.writes _ _ _, ?_⟩
    split_ifs
    · exact authenticated
    · trivial

omit [RustText] in
/-- Only an authenticated connection has its negotiation completed. -/
theorem World.Admissible.completeNegotiation (admissible : world.Admissible) (core : ServerCore)
    {id : String} (authenticated : world.manager.Authenticates id) (device : Option DeviceInfo)
    (userId : Option String) (profile : Profile) :
    (world.withManager (world.manager.completeNegotiation core id device userId profile
      world.clock)).Admissible := by
  refine ⟨?_, admissible.jobs, admissible.callbacks⟩
  intro other entry found completed
  by_cases same : other = id
  · subst same
    cases present : world.manager.connections.get other with
    | none =>
        simp only [World.withManager, ConnectionManager.completeNegotiation,
          ConnectionManager.updateConnectionNegotiationWithPipeline,
          ConnectionManager.updateConnection, present, reduceCtorEq] at found
    | some earlier =>
        have stored := (ConnectionManager.get_updateConnection present _ world.clock).symm.trans
          found
        obtain rfl := Option.some.inj stored
        exact authenticated earlier present
  · obtain ⟨earlier, foundEarlier, follows⟩ :=
      world.manager.keepsConnection_completeNegotiation core same device userId profile world.clock
        entry found
    exact follows.authenticated (admissible.table other earlier foundEarlier
      (follows.negotiationCompleted ▸ completed))

/-- One step of a consumer that passes nothing on early. -/
theorem World.Admissible.consume (admissible : world.Admissible) {id : String} (answer : Answer)
    {consumer : Consumer} (knows : consumer.Admissible world.manager id)
    (withheld : consumer.passesOnEarly setting = false) :
    (world.consume setting id answer consumer).1.Admissible ∧
      (world.consume setting id answer consumer).2.Admissible
        (world.consume setting id answer consumer).1.manager id := by
  cases consumer with
  | receive => exact admissible.takeUp id
  | taken data received =>
      have keeps := (world.manager.tame_touch id world.clock).connections
      have still : (Consumer.refreshed data received).Admissible world.manager id := knows
      exact ⟨admissible.withManager keeps, still.of_keeps (keeps id)⟩
  | refreshed data received => exact ⟨admissible, admissible_route knows⟩
  | negotiated data info received => exact admissible.handleNegotiatedMessage id data info knows
  | preNegotiation data received =>
      exact ⟨admissible, admissible_handlePreNegotiationMessage withheld _ id⟩
  | handling frame received => exact ⟨admissible.handleFrame _ id knows answer, trivial⟩
  | connecting frame =>
      refine ⟨admissible, ?_⟩
      simp only [World.consume]
      split_ifs <;> trivial
  | authenticating frame =>
      refine ⟨admissible, ?_⟩
      simp only [World.consume, World.authenticate]
      split <;> trivial
  | informing acceptance =>
      exact ⟨admissible.withManager (world.manager.tame_updateConnection id rfl _).connections,
        trivial⟩
  | marking acceptance =>
      exact ⟨admissible.withManager (world.manager.tame_updateConnection id rfl _).connections,
        authenticates_markConnectionAuthenticated _ id acceptance.identity world.clock⟩
  | registering acceptance => exact admissible.register knows acceptance
  | kicking conflict victims =>
      cases victims with
      | nil => exact ⟨admissible, knows⟩
      | cons victim victims => exact admissible.kick knows conflict victim victims
  | kickSending conflict victim data victims => exact ⟨admissible.writes _ _ _, knows⟩
  | kickUnregistering conflict victim victims =>
      exact ⟨⟨admissible.table, admissible.jobs, admissible.callbacks⟩, knows⟩
  | kickRemoving conflict victim victims =>
      have keeps := (world.manager.shrinks_removeConnection victim).tame.connections
      have still : (Consumer.kicking conflict victims).Admissible world.manager id := knows
      exact ⟨admissible.withManager keeps, still.of_keeps (keeps id)⟩
  | acknowledging profile conflicts => exact admissible.acknowledge knows profile conflicts answer
  | completing profile =>
      refine ⟨admissible, ?_⟩
      simp only [World.consume]
      split
      · trivial
      · exact knows
  | storing profile device userId =>
      exact ⟨admissible.completeNegotiation setting.core knows device userId profile, trivial⟩
  | notifying profile =>
      have called : Callback.Admissible (.onConnect id) := trivial
      refine ⟨admissible.calls called, ?_⟩
      simp only [World.consume]
      split <;> trivial
  | rejectingLate profile error => exact ⟨admissible.explain id _, trivial⟩
  | rejecting error =>
      simp only [World.consume, World.rejectConnect]
      split
      · exact ⟨admissible, trivial⟩
      · exact ⟨admissible.explain id _, trivial⟩
  | removing =>
      exact ⟨admissible.withManager (world.manager.shrinks_removeConnection id).tame.connections, trivial⟩

/-! ## Runs -/

/-- The move makes `handle_pre_negotiation_message` pass on a business frame that was received
while its connection was not authenticated. -/
def passesOnEarly (setting : Setting) (state : Runtime) : Move → Bool
  | .consume id _ => (state.consumers id).any (Consumer.passesOnEarly setting)
  | _ => false

def NothingPassedOnEarly (setting : Setting) (state : Runtime) (move : Move) : Prop :=
  passesOnEarly setting state move = false

instance (state : Runtime) (move : Move) : Decidable (NothingPassedOnEarly setting state move) :=
  inferInstanceAs (Decidable (_ = _))

namespace Runtime.Admissible

variable {state state' : Runtime} (admissible : state.Admissible)

include admissible

omit [RustText] in
/-- A step that does not touch the consumers. -/
theorem of_keeps {world : World} (clear : world.Admissible)
    (keeps : ∀ id, ConnectionManager.KeepsConnection state.world.manager world.manager id)
    (writing : WriteHandle → Option Wire) :
    Runtime.Admissible ⟨world, state.consumers, writing⟩ where
  world := clear
  consumers id consumer found := (admissible.consumers id consumer found).of_keeps (keeps id)

omit [RustText] in
/-- A step that touches neither the consumers nor the connections. -/
theorem of_manager {world : World} (clear : world.Admissible)
    (same : world.manager = state.world.manager) :
    Runtime.Admissible ⟨world, state.consumers, state.writing⟩ :=
  admissible.of_keeps clear (fun _ => same ▸ .of_get fun _ found => found) _

omit [RustText] in
theorem accept {id : String} {connection : ConnectionHandle}
    (accepted : state.accept setting id connection = some state') : state'.Admissible := by
  obtain ⟨manager, consumers, rfl, keeps, -, origin⟩ := Runtime.accept_cases accepted
  refine ⟨⟨?_, admissible.world.jobs, admissible.world.callbacks⟩, ?_⟩
  · intro other entry found completed
    rcases keeps other entry found with earlier | ⟨rfl, new⟩
    · exact admissible.world.table other entry earlier completed
    · rw [new] at completed
      cases completed
  · intro other consumer found
    rcases origin other consumer found with rfl | ⟨distinct, earlier⟩
    · trivial
    · refine (admissible.consumers other consumer earlier).of_keeps (.of_get fun entry present => ?_)
      exact (keeps other entry present).resolve_right fun new => distinct new.1

omit [RustText] in
theorem flush {handle : WriteHandle} {succeeds : Bool}
    (flushed : state.flush handle succeeds = some state') : state'.Admissible := by
  rcases Runtime.flush_cases flushed with
    ⟨data, manager, -, shrinks, rfl⟩ | ⟨data, manager, jobs, -, shrinks, isolates, rfl⟩
  · have keeps := shrinks.tame.connections
    exact admissible.of_keeps (admissible.world.withManager keeps) keeps _
  · have keeps := shrinks.tame.connections
    have written := (admissible.world.writes handle.connectionId data false).withManager keeps
    refine admissible.of_keeps (written.spawn ?_) keeps _
    intro job member
    rw [isolates job member]
    trivial

theorem consume {id : String} {answer : Answer} {consumer : Consumer}
    (found : state.consumers id = some consumer)
    (withheld : consumer.passesOnEarly setting = false) :
    Runtime.Admissible ⟨(state.world.consume setting id answer consumer).1,
      Function.update state.consumers id
        (some (state.world.consume setting id answer consumer).2), state.writing⟩ := by
  obtain ⟨world, own⟩ :=
    admissible.world.consume answer (admissible.consumers id consumer found) withheld
  refine ⟨world, ?_⟩
  intro other later present
  dsimp only at present
  by_cases same : other = id
  · subst same
    rw [Function.update_self] at present
    exact Option.some.inj present ▸ own
  · rw [Function.update_of_ne same] at present
    exact (admissible.consumers other later present).of_keeps
      (state.world.keepsConnection_consume setting answer id consumer same)

/-- **Every step that passes nothing on early keeps the invariant.** -/
theorem step {move : Move} (withheld : NothingPassedOnEarly setting state move)
    (stepped : state.step setting move = some state') : state'.Admissible := by
  cases move with
  | accept id connection => exact admissible.accept stepped
  | arrive id data =>
      simp only [Runtime.step, Runtime.arrive] at stepped
      split_ifs at stepped
      · obtain rfl := Option.some.inj stepped
        exact admissible
      · obtain rfl := Option.some.inj stepped
        exact admissible.of_manager
          ⟨admissible.world.table, admissible.world.jobs, admissible.world.callbacks⟩ rfl
  | websocketPing id =>
      simp only [Runtime.step] at stepped
      split_ifs at stepped
      obtain rfl := Option.some.inj stepped
      exact admissible.of_manager (admissible.world.stamped.writes id _ false) rfl
  | closed id errored =>
      simp only [Runtime.step] at stepped
      split_ifs at stepped
      all_goals
        obtain rfl := Option.some.inj stepped
        exact admissible.of_manager (admissible.world.spawn (by simp [Job.Admissible])) rfl
  | call call =>
      obtain rfl := Option.some.inj stepped
      refine admissible.of_manager (admissible.world.stamped.spawn ?_) rfl
      cases call <;> simp [ServerCall.jobs, sendFrameToJob, sendFrameToUserJob,
        sendFrameToConnectionsJob, broadcastJob, Job.Admissible]
  | consume id answer =>
      obtain ⟨consumer, found, rfl⟩ := Option.map_eq_some_iff.mp stepped
      refine admissible.consume found ?_
      simpa [NothingPassedOnEarly, passesOnEarly, found] using withheld
  | work index answer =>
      obtain ⟨job, found, rfl⟩ := Option.map_eq_some_iff.mp stepped
      have others : World.Admissible { state.world with jobs := state.world.jobs.eraseIdx index } :=
        ⟨admissible.world.table,
          fun other member => admissible.world.jobs other (List.mem_of_mem_eraseIdx member),
          admissible.world.callbacks⟩
      exact admissible.of_keeps
        (others.perform (admissible.world.jobs job (List.mem_of_getElem? found)) answer)
        (job.keepsConnection_perform setting _ answer) _
  | flush handle succeeds => exact admissible.flush stepped
  | tick duration =>
      obtain rfl := Option.some.inj stepped
      exact admissible.of_manager
        ⟨admissible.world.table, admissible.world.jobs, admissible.world.callbacks⟩ rfl

end Runtime.Admissible

omit [RustText] in
theorem Runtime.admissible_initial (writeQueueCapacity : Nat) (devices : Option DeviceManager)
    (clock : Instant) : (Runtime.initial writeQueueCapacity devices clock).Admissible where
  world :=
    { table := by
        intro id entry found
        rw [Runtime.initial, ConnectionManager.new, ShardedMap.get_empty] at found
        cases found
      jobs := by simp [Runtime.initial]
      callbacks := by simp [Runtime.initial] }
  consumers := by simp [Runtime.initial]

/-- **A business frame that was received while its connection was not authenticated reaches no
callback**, in any run in which none is passed on before negotiation.  A frame is received when the
consumer of its connection takes it off the inbound queue. -/
theorem business_frames_admitted (setting : Setting) (writeQueueCapacity : Nat)
    (devices : Option DeviceManager) (clock : Instant) {state : Runtime}
    (reached : (serverSystem setting).Reaches (NothingPassedOnEarly setting)
      (Runtime.initial writeQueueCapacity devices clock) state) :
    ∀ id frame received, Callback.handle id frame received ∈ state.world.callbacks →
      isBusinessFrame frame = true → received ≠ some false := by
  have admissible : state.Admissible := by
    refine System.Reaches.invariant (I := Runtime.Admissible) reached
      (Runtime.admissible_initial writeQueueCapacity devices clock) ?_
    rintro before after ⟨move, withheld, stepped⟩ invariant
    exact invariant.step withheld stepped
  intro id frame received called
  exact admissible.world.callbacks _ called

end Admission

/-! ## Concrete runs -/

section Runs

open scoped SingleShard AsciiText

/-- A payload as a client sends it. -/
def helloFrame : Frame :=
  .withPayloadCommand ⟨"m", 0⟩ ⟨PayloadType.message.toInt32, "m", utf8 "hello", ∅, 0⟩ .atLeastOnce

/-- CONNECT with a token. -/
def tokenConnect : Frame :=
  .withSystemCommand ⟨"k", 0⟩
    (.connect .json ((∅ : StringMap Bytes).insert "token" (utf8 "secret"))) .atLeastOnce

/-- A server that asks for a token. -/
def guardedSetting : Setting where
  registries := builtinRegistries [helloFrame, tokenConnect]
  core :=
    { defaultSerializationFormat := .json
      defaultCompression := .none
      defaultEncryption := .none
      authConfigured := true
      authenticator := some fun _ token _ _ _ => .ok
        (if token = "secret" then ⟨true, some "alice", none, none, false⟩
        else ⟨false, none, none, none, false⟩)
      pipelineForNegotiationProfile := fun _ => none }
  maxConnections := 8
  stamps := fun count => ⟨toString count, 0⟩
  enumeration := .given CodecProfile
  encodeProtobuf := Frame.protobuf

/-- The application answers nothing in particular, and every write succeeds. -/
def quiet : Answer := ⟨.ok none, true⟩

/-- A frame arrives and its consumer makes some steps. -/
def received (id : String) (frame : Frame) (steps : Nat) : List Move :=
  .arrive id (utf8 frame.json) :: List.replicate steps (.consume id quiet)

/-- A business frame that was received with a given flag has reached a callback. -/
def delivered (flag : Bool) (state : Runtime) : Bool :=
  state.world.callbacks.any fun callback =>
    match callback with
    | .handle _ frame received => isBusinessFrame frame && received == some flag
    | _ => false

theorem exists_of_delivered {flag : Bool} {state : Runtime} (holds : delivered flag state = true) :
    ∃ id frame, Callback.handle id frame (some flag) ∈ state.world.callbacks ∧
      isBusinessFrame frame = true := by
  obtain ⟨callback, member, here⟩ := List.any_eq_true.mp holds
  cases callback with
  | handle id frame received =>
      obtain ⟨business, same⟩ := Bool.and_eq_true_iff.mp here
      obtain rfl := eq_of_beq same
      exact ⟨id, frame, member, business⟩
  | _ => cases here

/-- After CONNECT a payload is delivered, and the theorem applies. -/
theorem business_frames_admitted_after_connect :
    ∃ state, (serverSystem guardedSetting).Reaches (NothingPassedOnEarly guardedSetting)
        (Runtime.initial 8 none 0) state ∧
      (∃ id frame, Callback.handle id frame (some true) ∈ state.world.callbacks ∧
        isBusinessFrame frame = true) ∧
      ∀ id frame received, Callback.handle id frame received ∈ state.world.callbacks →
        isBusinessFrame frame = true → received ≠ some false := by
  have run : ((serverSystem guardedSetting).run (Runtime.initial 8 none 0)
      (.accept "c" 0 :: (received "c" tokenConnect 13 ++ received "c" helloFrame 5))).any
        (delivered true) = true := by
    decide +kernel
  have permitted : (serverSystem guardedSetting).Permits (NothingPassedOnEarly guardedSetting)
      (Runtime.initial 8 none 0)
      (.accept "c" 0 :: (received "c" tokenConnect 13 ++ received "c" helloFrame 5)) := by
    decide +kernel
  obtain ⟨state, reached, holds⟩ := System.exists_reaches_of_run run permitted
  exact ⟨state, reached, exists_of_delivered holds,
    business_frames_admitted guardedSetting 8 none 0 reached⟩

/-- **A payload that arrives before CONNECT is delivered**, although the server asks for a
token. -/
theorem early_payload_delivered :
    guardedSetting.core.authEnabled = true ∧
    ∃ state, (serverSystem guardedSetting).Reaches System.always (Runtime.initial 8 none 0) state ∧
      ∃ id frame, Callback.handle id frame (some false) ∈ state.world.callbacks ∧
        isBusinessFrame frame = true := by
  have run : ((serverSystem guardedSetting).run (Runtime.initial 8 none 0)
      (.accept "c" 0 :: received "c" helloFrame 5)).any (delivered false) = true := by
    decide +kernel
  obtain ⟨state, reached, holds⟩ := System.exists_reaches_of_run run (System.permits_always _ _)
  exact ⟨rfl, state, reached, exists_of_delivered holds⟩

end Runs

end FlareCore.Server
