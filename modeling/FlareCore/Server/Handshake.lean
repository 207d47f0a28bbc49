import FlareCore.Server.Lifetime
import FlareCore.Server.Encoding

/-!
# The negotiation as the table shows it

The outcome of a negotiation is written at three moments.  The profile goes into the connection's
information before the acknowledgement, without a parser; after the acknowledgement the profile
is written once more, together with its parser, and the negotiation counts as completed; and the
client's NEGOTIATION_READY confirms it.  The first write would break up profile and parser of a
connection whose negotiation is completed already.

It never meets one.  Only the consumer of a connection makes the first two writes, and it does so
on its way from a look at the table that found the negotiation open; nobody else completes it in
between.
-/

namespace FlareCore.Server

open FlareCore.Common FlareCore.Foundations

set_option autoImplicit false

/-! ## Coherent entries -/

/-- The profile that an entry carries. -/
def ConnectionInfo.profile (info : ConnectionInfo) : Profile :=
  ⟨info.serializationFormat, info.compression, info.encryption⟩

/-- What is confirmed is completed, and what is completed has a parser for its profile. -/
structure ConnectionInfo.Coherent (info : ConnectionInfo) : Prop where
  completed : info.negotiationConfirmed = true → info.negotiationCompleted = true
  parser : info.negotiationCompleted = true →
    ∃ parser, info.cachedParser = some parser ∧ parser.profile = info.profile

namespace ConnectionInfo.Coherent

theorem initial (id : String) (userId : Option String) (requiresAuth : Bool) (now : Instant) :
    (ConnectionManager.initialInfo id userId requiresAuth now).Coherent where
  completed confirmed := by cases userId <;> cases confirmed
  parser completed := by cases userId <;> cases completed

variable {info : ConnectionInfo} (coherent : info.Coherent)

include coherent

/-- An update that only concerns who is connected. -/
theorem identify {update : InfoUpdate} (identifies : update.identifies = true) (now : Instant) :
    (update.apply now info).Coherent := by
  cases update with
  | bindUser userId => exact ⟨coherent.completed, coherent.parser⟩
  | setAuthenticated userId => exact ⟨coherent.completed, coherent.parser⟩
  | negotiation negotiation metadata => cases identifies
  | negotiationWithPipeline negotiation parser pipeline => cases identifies

/-- The profile may be written while the negotiation is open. -/
theorem negotiate (unfinished : info.negotiationCompleted = false) (negotiation : Negotiation)
    (metadata : Option (StringMap String)) (now : Instant) :
    ((InfoUpdate.negotiation negotiation metadata).apply now info).Coherent where
  completed confirmed := coherent.completed confirmed
  parser completed := by
    have completedBefore : info.negotiationCompleted = true := completed
    rw [unfinished] at completedBefore
    cases completedBefore

theorem confirm (completed : info.negotiationCompleted = true) :
    { info with negotiationConfirmed := true }.Coherent where
  completed _ := completed
  parser := coherent.parser

theorem touch (now : Instant) : { info with lastActive := now }.Coherent :=
  ⟨coherent.completed, coherent.parser⟩

end ConnectionInfo.Coherent

/-- The completion of a negotiation brings the parser of the profile along. -/
theorem ConnectionInfo.coherent_complete (info : ConnectionInfo) (device : Option DeviceInfo)
    (userId : Option String) (profile : Profile) (pipeline : Option Pipeline) (now : Instant) :
    ((InfoUpdate.negotiationWithPipeline ⟨device, profile.format, profile.compression,
      profile.encryption, userId⟩ profile.parser pipeline).apply now info).Coherent where
  completed _ := rfl
  parser _ := ⟨profile.parser, rfl, rfl⟩

section Handshake

variable [Hashing]

/-- Every entry of the table is coherent. -/
def ConnectionManager.Coherent (manager : ConnectionManager) : Prop :=
  ∀ id entry, manager.connections.get id = some entry → entry.info.Coherent

namespace ConnectionManager

variable {manager : ConnectionManager}

theorem Coherent.writeInfo (coherent : manager.Coherent) {id : String} {entry : ConnectionEntry}
    {info : ConnectionInfo} (written : info.Coherent) :
    (manager.writeInfo id entry info).Coherent := by
  intro other later present
  rw [ConnectionManager.writeInfo, ShardedMap.get_insert] at present
  split_ifs at present
  · obtain rfl := Option.some.inj present
    exact written
  · exact coherent other later present

theorem Coherent.touch (coherent : manager.Coherent) (id : String) (now : Instant) :
    (manager.touch id now).Coherent := by
  unfold ConnectionManager.touch
  split
  · exact coherent
  · next entry found => exact coherent.writeInfo ((coherent id entry found).touch now)

theorem Coherent.touchAll (coherent : manager.Coherent) (ids : List String) (now : Instant) :
    (ids.foldl (fun manager id => manager.touch id now) manager).Coherent := by
  induction ids generalizing manager with
  | nil => exact coherent
  | cons id ids inductionHypothesis =>
      exact inductionHypothesis (coherent.touch id now)

theorem Coherent.markNegotiationConfirmed (coherent : manager.Coherent) (id : String) :
    (manager.markNegotiationConfirmed id).1.Coherent := by
  unfold ConnectionManager.markNegotiationConfirmed
  split
  · exact coherent
  · next entry found =>
      split_ifs with completed
      · exact coherent.writeInfo ((coherent id entry found).confirm completed)
      · exact coherent

theorem Coherent.updateConnection (coherent : manager.Coherent) {id : String} {update : InfoUpdate}
    {now : Instant} (kept : ∀ entry, manager.connections.get id = some entry →
      (update.apply now entry.info).Coherent) :
    (manager.updateConnection id update now).1.Coherent := by
  intro other entry found
  by_cases same : other = id
  · subst same
    cases present : manager.connections.get other with
    | none =>
        rw [ConnectionManager.updateConnection, present] at found
        exact coherent other entry found
    | some earlier =>
        rw [get_updateConnection present] at found
        rw [← Option.some.inj found]
        exact kept earlier present
  · rw [get_updateConnection_of_ne same] at found
    exact coherent other entry found

/-- The table stays coherent if the updates that are made keep their connections so. -/
theorem Coherent.of_changes (coherent : manager.Coherent) {may : String → InfoUpdate → Prop}
    {after : ConnectionManager} (changes : Changes may manager after)
    (kept : ∀ id update entry now, may id update → manager.connections.get id = some entry →
      entry.info.Coherent → (update.apply now entry.info).Coherent) : after.Coherent := by
  cases changes with
  | shrinks shrinks =>
      exact fun id entry found => coherent id entry (shrinks.connections id entry found)
  | touched ids now => exact coherent.touchAll ids now
  | confirmed id => exact coherent.markNegotiationConfirmed id
  | updated id update now permitted =>
      refine coherent.updateConnection fun entry found => ?_
      exact kept id update entry now permitted found (coherent id entry found)

end ConnectionManager

/-! ## Consumers -/

/-- The consumer is on its way from a table entry whose negotiation was open to the completion of
the negotiation. -/
def Consumer.underway : Consumer → Bool
  | .preNegotiation _ _ | .connecting _ | .authenticating _ | .informing _ | .marking _
  | .registering _ | .kicking _ _ | .kickSending _ _ _ _ | .kickUnregistering _ _ _
  | .kickRemoving _ _ _ | .acknowledging _ _ | .completing _ | .storing _ _ _ => true
  | .receive | .taken _ _ | .refreshed _ _ | .negotiated _ _ _ | .handling _ _ | .notifying _
  | .rejectingLate _ _ | .rejecting _ | .removing => false

/-- The negotiation of a connection is open, or the connection is gone. -/
def ConnectionManager.Unfinished (manager : ConnectionManager) (id : String) : Prop :=
  ∀ entry, manager.connections.get id = some entry → entry.info.negotiationCompleted = false

theorem ConnectionManager.Unfinished.of_keeps {before after : ConnectionManager} {id : String}
    (unfinished : before.Unfinished id) (keeps : KeepsConnection before after id) :
    after.Unfinished id := by
  intro entry found
  obtain ⟨earlier, foundEarlier, follows⟩ := keeps entry found
  rw [follows.negotiationCompleted]
  exact unfinished earlier foundEarlier

variable [RustText] {setting : Setting} {world : World} {id : String} {answer : Answer}

/-- A consumer that is underway after a step was so before and has not completed anything, or it
has just seen that the negotiation is open. -/
theorem World.underway_of_consume {consumer : Consumer}
    (underway : (world.consume setting id answer consumer).2.underway = true) :
    (consumer.underway = true ∧ ∀ profile device userId,
      consumer ≠ .storing profile device userId) ∨
    (world.consume setting id answer consumer).1 = world ∧ world.manager.Unfinished id := by
  have leads := world.leadsTo_consume setting answer id consumer
  generalize (world.consume setting id answer consumer).2 = next at leads underway
  cases leads with
  | unfinished data received uncompleted => exact Or.inr ⟨rfl, uncompleted⟩
  | rests | takes | refreshes | finished | handles | rejects | fails | gone | stored | rejectsLate
  | leavesLate | leaves => cases underway
  | _ => exact Or.inl ⟨rfl, fun _ _ _ => Consumer.noConfusion⟩

omit [RustText] in
/-- The updates of a consumer keep its connection coherent. -/
theorem Consumer.coherent_of_mayUpdate {consumer : Consumer} {manager : ConnectionManager}
    (unfinished : consumer.underway = true → manager.Unfinished id) {other : String}
    {update : InfoUpdate} {entry : ConnectionEntry} (now : Instant)
    (permitted : consumer.MayUpdate id other update)
    (found : manager.connections.get other = some entry) (coherent : entry.info.Coherent) :
    (update.apply now entry.info).Coherent := by
  obtain ⟨rfl, permitted⟩ := permitted
  cases consumer with
  | informing acceptance =>
      obtain ⟨negotiation, metadata, rfl, -⟩ := permitted
      exact coherent.negotiate (unfinished rfl entry found) negotiation metadata now
  | marking acceptance =>
      rw [permitted]
      exact coherent.identify rfl now
  | storing profile device userId =>
      obtain ⟨pipeline, rfl⟩ := permitted
      exact entry.info.coherent_complete device userId profile pipeline now
  | _ => cases permitted

/-! ## Runs -/

/-- The table is coherent, and a consumer that is underway finds its negotiation open. -/
structure Runtime.HandshakeInOrder (state : Runtime) : Prop where
  table : state.world.manager.Coherent
  consumers : ∀ id consumer, state.consumers id = some consumer → consumer.underway = true →
    state.world.manager.Unfinished id

namespace Runtime.HandshakeInOrder

variable {state state' : Runtime} (inOrder : state.HandshakeInOrder)

include inOrder

omit [RustText] in
/-- A step that only removes connections and leaves the consumers alone. -/
theorem of_keeps {world : World} (coherent : world.manager.Coherent)
    (keeps : ∀ id, ConnectionManager.KeepsConnection state.world.manager world.manager id)
    (writing : WriteHandle → Option Wire) :
    Runtime.HandshakeInOrder ⟨world, state.consumers, writing⟩ where
  table := coherent
  consumers id consumer found underway :=
    (inOrder.consumers id consumer found underway).of_keeps (keeps id)

omit [RustText] in
theorem accept {connection : ConnectionHandle}
    (accepted : state.accept setting id connection = some state') : state'.HandshakeInOrder := by
  obtain ⟨manager, consumers, rfl, origin, -, started⟩ := Runtime.accept_cases accepted
  constructor
  · intro other entry found
    rcases origin other entry found with earlier | ⟨-, new⟩
    · exact inOrder.table other entry earlier
    · rw [new]
      exact .initial ..
  · intro other consumer found underway
    rcases started other consumer found with rfl | ⟨distinct, earlier⟩
    · cases underway
    · intro entry present
      have before := (origin other entry present).resolve_right fun new => distinct new.1
      exact inOrder.consumers other consumer earlier underway entry before

theorem consume {consumer : Consumer} (current : state.consumers id = some consumer) :
    Runtime.HandshakeInOrder { state with
      world := (state.world.consume setting id answer consumer).1
      consumers := Function.update state.consumers id
        (some (state.world.consume setting id answer consumer).2) } := by
  constructor
  · refine inOrder.table.of_changes (state.world.changes_consume setting answer id consumer) ?_
    intro other update entry now permitted found coherent
    exact Consumer.coherent_of_mayUpdate (inOrder.consumers id consumer current) now permitted found
      coherent
  · intro other later found underway
    dsimp only at found ⊢
    by_cases same : other = id
    · subst same
      rw [Function.update_self] at found
      obtain rfl := Option.some.inj found
      rcases World.underway_of_consume underway with ⟨before, open_⟩ | ⟨unchanged, unfinished⟩
      · refine (inOrder.consumers other consumer current before).of_keeps ?_
        exact (state.world.tame_consume setting answer other consumer open_).connections other
      · rw [unchanged]
        exact unfinished
    · rw [Function.update_of_ne same] at found
      refine (inOrder.consumers other later found underway).of_keeps ?_
      exact state.world.keepsConnection_consume setting answer id consumer same

theorem work (job : Job) (rest : List Job) :
    Runtime.HandshakeInOrder { state with
      world := job.perform setting.registries setting.stamps setting.enumeration
        { state.world with jobs := rest } answer } := by
  refine inOrder.of_keeps ?_ (fun id =>
    job.keepsConnection_perform setting { state.world with jobs := rest } answer id) _
  by_cases sends : ∃ fanout, job = .deliver fanout
  · obtain ⟨fanout, rfl⟩ := sends
    simp only [Job.perform, World.deliver]
    split
    · exact inOrder.table
    · exact fun id entry found =>
        inOrder.table id entry (ConnectionManager.get_of_get_sendEncoded found)
  · have changes := job.changes_perform setting { state.world with jobs := rest } answer
      fun fanout same => sends ⟨fanout, same⟩
    refine inOrder.table.of_changes changes ?_
    exact fun _ _ _ now identifies _ coherent => coherent.identify identifies now

/-- Every step keeps the handshake in order. -/
theorem step {move : Move} (stepped : state.step setting move = some state') :
    state'.HandshakeInOrder := by
  cases move with
  | accept id connection => exact inOrder.accept stepped
  | consume id answer =>
      obtain ⟨consumer, current, rfl⟩ := Option.map_eq_some_iff.mp stepped
      exact inOrder.consume current
  | work index answer =>
      obtain ⟨job, -, rfl⟩ := Option.map_eq_some_iff.mp stepped
      exact inOrder.work job _
  | flush handle succeeds =>
      rcases Runtime.flush_cases stepped with
        ⟨data, manager, -, shrinks, rfl⟩ | ⟨data, manager, jobs, -, shrinks, -, rfl⟩
      all_goals
        refine inOrder.of_keeps ?_ shrinks.tame.connections _
        exact fun id entry found => inOrder.table id entry (shrinks.connections id entry found)
  | _ =>
      obtain ⟨inbound, clock, frames, jobs, written, rfl, -⟩ := Runtime.outer_cases rfl stepped
      exact ⟨inOrder.table, inOrder.consumers⟩

end Runtime.HandshakeInOrder

/-- **In every run, a confirmed negotiation is completed, and the entry of a completed one has a
cached parser with the entry's own profile.** -/
theorem table_coherent_in_every_run (setting : Setting) (writeQueueCapacity : Nat)
    (devices : Option DeviceManager) (clock : Instant) {state : Runtime}
    (reached : (serverSystem setting).Reaches System.always
      (Runtime.initial writeQueueCapacity devices clock) state) {id : String}
    {entry : ConnectionEntry} (found : state.world.manager.connections.get id = some entry) :
    entry.info.Coherent := by
  have inOrder : state.HandshakeInOrder := by
    refine System.Reaches.invariant (I := Runtime.HandshakeInOrder) reached ⟨?_, ?_⟩ ?_
    · intro id entry found
      cases (ShardedMap.get_empty id).symm.trans found
    · intro id consumer found
      cases found
    · rintro before after ⟨move, -, stepped⟩ invariant
      exact invariant.step stepped
  exact inOrder.table id entry found

end Handshake

section Completed

open scoped SingleShard AsciiText

/-- Both devices connect, the first one is displaced, and the second one's negotiation is
completed: its parser is one for protobuf. -/
theorem table_coherent_in_every_run_second :
    ∃ state entry, (serverSystem openSetting).Reaches System.always exclusiveServer state ∧
      state.world.manager.connections.get "b" = some entry ∧
      entry.info.negotiationCompleted = true ∧ entry.info.serializationFormat = .protobuf ∧
      entry.info.Coherent := by
  have run : ((serverSystem openSetting).run exclusiveServer (devicesConnect 14 18)).any
      (fun state => (state.world.manager.connections.get "b").any fun entry =>
        entry.info.negotiationCompleted && decide (entry.info.serializationFormat = .protobuf)) =
      true := by
    decide +kernel
  obtain ⟨state, reached, holds⟩ := System.exists_reaches_of_run run (System.permits_always _ _)
  obtain ⟨entry, found, both⟩ := (Option.any_eq_true _ _).mp holds
  obtain ⟨completed, protobuf⟩ := Bool.and_eq_true_iff.mp both
  exact ⟨state, entry, reached, found, completed, of_decide_eq_true protobuf,
    table_coherent_in_every_run openSetting 8 (some (.new .platformExclusive)) 0 reached found⟩

end Completed

end FlareCore.Server
