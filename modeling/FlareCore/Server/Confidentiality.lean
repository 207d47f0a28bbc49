import FlareCore.Server.Encoding
import FlareCore.Server.Lifetime

/-!
# Encryption after the negotiation

A connection that has negotiated an encryption should see nothing in clear any more.  The
manager keeps to that: a snapshot taken after the completion carries the encryption, and so
does the parser with which a late rejection is encoded.

Four things do not.  A device conflict encodes KICKED without encryption whatever was
negotiated; a parser that a sender gives encrypts as the sender wants; the WebSocket transport
answers a PING with a frame of its own; and what was encoded for the connection before the
completion may still be on its way when the negotiation completes.  Without them every frame is
encrypted, in every run (`written_encrypted_after_completion`).
-/

namespace FlareCore.Server

open FlareCore.Common FlareCore.Foundations

set_option autoImplicit false

/-! ## What is on its way -/

/-- The snapshots that a job still has to serve. -/
def Job.snapshots : Job → List ConnectionSnapshot
  | .readUser _ fanout | .read _ fanout | .deliver fanout => fanout.remaining
  | _ => []

/-- The connection to which a consumer is about to write KICKED. -/
def Consumer.kickTarget : Consumer → Option String
  | .kickSending _ victim _ _ => some victim
  | _ => none

section Confidentiality

variable [Hashing]

/-- A call has read nothing yet. -/
theorem ServerCall.snapshots_jobs {call : ServerCall} {stamp : Stamp} {job : Job}
    (member : job ∈ call.jobs stamp) : job.snapshots = [] := by
  cases call with
  | shutdown =>
      rcases List.mem_cons.mp member with rfl | rest
      · rfl
      · rw [List.mem_singleton.mp rest]
        rfl
  | _ =>
      rw [List.mem_singleton.mp member]
      rfl

theorem TableRead.mem_snapshots {manager : ConnectionManager} {read : TableRead}
    {snapshot : ConnectionSnapshot} (member : snapshot ∈ read.snapshots manager) :
    ∃ entry, manager.connections.get snapshot.connectionId = some entry ∧
      entry.info = snapshot.info := by
  cases read with
  | connections ids =>
      obtain ⟨id, -, snapped⟩ := List.mem_filterMap.mp member
      obtain ⟨entry, found, rfl⟩ := Option.map_eq_some_iff.mp snapped
      exact ⟨entry, found, rfl⟩
  | shard index excluded =>
      obtain ⟨listed, -⟩ := List.mem_filter.mp member
      obtain ⟨⟨id, entry⟩, inShard, rfl⟩ := List.mem_map.mp listed
      refine ⟨entry, ShardedMap.mem_bindings.mp ?_, rfl⟩
      exact List.mem_flatMap.mpr ⟨index, List.mem_finRange index,
        List.mem_map.mpr ⟨⟨id, entry⟩, inShard, rfl⟩⟩

section Origin

variable [RustText] (setting : Setting) (world : World) (answer : Answer)

/-- A job has its snapshots from the job it continues, or from the table. -/
theorem Job.snapshots_perform (job : Job) {later : Job} {snapshot : ConnectionSnapshot}
    (spawned : later ∈ (job.perform setting.registries setting.stamps setting.enumeration world
      answer).jobs) (member : snapshot ∈ later.snapshots) :
    later ∈ world.jobs ∨ snapshot ∈ job.snapshots ∨
      world.manager.codec snapshot.connectionId = some snapshot.info.codec := by
  have appended : ∀ {jobs : List Job}, later ∈ world.jobs ++ jobs →
      (∀ other ∈ jobs, other.snapshots = []) → later ∈ world.jobs := by
    intro jobs listed empty
    rcases List.mem_append.mp listed with earlier | new
    · exact earlier
    · rw [empty later new] at member
      cases member
  have continued : ∀ {next : Job}, later ∈ world.jobs ++ [next] →
      later ∈ world.jobs ∨ snapshot ∈ next.snapshots := by
    intro next listed
    rcases List.mem_append.mp listed with earlier | new
    · exact Or.inl earlier
    · rw [List.mem_singleton.mp new] at member
      exact Or.inr member
  cases job with
  | systemCommand id frame received =>
      refine Or.inl ?_
      simp only [perform, World.handleSystemCommand] at spawned
      split at spawned
      all_goals first
        | exact spawned
        | exact appended spawned (by simp [snapshots, sendFrameToJob, Fanout.new])
  | systemEvent id frame received =>
      exact Or.inl (appended spawned (by simp [snapshots, sendFrameToJob, Fanout.new]))
  | customCommand id frame received =>
      simp only [perform, World.handleAndSendResponse, World.spawn, World.stamped, World.calls,
        List.append_assoc] at spawned
      exact Or.inl (appended spawned (by simp [snapshots, sendFrameToJob, Fanout.new]))
  | readUser owner fanout => exact (continued spawned).imp_right Or.inl
  | read reads fanout =>
      cases reads with
      | nil =>
          refine (continued spawned).imp_right fun listed => Or.inl ?_
          simp only [snapshots, Fanout.arranged] at listed ⊢
          split_ifs at listed
          · exact (ConnectionManager.regrouped_perm setting.enumeration
              fanout.remaining).mem_iff.mp listed
          · exact listed
      | cons first reads =>
          rcases continued spawned with earlier | listed
          · exact Or.inl earlier
          · rcases List.mem_append.mp listed with remaining | found
            · exact Or.inr (Or.inl remaining)
            · obtain ⟨entry, present, same⟩ := TableRead.mem_snapshots found
              exact Or.inr (Or.inr (same ▸ ConnectionManager.codec_of_get present))
  | deliver fanout =>
      cases remaining : fanout.remaining with
      | nil =>
          simp only [perform, World.deliver, remaining] at spawned
          exact Or.inl (appended spawned (by simp [snapshots]))
      | cons first rest =>
          simp only [perform, World.deliver, remaining] at spawned
          refine (continued spawned).imp_right fun listed => Or.inl ?_
          simp only [snapshots] at listed ⊢
          exact remaining ▸ List.mem_cons_of_mem _ listed
  | activate now groups =>
      cases groups with
      | nil => exact Or.inl spawned
      | cons group groups => exact Or.inl (appended spawned (by simp [snapshots]))
  | transportError id => exact Or.inl (appended spawned (by simp [snapshots]))
  | disconnected id => exact Or.inl (appended spawned (by simp [snapshots]))
  | removeDisconnected id => exact Or.inl (appended spawned (by simp [snapshots]))
  | scan timeout => exact Or.inl (appended spawned (by simp [snapshots]))
  | forceClose =>
      refine Or.inl (appended spawned ?_)
      intro other listed
      obtain ⟨id, -, rfl⟩ := List.mem_map.mp listed
      rfl
  | _ => exact Or.inl spawned

/-- What a consumer spawns has read nothing yet. -/
theorem World.snapshots_consume (id : String) (consumer : Consumer) {later : Job}
    (spawned : later ∈ (world.consume setting id answer consumer).1.jobs) :
    later ∈ world.jobs ∨ later.snapshots = [] := by
  cases consumer with
  | receive =>
      simp only [consume, takeUp] at spawned
      split at spawned
      · exact Or.inl spawned
      · split_ifs at spawned <;> exact Or.inl spawned
  | negotiated data info received =>
      simp only [consume, handleNegotiatedMessage] at spawned
      split_ifs at spawned
      · exact Or.inl spawned
      · split at spawned <;> exact Or.inl spawned
  | handling frame received =>
      simp only [consume, handleFrame] at spawned
      split at spawned <;> try split_ifs at spawned
      all_goals first
        | exact Or.inl spawned
        | refine (List.mem_append.mp spawned).imp_right fun new => ?_
          rw [List.mem_singleton.mp new]
          rfl
  | registering acceptance =>
      simp only [consume, register] at spawned
      split at spawned <;> exact Or.inl spawned
  | kicking conflict victims =>
      cases victims with
      | nil => exact Or.inl spawned
      | cons victim victims =>
          simp only [consume, kick] at spawned
          split_ifs at spawned
          · exact Or.inl spawned
          · split at spawned
            · exact Or.inl spawned
            · split at spawned <;> exact Or.inl spawned
  | acknowledging profile conflicts =>
      simp only [consume, acknowledge] at spawned
      split at spawned <;> exact Or.inl spawned
  | rejectingLate profile error =>
      simp only [consume, rejectAfterAck, explain] at spawned
      split at spawned <;> exact Or.inl spawned
  | rejecting error =>
      simp only [consume, rejectConnect, explain] at spawned
      split at spawned
      · exact Or.inl spawned
      · split at spawned <;> exact Or.inl spawned
  | _ => exact Or.inl spawned

end Origin

/-! ## Encryption -/

variable [RustText] (setting : Setting)

/-- Encoded by a parser with the given encryption. -/
def EncryptedWith (encryption : EncryptionAlgorithm) (data : Wire) : Prop :=
  ∃ (parser : MessageParser) (frame : Frame), parser.defaultEncryption = encryption ∧
    parser.serialize setting.registries frame = .ok data

/-- The negotiation is completed, with the given encryption. -/
structure ConnectionCodec.Encrypts (encryption : EncryptionAlgorithm) (codec : ConnectionCodec) :
    Prop where
  completed : codec.negotiationCompleted = true
  profile : codec.profile.encryption = encryption
  parser : ∀ parser, codec.cachedParser = some parser → parser.defaultEncryption = encryption

variable {setting} {encryption : EncryptionAlgorithm}

omit [Hashing] in
/-- What is encoded for a snapshot taken after the completion. -/
theorem encryptedWith_serializeFrameForConnection {id : String} {info : ConnectionInfo}
    {frame : Frame} {data : Wire} (encrypts : info.codec.Encrypts encryption)
    (encoded : ConnectionManager.serializeFrameForConnection setting.registries
      frameAllowedBeforeAuth id info frame none = .ok data) :
    EncryptedWith setting encryption data := by
  unfold ConnectionManager.serializeFrameForConnection at encoded
  have completed : info.negotiationCompleted = true := encrypts.completed
  cases allowed : ConnectionManager.ensureFrameAllowedForConnection frameAllowedBeforeAuth id info
      frame with
  | error error =>
      rw [allowed] at encoded
      cases encoded
  | ok =>
      simp only [allowed, completed] at encoded
      cases cached : info.cachedParser with
      | some parser =>
          rw [cached] at encoded
          exact ⟨parser, frame, encrypts.parser parser cached, encoded⟩
      | none =>
          rw [cached] at encoded
          exact ⟨_, frame, encrypts.profile, encoded⟩

omit [Hashing] in
theorem encryptedWith_encode {fanout : Fanout} {snapshot : ConnectionSnapshot} {data : Wire}
    (encrypts : snapshot.info.codec.Encrypts encryption)
    (encoded : Fanout.encode setting.registries { fanout with parser := none } snapshot =
      .ok data) :
    EncryptedWith setting encryption data := by
  unfold Fanout.encode at encoded
  split_ifs at encoded
  · unfold ConnectionManager.groupEncode ConnectionManager.sharedProfile at encoded
    have completed : snapshot.info.negotiationCompleted = true := encrypts.completed
    have profile : snapshot.info.encryption = encryption := encrypts.profile
    by_cases none : snapshot.info.encryption = .none
    · simp only [completed, none, Bool.not_true, if_true, Bool.false_eq_true, if_false] at encoded
      cases allowed : ConnectionManager.ensureFrameAllowedForConnection frameAllowedBeforeAuth
          snapshot.connectionId snapshot.info fanout.frame with
      | error error =>
          rw [allowed] at encoded
          cases encoded
      | ok =>
          rw [allowed] at encoded
          exact ⟨_, fanout.frame, none.symm.trans profile, encoded⟩
    · simp only [completed, none, Bool.not_true, Bool.false_eq_true, if_false] at encoded
      exact encryptedWith_serializeFrameForConnection encrypts encoded
  · exact encryptedWith_serializeFrameForConnection encrypts encoded

/-! ## A sealed connection -/

/-- Where the consumer of a connection can stand after the completion.  It is back before the
negotiation only if the connection has left the table. -/
def Consumer.Seals (encryption : EncryptionAlgorithm) (gone : Prop) : Consumer → Prop
  | .receive | .taken _ _ | .refreshed _ _ | .negotiated _ _ _ | .handling _ _ | .removing => True
  | .preNegotiation _ _ | .connecting _ => gone
  | .notifying profile | .rejectingLate profile _ => profile.encryption = encryption
  | _ => False

variable (setting) in
/-- Whatever is on its way to a connection is encrypted, and so is whatever follows. -/
structure Runtime.Sealed (state : Runtime) (id : String) (encryption : EncryptionAlgorithm) :
    Prop where
  consumer : ∃ consumer, state.consumers id = some consumer ∧
    consumer.Seals encryption (state.world.manager.codec id = none)
  table : ∀ codec, state.world.manager.codec id = some codec → codec.Encrypts encryption
  jobs : ∀ job ∈ state.world.jobs, ∀ snapshot ∈ job.snapshots, snapshot.connectionId = id →
    snapshot.info.codec.Encrypts encryption
  queues : ∀ handle data, handle.connectionId = id →
    data ∈ (state.world.manager.queues handle).items → EncryptedWith setting encryption data
  writing : ∀ handle data, handle.connectionId = id → state.writing handle = some data →
    EncryptedWith setting encryption data
  kicks : ∀ other consumer, state.consumers other = some consumer → consumer.kickTarget ≠ some id

/-- Nothing is on its way to a connection. -/
structure Runtime.Clear (state : Runtime) (id : String) : Prop where
  jobs : ∀ job ∈ state.world.jobs, ∀ snapshot ∈ job.snapshots, snapshot.connectionId ≠ id
  queues : ∀ handle, handle.connectionId = id → (state.world.manager.queues handle).items = []
  writing : ∀ handle, handle.connectionId = id → state.writing handle = none
  kicks : ∀ other consumer, state.consumers other = some consumer → consumer.kickTarget ≠ some id

/-- The move encodes a frame for the connection without the encryption: it answers a PING of the
WebSocket protocol, sends with a parser that encrypts otherwise, or begins to kick the
connection. -/
def Runtime.discloses (state : Runtime) (id : String) (encryption : EncryptionAlgorithm) :
    Move → Bool
  | .websocketPing other => other = id
  | .work index _ => (state.world.jobs[index]?.bind Job.override).any fun (other, parser) =>
      other = id && parser.defaultEncryption ≠ encryption
  | .consume other _ =>
      match state.consumers other with
      | some (.kicking _ (victim :: _)) =>
          victim = id && other ≠ id && (state.world.manager.connections.get id).isSome
      | _ => false
  | _ => false

/-- The side condition of the runs in which nothing is disclosed to a connection's line. -/
def Undisclosed (id : String) (encryption : EncryptionAlgorithm) (state : Runtime) (move : Move) :
    Prop :=
  state.discloses id encryption move = false

instance (id : String) (encryption : EncryptionAlgorithm) (state : Runtime) (move : Move) :
    Decidable (Undisclosed id encryption state move) :=
  inferInstanceAs (Decidable (_ = _))

/-! ## Writes -/

/-- What a consumer writes: KICKED to another connection, or a frame to its own, in clear before
the completion and with the negotiated parser after it. -/
theorem World.mem_written_consume (setting : Setting) (world : World) (id : String)
    (answer : Answer) (consumer : Consumer) :
    ∃ more, (world.consume setting id answer consumer).1.written = world.written ++ more ∧
      ∀ write ∈ more, consumer.kickTarget = some write.connectionId ∨
        write.connectionId = id ∧ ∀ encryption gone, consumer.Seals encryption gone →
          EncryptedWith setting encryption write.data := by
  have nothing : ∀ {written : List Written}, written = world.written → ∃ more,
      written = world.written ++ more ∧ ∀ write ∈ more,
        consumer.kickTarget = some write.connectionId ∨
          write.connectionId = id ∧ ∀ encryption gone, consumer.Seals encryption gone →
            EncryptedWith setting encryption write.data := by
    intro written same
    exact ⟨[], same.trans (List.append_nil _).symm, by simp⟩
  cases consumer with
  | receive =>
      simp only [consume, takeUp]
      split
      · exact nothing rfl
      · split_ifs <;> exact nothing rfl
  | negotiated data info received =>
      simp only [consume, handleNegotiatedMessage]
      split_ifs
      · exact nothing rfl
      · split <;> exact nothing rfl
  | handling frame received =>
      simp only [consume, World.handleFrame]
      split <;> try split_ifs
      all_goals exact nothing rfl
  | registering acceptance =>
      simp only [consume, register]
      split <;> exact nothing rfl
  | kicking conflict victims =>
      cases victims with
      | nil => exact nothing rfl
      | cons victim victims =>
          simp only [consume, World.kick]
          split_ifs
          · exact nothing rfl
          · split
            · exact nothing rfl
            · split <;> exact nothing rfl
  | kickSending conflict victim data victims =>
      refine ⟨_, rfl, ?_⟩
      intro write member
      rw [List.mem_singleton.mp member]
      exact Or.inl rfl
  | acknowledging profile conflicts =>
      simp only [consume, World.acknowledge]
      split
      · exact nothing rfl
      · refine ⟨_, rfl, ?_⟩
        intro write member
        rw [List.mem_singleton.mp member]
        exact Or.inr ⟨rfl, fun _ _ sealed => sealed.elim⟩
  | rejectingLate profile error =>
      simp only [consume, rejectAfterAck, explain]
      split
      · next data serialized =>
          refine ⟨_, rfl, ?_⟩
          intro write member
          rw [List.mem_singleton.mp member]
          exact Or.inr ⟨rfl, fun _ _ sealed => ⟨profile.parser, _, sealed, serialized⟩⟩
      · exact nothing rfl
  | rejecting error =>
      simp only [consume, World.rejectConnect, explain]
      split
      · exact nothing rfl
      · split
        · refine ⟨_, rfl, ?_⟩
          intro write member
          rw [List.mem_singleton.mp member]
          exact Or.inr ⟨rfl, fun _ _ sealed => sealed.elim⟩
        · exact nothing rfl
  | _ => exact nothing rfl

/-! ## One step -/

omit [Hashing] [RustText] in
theorem Consumer.Seals.imp {gone gone' : Prop} (leaves : gone → gone') {consumer : Consumer}
    (seals : consumer.Seals encryption gone) : consumer.Seals encryption gone' := by
  cases consumer with
  | preNegotiation data received => exact leaves seals
  | connecting frame => exact leaves seals
  | _ => exact seals

omit [Hashing] [RustText] in
theorem Consumer.Seals.negotiates {gone : Prop} {consumer : Consumer}
    (seals : consumer.Seals encryption gone) : consumer.negotiates = false := by
  cases consumer with
  | informing acceptance => exact seals.elim
  | storing profile device userId => exact seals.elim
  | _ => rfl

/-- The consumer of a sealed connection does not negotiate again. -/
theorem World.seals_consume {world : World} {id : String} (answer : Answer) {consumer : Consumer}
    (table : ∀ codec, world.manager.codec id = some codec → codec.Encrypts encryption)
    (seals : consumer.Seals encryption (world.manager.codec id = none)) :
    (world.consume setting id answer consumer).2.Seals encryption
      (world.manager.codec id = none) := by
  have leads := world.leadsTo_consume setting answer id consumer
  generalize (world.consume setting id answer consumer).2 = next at leads ⊢
  cases leads with
  | unfinished data received uncompleted =>
      -- the table has no entry, since the negotiation of one would be completed
      cases found : world.manager.connections.get id with
      | none => exact ConnectionManager.get_eq_none_iff.mp found
      | some entry =>
          have completed : entry.info.negotiationCompleted = true :=
            (table _ (ConnectionManager.codec_of_get found)).completed
          cases (uncompleted entry found).symm.trans completed
  | authenticates frame present =>
      rw [ConnectionManager.get_eq_none_iff.mpr seals] at present
      cases present
  | rests | takes | refreshes | finished | handles | fails | leavesLate | leaves => trivial
  | connects | rejectsLate => exact seals
  | _ => exact seals.elim

/-- A kick is written after it was encoded. -/
theorem World.kickTarget_consume {world : World} {own victim : String} {answer : Answer}
    {consumer : Consumer}
    (kicks : (world.consume setting own answer consumer).2.kickTarget = some victim) :
    ∃ conflict victims, consumer = .kicking conflict (victim :: victims) ∧ victim ≠ own ∧
      (world.manager.connections.get victim).isSome := by
  have leads := world.leadsTo_consume setting answer own consumer
  generalize (world.consume setting own answer consumer).2 = next at leads kicks
  cases leads with
  | kicks conflict target data victims other present =>
      obtain rfl := Option.some.inj kicks
      exact ⟨conflict, victims, rfl, other, present⟩
  | _ => cases kicks

namespace Runtime

variable {state state' : Runtime} {move : Move}

/-- What a step puts into a write queue is what a fan-out encodes for its next snapshot. -/
theorem items_step (stepped : state.step setting move = some state') {handle : WriteHandle}
    {data : Wire} (member : data ∈ (state'.world.manager.queues handle).items) :
    data ∈ (state.world.manager.queues handle).items ∨
      ∃ index answer fanout snapshot remaining, move = .work index answer ∧
        state.world.jobs[index]? = some (.deliver fanout) ∧
        fanout.remaining = snapshot :: remaining ∧ handle = snapshot.handle ∧
        fanout.encode setting.registries snapshot = .ok data := by
  cases move with
  | accept id connection =>
      obtain ⟨manager, consumers, rfl, -, items, -⟩ := Runtime.accept_cases stepped
      exact Or.inl (items handle data member)
  | consume id answer =>
      obtain ⟨consumer, -, rfl⟩ := Option.map_eq_some_iff.mp stepped
      refine Or.inl ?_
      by_cases stores : ∃ profile device userId, consumer = .storing profile device userId
      · obtain ⟨profile, device, userId, rfl⟩ := stores
        simp only [World.consume, World.withManager, ConnectionManager.completeNegotiation,
          ConnectionManager.updateConnectionNegotiationWithPipeline,
          ConnectionManager.queues_updateConnection] at member
        exact member
      · refine (state.world.tame_consume setting answer id consumer ?_).items handle data member
        intro profile device userId same
        exact stores ⟨profile, device, userId, same⟩
  | work index answer =>
      obtain ⟨job, found, rfl⟩ := Option.map_eq_some_iff.mp stepped
      by_cases sends : ∃ fanout, job = .deliver fanout
      · obtain ⟨fanout, rfl⟩ := sends
        cases remaining : fanout.remaining with
        | nil =>
            simp only [Job.perform, World.deliver, remaining] at member
            exact Or.inl member
        | cons snapshot rest =>
            simp only [Job.perform, World.deliver, remaining] at member
            refine (ConnectionManager.items_sendEncoded _ _ snapshot handle data member).imp_right ?_
            rintro ⟨same, encoded⟩
            exact ⟨index, answer, fanout, snapshot, rest, rfl, found, remaining, same, encoded⟩
      · have tame := job.tame_perform setting
          { state.world with jobs := state.world.jobs.eraseIdx index } answer
          fun fanout same => sends ⟨fanout, same⟩
        exact Or.inl (tame.items handle data member)
  | flush other succeeds =>
      rcases Runtime.flush_cases stepped with ⟨item, manager, -, shrinks, rfl⟩ |
        ⟨item, manager, jobs, -, shrinks, -, rfl⟩
      · exact Or.inl (shrinks.items handle data member)
      · exact Or.inl (shrinks.items handle data member)
  | _ =>
      obtain ⟨inbound, clock, frames, jobs, written, rfl, -⟩ := Runtime.outer_cases rfl stepped
      exact Or.inl member

/-- A job has its snapshots from an earlier job, or from the table. -/
theorem snapshots_step (stepped : state.step setting move = some state') {later : Job}
    {snapshot : ConnectionSnapshot} (listed : later ∈ state'.world.jobs)
    (member : snapshot ∈ later.snapshots) :
    (∃ job ∈ state.world.jobs, snapshot ∈ job.snapshots) ∨
      state.world.manager.codec snapshot.connectionId = some snapshot.info.codec := by
  have earlier : later ∈ state.world.jobs → ∃ job ∈ state.world.jobs, snapshot ∈ job.snapshots :=
    fun present => ⟨later, present, member⟩
  have added : ∀ {jobs : List Job}, later ∈ state.world.jobs ++ jobs →
      (∀ job ∈ jobs, job.snapshots = []) → ∃ job ∈ state.world.jobs, snapshot ∈ job.snapshots := by
    intro jobs appended empty
    rcases List.mem_append.mp appended with present | new
    · exact earlier present
    · rw [empty later new] at member
      cases member
  cases move with
  | accept id connection =>
      obtain ⟨manager, consumers, rfl, -⟩ := Runtime.accept_cases stepped
      exact Or.inl (earlier listed)
  | consume id answer =>
      obtain ⟨consumer, -, rfl⟩ := Option.map_eq_some_iff.mp stepped
      rcases state.world.snapshots_consume setting answer id consumer listed with present | empty
      · exact Or.inl (earlier present)
      · rw [empty] at member
        cases member
  | work index answer =>
      obtain ⟨job, found, rfl⟩ := Option.map_eq_some_iff.mp stepped
      rcases job.snapshots_perform setting _ answer listed member with present | own | table
      · exact Or.inl (earlier (List.mem_of_mem_eraseIdx present))
      · exact Or.inl ⟨job, List.mem_of_getElem? found, own⟩
      · exact Or.inr table
  | flush handle succeeds =>
      rcases Runtime.flush_cases stepped with ⟨item, manager, -, -, rfl⟩ |
        ⟨item, manager, jobs, -, -, isolates, rfl⟩
      · exact Or.inl (earlier listed)
      · refine Or.inl (added listed ?_)
        intro job new
        rw [isolates job new]
        rfl
  | _ =>
      obtain ⟨inbound, clock, frames, jobs, written, rfl, started, -⟩ :=
        Runtime.outer_cases rfl stepped
      refine Or.inl (added listed ?_)
      intro job new
      rcases started job new with ⟨id, rfl | rfl⟩ | ⟨call, stamp, called⟩
      · rfl
      · rfl
      · exact call.snapshots_jobs called

/-- What a step writes: an item of a writer task, the answer to a WebSocket PING, or what a
consumer writes. -/
theorem written_step (stepped : state.step setting move = some state') :
    ∃ more, state'.world.written = state.world.written ++ more ∧ ∀ write ∈ more,
      (∃ handle, handle.connectionId = write.connectionId ∧
        state.writing handle = some write.data) ∨
      move = .websocketPing write.connectionId ∨
      ∃ own consumer, state.consumers own = some consumer ∧
        (consumer.kickTarget = some write.connectionId ∨
          write.connectionId = own ∧ ∀ encryption gone, consumer.Seals encryption gone →
            EncryptedWith setting encryption write.data) := by
  have nothing : state'.world.written = state.world.written → ∃ more,
      state'.world.written = state.world.written ++ more ∧ ∀ write ∈ more,
        (∃ handle, handle.connectionId = write.connectionId ∧
          state.writing handle = some write.data) ∨
        move = .websocketPing write.connectionId ∨
        ∃ own consumer, state.consumers own = some consumer ∧
          (consumer.kickTarget = some write.connectionId ∨
            write.connectionId = own ∧ ∀ encryption gone, consumer.Seals encryption gone →
              EncryptedWith setting encryption write.data) :=
    fun same => ⟨[], same.trans (List.append_nil _).symm, by simp⟩
  cases move with
  | accept id connection =>
      obtain ⟨manager, consumers, rfl, -⟩ := Runtime.accept_cases stepped
      exact nothing rfl
  | consume id answer =>
      obtain ⟨consumer, found, rfl⟩ := Option.map_eq_some_iff.mp stepped
      obtain ⟨more, extended, writes⟩ :=
        state.world.mem_written_consume setting id answer consumer
      refine ⟨more, extended, ?_⟩
      intro write member
      exact Or.inr (Or.inr ⟨id, consumer, found, writes write member⟩)
  | work index answer =>
      obtain ⟨job, -, rfl⟩ := Option.map_eq_some_iff.mp stepped
      exact nothing (job.written_perform setting _ answer)
  | flush handle succeeds =>
      rcases Runtime.flush_cases stepped with ⟨item, manager, -, -, rfl⟩ |
        ⟨item, manager, jobs, taken, -, -, rfl⟩
      · exact nothing rfl
      · refine ⟨_, rfl, ?_⟩
        intro write member
        rw [List.mem_singleton.mp member]
        exact Or.inl ⟨handle, rfl, taken⟩
  | _ =>
      obtain ⟨inbound, clock, frames, jobs, written, rfl, -, answers⟩ :=
        Runtime.outer_cases rfl stepped
      exact ⟨written, rfl, fun write member => Or.inr (Or.inl (answers write member))⟩

/-- A writer task has its item from the queue. -/
theorem writing_step (stepped : state.step setting move = some state') {handle : WriteHandle}
    {data : Wire} (taken : state'.writing handle = some data) :
    state.writing handle = some data ∨ data ∈ (state.world.manager.queues handle).items := by
  cases move with
  | accept id connection =>
      obtain ⟨manager, consumers, rfl, -⟩ := Runtime.accept_cases stepped
      exact Or.inl taken
  | consume id answer =>
      obtain ⟨consumer, -, rfl⟩ := Option.map_eq_some_iff.mp stepped
      exact Or.inl taken
  | work index answer =>
      obtain ⟨job, -, rfl⟩ := Option.map_eq_some_iff.mp stepped
      exact Or.inl taken
  | flush other succeeds =>
      rcases Runtime.flush_cases stepped with ⟨item, manager, queued, -, rfl⟩ |
        ⟨item, manager, jobs, -, -, -, rfl⟩
      · dsimp only at taken
        rw [Function.update_apply] at taken
        split_ifs at taken with same
        · exact Or.inr (same ▸ Option.some.inj taken ▸ queued)
        · exact Or.inl taken
      · dsimp only at taken
        rw [Function.update_apply] at taken
        split_ifs at taken
        exact Or.inl taken
  | _ =>
      obtain ⟨inbound, clock, frames, jobs, written, rfl, -⟩ := Runtime.outer_cases rfl stepped
      exact Or.inl taken

/-- Nobody comes to kick a connection without disclosing something. -/
theorem kicks_step {id : String} (unkicked : ∀ other consumer,
      state.consumers other = some consumer → consumer.kickTarget ≠ some id)
    (undisclosed : Undisclosed id encryption state move)
    (stepped : state.step setting move = some state') (other : String) (later : Consumer) (found : state'.consumers other = some later) :
    later.kickTarget ≠ some id := by
  intro kicks
  rcases Runtime.consumers_step stepped found with same | ⟨rfl, -⟩ |
    ⟨answer, consumer, rfl, current, rfl⟩
  · exact unkicked other later same kicks
  · cases kicks
  · obtain ⟨conflict, victims, rfl, distinct, present⟩ := World.kickTarget_consume kicks
    have disclosed : state.discloses id encryption (.consume other answer) = true := by
      simp only [discloses, current, present, decide_true, Bool.and_true, Bool.true_and,
        decide_eq_true_eq]
      exact distinct.symm
    rw [undisclosed] at disclosed
    cases disclosed

namespace Sealed

variable {id : String} (sealed : state.Sealed setting id encryption)

include sealed

/-- The connection keeps its codec or leaves the table. -/
theorem codec (stepped : state.step setting move = some state') :
    ConnectionManager.Evolves (state.removes setting move) state.world.manager
      state'.world.manager id := by
  obtain ⟨consumer, found, seals⟩ := sealed.consumer
  rcases Runtime.codec_step stepped id with evolves | ⟨fresh, -⟩ |
    ⟨answer, current, -, same, negotiates⟩
  · exact evolves
  · rw [found] at fresh
    cases fresh
  · obtain rfl := Option.some.inj (found.symm.trans same)
    rw [seals.negotiates] at negotiates
    cases negotiates

/-- **A sealed connection stays sealed.** -/
theorem step (undisclosed : Undisclosed id encryption state move)
    (stepped : state.step setting move = some state') : state'.Sealed setting id encryption where
  consumer := by
    obtain ⟨consumer, found, seals⟩ := sealed.consumer
    obtain ⟨later, foundLater⟩ := Runtime.exists_consumer_step stepped found
    refine ⟨later, foundLater, Consumer.Seals.imp (sealed.codec stepped).eq_none ?_⟩
    rcases Runtime.consumers_step stepped foundLater with same | ⟨-, fresh⟩ |
      ⟨answer, current, -, same, rfl⟩
    · exact Option.some.inj (found.symm.trans same) ▸ seals
    · rw [found] at fresh
      cases fresh
    · obtain rfl := Option.some.inj (found.symm.trans same)
      exact World.seals_consume answer sealed.table seals
  table codec found := by
    rcases sealed.codec stepped with same | ⟨-, gone⟩
    · exact sealed.table codec (same ▸ found)
    · rw [gone] at found
      cases found
  jobs later listed snapshot member own := by
    rcases Runtime.snapshots_step stepped listed member with ⟨job, earlier, remaining⟩ | table
    · exact sealed.jobs job earlier snapshot remaining own
    · exact sealed.table _ (own ▸ table)
  queues handle data own member := by
    rcases Runtime.items_step stepped member with
      earlier | ⟨index, answer, fanout, snapshot, remaining, rfl, found, served, rfl, encoded⟩
    · exact sealed.queues handle data own earlier
    · rcases Fanout.encode_cases served encoded with ⟨parser, override, given⟩ | profiled
      · have same : parser.defaultEncryption = encryption := by
          have other : snapshot.connectionId = id := own
          simpa [Undisclosed, discloses, found, Job.override, override, other] using undisclosed
        exact ⟨parser, fanout.frame, same, given⟩
      · refine encryptedWith_encode (sealed.jobs _ (List.mem_of_getElem? found) snapshot ?_ own)
          profiled
        rw [Job.snapshots, served]
        exact List.mem_cons_self
  writing handle data own taken := by
    rcases Runtime.writing_step stepped taken with earlier | queued
    · exact sealed.writing handle data own earlier
    · exact sealed.queues handle data own queued
  kicks := Runtime.kicks_step sealed.kicks undisclosed stepped

/-- What a step writes on a sealed connection is encrypted. -/
theorem written (undisclosed : Undisclosed id encryption state move)
    (stepped : state.step setting move = some state') :
    ∃ more, state'.world.written = state.world.written ++ more ∧ ∀ write ∈ more,
      write.connectionId = id → EncryptedWith setting encryption write.data := by
  obtain ⟨more, extended, origin⟩ := Runtime.written_step stepped
  refine ⟨more, extended, ?_⟩
  rintro write member rfl
  rcases origin write member with ⟨handle, own, taken⟩ | rfl |
    ⟨own, consumer, found, kicks | ⟨rfl, encrypts⟩⟩
  · exact sealed.writing handle write.data own taken
  · simp [Undisclosed, discloses] at undisclosed
  · exact absurd kicks (sealed.kicks own consumer found)
  · obtain ⟨current, present, seals⟩ := sealed.consumer
    obtain rfl := Option.some.inj (found.symm.trans present)
    exact encrypts _ _ seals

end Sealed

/-! ## Runs -/

/-- The completion of a negotiation seals the connection, if nothing is on its way to it. -/
theorem sealed_of_completion {id : String} {profile : Profile} {device : Option DeviceInfo}
    {userId : Option String} {answer : Answer}
    (storing : state.consumers id = some (.storing profile device userId))
    (clear : state.Clear id) (stepped : state.step setting (.consume id answer) = some state') :
    state'.Sealed setting id profile.encryption := by
  obtain ⟨consumer, found, rfl⟩ := Option.map_eq_some_iff.mp stepped
  obtain rfl := Option.some.inj (storing.symm.trans found)
  have stored := state.world.codec_storing setting answer id profile device userId
  refine ⟨⟨.notifying profile, Function.update_self .., rfl⟩, ?_, ?_, ?_, ?_, ?_⟩
  · intro codec present
    obtain ⟨-, -, rfl⟩ := Option.map_eq_some_iff.mp (stored.symm.trans present)
    refine ⟨rfl, rfl, ?_⟩
    rintro parser cached
    rw [← Option.some.inj cached]
    rfl
  · intro job listed snapshot member own
    exact absurd own (clear.jobs job listed snapshot member)
  · intro handle data own member
    rcases Runtime.items_step stepped member with earlier | ⟨_, _, _, _, _, works, -⟩
    · rw [clear.queues handle own] at earlier
      cases earlier
    · cases works
  · intro handle data own taken
    rw [clear.writing handle own] at taken
    cases taken
  · intro other later present kicks
    rcases Runtime.consumers_step stepped present with same | ⟨rfl, -⟩ |
      ⟨answer, consumer, same, current, rfl⟩
    · exact clear.kicks other later same kicks
    · cases kicks
    · obtain ⟨rfl, -⟩ := Move.consume.inj same
      obtain rfl := Option.some.inj (storing.symm.trans current)
      cases kicks

end Runtime

/-- **After a negotiation has completed, every frame written on the connection is encrypted as
negotiated**, in every run that follows, if nothing was on its way to the connection at the
completion, and later no device conflict kicks it, no parser that encrypts otherwise is given for a
frame to it, and no WebSocket PING is answered on it. -/
theorem written_encrypted_after_completion (setting : Setting) {before start state : Runtime}
    {id : String} {profile : Profile} {device : Option DeviceInfo} {userId : Option String}
    {answer : Answer} (storing : before.consumers id = some (.storing profile device userId))
    (clear : before.Clear id) (completed : before.step setting (.consume id answer) = some start)
    (reached : (serverSystem setting).Reaches (Undisclosed id profile.encryption) start state) :
    ∃ more, state.world.written = start.world.written ++ more ∧ ∀ write ∈ more,
      write.connectionId = id → EncryptedWith setting profile.encryption write.data := by
  have invariant : state.Sealed setting id profile.encryption ∧
      ∃ more, state.world.written = start.world.written ++ more ∧ ∀ write ∈ more,
        write.connectionId = id → EncryptedWith setting profile.encryption write.data := by
    refine System.Reaches.invariant (I := fun state => state.Sealed setting id profile.encryption ∧
      ∃ more, state.world.written = start.world.written ++ more ∧ ∀ write ∈ more,
        write.connectionId = id → EncryptedWith setting profile.encryption write.data) reached
      ⟨Runtime.sealed_of_completion storing clear completed, [], (List.append_nil _).symm,
        by simp⟩ ?_
    rintro earlier later ⟨move, undisclosed, stepped⟩ ⟨sealed, more, extended, encrypted⟩
    obtain ⟨added, appended, also⟩ := sealed.written undisclosed stepped
    refine ⟨sealed.step undisclosed stepped, more ++ added, ?_, ?_⟩
    · rw [appended, extended, List.append_assoc]
    · intro write member own
      rcases List.mem_append.mp member with old | new
      · exact encrypted write old own
      · exact also write new own
  exact invariant.2

/-! ## Before anything is sent -/

/-- Nothing is sent by a task, and nothing is disclosed. -/
def Unsent (id : String) (encryption : EncryptionAlgorithm) (state : Runtime) (move : Move) :
    Prop :=
  state.world.jobs.isEmpty = true ∧ Undisclosed id encryption state move

instance (id : String) (encryption : EncryptionAlgorithm) (state : Runtime) (move : Move) :
    Decidable (Unsent id encryption state move) :=
  inferInstanceAs (Decidable (_ ∧ _))

/-- As long as nothing is sent, nothing is on its way. -/
theorem Runtime.clear_of_unsent {writeQueueCapacity : Nat} {devices : Option DeviceManager}
    {clock : Instant} {state : Runtime} {id : String}
    (reached : (serverSystem setting).Reaches (Unsent id encryption)
      (Runtime.initial writeQueueCapacity devices clock) state)
    (idle : state.world.jobs.isEmpty = true) : state.Clear id := by
  have quiet : (∀ handle, (state.world.manager.queues handle).items = []) ∧
      (∀ handle, state.writing handle = none) ∧
      ∀ other consumer, state.consumers other = some consumer →
        consumer.kickTarget ≠ some id := by
    refine System.Reaches.invariant (I := fun state : Runtime =>
      (∀ handle, (state.world.manager.queues handle).items = []) ∧
      (∀ handle, state.writing handle = none) ∧
      ∀ other consumer, state.consumers other = some consumer →
        consumer.kickTarget ≠ some id) reached
      ⟨by simp [Runtime.initial, ConnectionManager.new, WriteQueue.new], by simp [Runtime.initial],
        by simp [Runtime.initial]⟩ ?_
    rintro before after ⟨move, ⟨idle, undisclosed⟩, stepped⟩ ⟨queues, writing, kicks⟩
    refine ⟨?_, ?_, ?_⟩
    · intro handle
      refine List.eq_nil_iff_forall_not_mem.mpr ?_
      intro data member
      rcases Runtime.items_step stepped member with earlier | ⟨_, _, _, _, _, _, listed, -⟩
      · rw [queues handle] at earlier
        cases earlier
      · rw [List.isEmpty_iff.mp idle] at listed
        cases listed
    · intro handle
      refine Option.eq_none_iff_forall_ne_some.mpr ?_
      intro data taken
      rcases Runtime.writing_step stepped taken with earlier | queued
      · rw [writing handle] at earlier
        cases earlier
      · rw [queues handle] at queued
        cases queued
    · exact Runtime.kicks_step kicks undisclosed stepped
  refine ⟨?_, fun handle _ => quiet.1 handle, fun handle _ => quiet.2.1 handle, quiet.2.2⟩
  intro job listed
  rw [List.isEmpty_iff.mp idle] at listed
  cases listed

/-- The log of writes only grows. -/
theorem Runtime.written_reaches {allowed : Runtime → Move → Prop} {start state : Runtime}
    (reached : (serverSystem setting).Reaches allowed start state) :
    ∃ more, state.world.written = start.world.written ++ more := by
  refine System.Reaches.invariant (I := fun state : Runtime =>
    ∃ more, state.world.written = start.world.written ++ more) reached
    ⟨[], (List.append_nil _).symm⟩ ?_
  rintro before after ⟨move, -, stepped⟩ ⟨more, extended⟩
  obtain ⟨added, appended, -⟩ := Runtime.written_step stepped
  exact ⟨more ++ added, by rw [appended, extended, List.append_assoc]⟩

end Confidentiality

/-! ## Concrete runs -/

section Runs

open scoped SingleShard AsciiText

/-- An encryptor that an application might have registered. -/
def maskEncryptor : Encryptor where
  encrypt data := .ok fun _ => 0xFF :: data
  decrypt data := .ok data.tail

/-- A server without authentication that encrypts by default. -/
def maskedSetting : Setting :=
  { openSetting with
    registries := { openSetting.registries with
      encryptors := openSetting.registries.encryptors.insert "mask" maskEncryptor }
    core := { openSetting.core with defaultEncryption := .custom "mask" } }

/-- What this encryptor leaves on the wire. -/
theorem head_of_encryptedWith {data : Wire}
    (encrypted : EncryptedWith maskedSetting (.custom "mask") data) :
    (data 0).head? = some 0xFF := by
  obtain ⟨parser, frame, encryption, serialized⟩ := encrypted
  obtain ⟨bytes, masked⟩ := MessageParser.encrypted_of_serialize serialized
  rw [encryption] at masked
  rw [← Except.ok.inj masked]
  rfl

/-- A connection is accepted and its CONNECT taken up to the completion. -/
def singleConnect : List Move :=
  .accept "a" 0 :: .arrive "a" (utf8 (deviceConnect "first").json) ::
    List.replicate 12 (.consume "a" ⟨.ok none, true⟩)

/-- The rest of CONNECT, and a frame that the application sends. -/
def singleSend : List Move :=
  [.consume "a" ⟨.ok none, true⟩, .call (.sendTo "a" (deviceConnect "second") none),
    .work 0 ⟨.ok none, true⟩, .work 0 ⟨.ok none, true⟩, .work 0 ⟨.ok none, true⟩,
    .flush ⟨"a", 0⟩ true, .flush ⟨"a", 0⟩ true]

def completesMasked (state : Runtime) : Bool :=
  match state.consumers "a" with
  | some (.storing profile _ _) => profile.encryption = .custom "mask"
  | _ => false

/-- A frame sent after the completion is written, and the theorem applies to it. -/
theorem written_encrypted_after_completion_masked :
    ∃ before start state, (serverSystem maskedSetting).Reaches System.always exclusiveServer
        before ∧
      before.step maskedSetting (.consume "a" ⟨.ok none, true⟩) = some start ∧
      (serverSystem maskedSetting).Reaches (Undisclosed "a" (.custom "mask")) start state ∧
      ∃ more, state.world.written = start.world.written ++ more ∧
        (more.map Written.connectionId = ["a"]) ∧ ∀ write ∈ more, write.connectionId = "a" →
          EncryptedWith maskedSetting (.custom "mask") write.data := by
  have run : ((serverSystem maskedSetting).run exclusiveServer singleConnect).any (fun before =>
      completesMasked before && before.world.jobs.isEmpty &&
        (before.step maskedSetting (.consume "a" ⟨.ok none, true⟩)).any fun start =>
          decide ((serverSystem maskedSetting).Permits (Undisclosed "a" (.custom "mask")) start singleSend) &&
            ((serverSystem maskedSetting).run start singleSend).any fun state =>
              decide (state.world.written.length = 2 ∧ start.world.written.length = 1 ∧
                state.world.written.map Written.connectionId = ["a", "a"])) = true := by
    decide +kernel
  have permitted : (serverSystem maskedSetting).Permits (Unsent "a" (.custom "mask")) exclusiveServer
      singleConnect := by
    decide +kernel
  obtain ⟨before, reached, holds⟩ := System.exists_reaches_of_run run permitted
  rw [Bool.and_eq_true, Bool.and_eq_true] at holds
  obtain ⟨⟨completes, idle⟩, rest⟩ := holds
  obtain ⟨start, stepped, sent⟩ := (Option.any_eq_true _ _).mp rest
  rw [Bool.and_eq_true] at sent
  obtain ⟨state, evaluated, counts⟩ := (Option.any_eq_true _ _).mp sent.2
  obtain ⟨length, startLength, ids⟩ := of_decide_eq_true counts
  have reachedState := System.reaches_of_run evaluated (of_decide_eq_true sent.1)
  unfold completesMasked at completes
  split at completes
  · next profile device userId storing =>
      have masked : profile.encryption = .custom "mask" := of_decide_eq_true completes
      obtain ⟨more, extended, encrypted⟩ := written_encrypted_after_completion maskedSetting storing
        (Runtime.clear_of_unsent reached idle) stepped (masked ▸ reachedState)
      refine ⟨before, start, state, reached.imp fun _ _ _ => trivial, stepped, reachedState, more,
        extended, ?_, masked ▸ encrypted⟩
      rw [extended, List.map_append] at ids
      obtain ⟨first, single⟩ := List.length_eq_one_iff.mp startLength
      rw [single] at ids
      exact (List.cons.inj ids).2
  · cases completes

/-- The second of two writes is to the first device, and not masked. -/
def secondInClear : List Written → Bool
  | [_, kicked] => kicked.connectionId = "a" && (kicked.data 0).head? ≠ some 0xFF
  | _ => false

/-- **A device that has negotiated an encryption is kicked in clear.** -/
theorem kicked_in_clear_after_completion :
    ∃ start state, (serverSystem maskedSetting).Reaches System.always exclusiveServer start ∧
      (∃ entry, start.world.manager.connections.get "a" = some entry ∧
        entry.info.negotiationCompleted = true ∧ entry.info.encryption = .custom "mask") ∧
      (serverSystem maskedSetting).Reaches System.always start state ∧
      ∃ more, state.world.written = start.world.written ++ more ∧ ∃ write ∈ more,
        write.connectionId = "a" ∧
          ¬EncryptedWith maskedSetting (.custom "mask") write.data := by
  have run : ((serverSystem maskedSetting).run exclusiveServer (devicesConnect 14 0)).any
      (fun start =>
        ((start.world.manager.connections.get "a").any fun entry =>
          entry.info.negotiationCompleted && entry.info.encryption = .custom "mask") &&
        ((serverSystem maskedSetting).run start
          (List.replicate 11 (.consume "b" ⟨.ok none, true⟩))).any fun state =>
            decide (start.world.written.length = 1) && secondInClear state.world.written) =
        true := by
    decide +kernel
  obtain ⟨start, reached, holds⟩ := System.exists_reaches_of_run run (System.permits_always _ _)
  rw [Bool.and_eq_true] at holds
  obtain ⟨entry, found, completed⟩ := (Option.any_eq_true _ _).mp holds.1
  obtain ⟨state, evaluated, written⟩ := (Option.any_eq_true _ _).mp holds.2
  rw [Bool.and_eq_true] at completed written
  have later := System.reaches_of_run evaluated (System.permits_always _ _)
  obtain ⟨more, extended⟩ := Runtime.written_reaches later
  obtain ⟨first, single⟩ := List.length_eq_one_iff.mp (of_decide_eq_true written.1)
  refine ⟨start, state, reached, ⟨entry, found, completed.1, of_decide_eq_true completed.2⟩, later,
    more, extended, ?_⟩
  rw [extended, single] at written
  cases more with
  | nil => cases written.2
  | cons kicked rest =>
      cases rest with
      | cons other rest => cases written.2
      | nil =>
          have test := written.2
          rw [List.singleton_append, secondInClear, Bool.and_eq_true] at test
          refine ⟨kicked, List.mem_singleton_self kicked, of_decide_eq_true test.1, ?_⟩
          intro encrypted
          exact of_decide_eq_true test.2 (head_of_encryptedWith encrypted)

end Runs

end FlareCore.Server
