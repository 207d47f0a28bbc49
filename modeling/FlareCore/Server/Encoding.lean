import FlareCore.Server.Evolution

/-!
# The encoding of frames before CONNECT_ACK

A client that waits for CONNECT_ACK reads uncompressed and unencrypted JSON.  Most senders of
the server take the profile from a snapshot of the connection, and use it only if the snapshot
says that the negotiation is completed, which it is after the acknowledgement has been written.

Three senders do not wait.  A device conflict encodes KICKED with the format and the compression
in the table, which are there before the acknowledgement; a frame that is sent with a parser of
the caller's is encoded by that parser, whatever the snapshot says; and a WebSocket transport
answers a PING of the WebSocket protocol with a protobuf frame.  In every run in which none of them
meets a connection without an acknowledgement, the frames before it are in the format that the
client reads (`frames_readable_before_ack`).
-/

namespace FlareCore.Server

open FlareCore.Common FlareCore.Foundations

set_option autoImplicit false

/-! ## The log of writes -/

/-- CONNECT_ACK has been written on a connection. -/
def acked (written : List Written) (id : String) : Bool :=
  written.any fun write => write.ack && write.connectionId == id

theorem acked_append_left {written : List Written} {id : String} (holds : acked written id = true)
    (more : List Written) : acked (written ++ more) id = true := by
  rw [acked, List.any_append, Bool.or_eq_true]
  exact Or.inl holds

/-- The acknowledgement itself counts. -/
theorem acked_append_ack (written : List Written) (id : String) (data : Wire) :
    acked (written ++ [⟨id, data, true⟩]) id = true := by
  simp [acked]

section Encoding

variable [RustText] (setting : Setting)

/-- Encoded as `PRE_NEGOTIATION_PARSER` encodes frames. -/
def PreEncoded (data : Wire) : Prop :=
  ∃ frame, setting.serializePreNegotiation frame = .ok data

/-- What a client can read at a given point of the log. -/
def Readable (written : List Written) (id : String) (data : Wire) : Prop :=
  PreEncoded setting data ∨ acked written id = true

/-- Every write could be read when it was made. -/
def LogReadable (written : List Written) : Prop :=
  ∀ before write after, written = before ++ write :: after →
    Readable setting before write.connectionId write.data

variable {setting}

theorem Readable.append {written : List Written} {id : String} {data : Wire}
    (readable : Readable setting written id data) (more : List Written) :
    Readable setting (written ++ more) id data :=
  readable.imp_right fun holds => acked_append_left holds more

theorem LogReadable.append {written : List Written} (log : LogReadable setting written)
    {write : Written} (readable : Readable setting written write.connectionId write.data) :
    LogReadable setting (written ++ [write]) := by
  intro before later after split
  rcases List.append_eq_append_iff.mp split with ⟨middle, rfl, rest⟩ | ⟨middle, rfl, rest⟩
  · cases middle with
    | nil =>
        obtain ⟨rfl, -⟩ := List.cons.inj rest
        rwa [List.append_nil]
    | cons first middle =>
        have short := congrArg List.length rest
        simp at short
  · cases middle with
    | nil =>
        obtain ⟨rfl, -⟩ := List.cons.inj rest
        rwa [List.append_nil] at readable
    | cons first middle =>
        obtain ⟨rfl, -⟩ := List.cons.inj rest
        exact log before later middle rfl

/-! ## What is encoded for a snapshot -/

/-- The parser encodes as `PRE_NEGOTIATION_PARSER` does, by whichever name it knows the format. -/
def speaksInitially (parser : MessageParser) : Bool :=
  (match parser.customFormatName with
    | some name => name == "json"
    | none => decide (parser.defaultFormat = .json)) &&
  (parser.defaultCompression = .none && parser.defaultEncryption = .none)

theorem preEncoded_of_speaksInitially {parser : MessageParser} {frame : Frame} {data : Wire}
    (initial : speaksInitially parser = true)
    (serialized : parser.serialize setting.registries frame = .ok data) :
    PreEncoded setting data := by
  obtain ⟨format, compression, encryption, custom⟩ := parser
  simp only [speaksInitially, Bool.and_eq_true, decide_eq_true_eq] at initial
  obtain ⟨named, rfl, rfl⟩ := initial
  have known : (MessageParser.mk format .none .none custom).serializer setting.registries format =
      setting.registries.getSerializer .json := by
    cases custom with
    | none =>
        obtain rfl := of_decide_eq_true named
        rfl
    | some name =>
        obtain rfl := eq_of_beq named
        rfl
  obtain ⟨packed, isPacked, encrypted⟩ := MessageParser.packed_of_serializeWithFormat serialized
  refine ⟨frame, ?_⟩
  rw [Setting.serializePreNegotiation, MessageParser.serialize,
    MessageParser.serializeWithFormat_eq]
  have samePack : MessageParser.preNegotiation.pack setting.registries frame .json .none =
      .ok packed := by
    unfold MessageParser.pack at isPacked ⊢
    dsimp only at isPacked
    rw [known] at isPacked
    have own : MessageParser.preNegotiation.serializer setting.registries .json =
        setting.registries.getSerializer .json := rfl
    rw [own]
    cases found : setting.registries.getSerializer .json with
    | none =>
        rw [found] at isPacked
        cases isPacked
    | some serializer =>
        rw [found] at isPacked
        exact isPacked
  show (MessageParser.preNegotiation.pack setting.registries frame .json .none).bind _ = _
  rw [samePack]
  exact encrypted

/-- The connection and the parser of the next send of a fan-out, where the sender has given a
parser and the gate before the authentication lets the frame pass. -/
def Fanout.override (fanout : Fanout) : Option (String × MessageParser) :=
  match fanout.remaining, fanout.parser with
  | snapshot :: _, some parser =>
      let allowed := snapshot.info.authenticated || frameAllowedBeforeAuth fanout.frame
      if !fanout.grouped && allowed then some (snapshot.connectionId, parser) else none
  | _, _ => none

def Job.override : Job → Option (String × MessageParser)
  | .deliver fanout => fanout.override
  | _ => none

/-- A frame is encoded by the parser that was given, or as if none had been. -/
theorem Fanout.encode_cases [Hashing] {fanout : Fanout} {snapshot : ConnectionSnapshot}
    {remaining : List ConnectionSnapshot} {data : Wire}
    (served : fanout.remaining = snapshot :: remaining)
    (encoded : fanout.encode setting.registries snapshot = .ok data) :
    (∃ parser, fanout.override = some (snapshot.connectionId, parser) ∧
      parser.serialize setting.registries fanout.frame = .ok data) ∨
    Fanout.encode setting.registries { fanout with parser := none } snapshot = .ok data := by
  cases chosen : fanout.parser with
  | none =>
      refine Or.inr ?_
      rw [← chosen]
      exact encoded
  | some parser =>
      unfold Fanout.encode at encoded ⊢
      split_ifs at encoded with grouped
      · simp only [grouped, if_true]
        exact Or.inr encoded
      · refine Or.inl ⟨parser, ?_⟩
        unfold ConnectionManager.serializeFrameForConnection at encoded
        rw [chosen] at encoded
        by_cases allowed :
            (snapshot.info.authenticated || frameAllowedBeforeAuth fanout.frame) = true
        · rw [ConnectionManager.ensureFrameAllowedForConnection, if_pos allowed] at encoded
          refine ⟨?_, encoded⟩
          rw [Fanout.override, served, chosen]
          simp [grouped, allowed]
        · rw [ConnectionManager.ensureFrameAllowedForConnection, if_neg allowed] at encoded
          cases encoded

/-- Without a parser of the sender's, a snapshot from before the completion is served in the
initial format. -/
theorem preEncoded_of_encode [Hashing] {fanout : Fanout} {snapshot : ConnectionSnapshot}
    {data : Wire}
    (encoded : Fanout.encode setting.registries { fanout with parser := none } snapshot = .ok data)
    (open_ : snapshot.info.negotiationCompleted = false) : PreEncoded setting data := by
  refine ⟨fanout.frame, ?_⟩
  unfold Fanout.encode at encoded
  split_ifs at encoded
  · have shared : ConnectionManager.sharedProfile snapshot.info = some (.json, .none) := by
      simp [ConnectionManager.sharedProfile, open_]
    rw [ConnectionManager.groupEncode, shared] at encoded
    dsimp only at encoded
    cases allowed : ConnectionManager.ensureFrameAllowedForConnection frameAllowedBeforeAuth
        snapshot.connectionId snapshot.info fanout.frame with
    | error error =>
        rw [allowed] at encoded
        cases encoded
    | ok =>
        rw [allowed] at encoded
        exact encoded
  · unfold ConnectionManager.serializeFrameForConnection at encoded
    cases allowed : ConnectionManager.ensureFrameAllowedForConnection frameAllowedBeforeAuth
        snapshot.connectionId snapshot.info fanout.frame with
    | error error =>
        rw [allowed] at encoded
        cases encoded
    | ok =>
        simp only [allowed, open_] at encoded
        exact encoded

/-! ## The invariant -/

/-- The snapshots that a fan-out still has to serve know no profile too early. -/
def Fanout.Readable (written : List Written) (fanout : Fanout) : Prop :=
  ∀ snapshot ∈ fanout.remaining, snapshot.info.negotiationCompleted = true →
    acked written snapshot.connectionId = true

def Job.Readable (written : List Written) : Job → Prop
  | .readUser _ fanout | .read _ fanout | .deliver fanout => fanout.Readable written
  | _ => True

/-- What a consumer that has sent the acknowledgement, or is about to kick, relies on. -/
def Consumer.Readable (setting : Setting) (written : List Written) (id : String) : Consumer → Prop
  | .completing _ | .storing _ _ _ | .notifying _ | .rejectingLate _ _ => acked written id = true
  | .kickSending _ victim data _ => Server.Readable setting written victim data
  | _ => True

section Invariant

variable [Hashing]

/-- The next send of the job would use a parser that the client does not know yet. -/
def World.sendsEarly (world : World) (job : Job) : Bool :=
  job.override.any fun (id, parser) => !acked world.written id && !speaksInitially parser

/-- Negotiation is completed after the acknowledgement, and what waits to be written can be
read. -/
structure World.Readable (setting : Setting) (world : World) : Prop where
  table : ∀ id entry, world.manager.connections.get id = some entry →
    entry.info.negotiationCompleted = true → acked world.written id = true
  queues : ∀ handle data, data ∈ (world.manager.queues handle).items →
    Server.Readable setting world.written handle.connectionId data
  jobs : ∀ job ∈ world.jobs, job.Readable world.written
  log : LogReadable setting world.written

structure Runtime.Readable (setting : Setting) (state : Runtime) : Prop where
  world : state.world.Readable setting
  consumers : ∀ id consumer, state.consumers id = some consumer →
    consumer.Readable setting state.world.written id
  writing : ∀ handle data, state.writing handle = some data →
    Server.Readable setting state.world.written handle.connectionId data

omit [RustText] [Hashing] in
theorem Job.Readable.append {written : List Written} {job : Job} (readable : job.Readable written)
    (more : List Written) : job.Readable (written ++ more) := by
  have fanouts : ∀ fanout : Fanout, fanout.Readable written → fanout.Readable (written ++ more) :=
    fun fanout known snapshot member completed =>
      acked_append_left (known snapshot member completed) more
  cases job with
  | readUser owner fanout => exact fanouts fanout readable
  | read reads fanout => exact fanouts fanout readable
  | deliver fanout => exact fanouts fanout readable
  | _ => trivial

omit [Hashing] in
theorem Consumer.Readable.append {written : List Written} {id : String} {consumer : Consumer}
    (readable : consumer.Readable setting written id) (more : List Written) :
    consumer.Readable setting (written ++ more) id := by
  cases consumer with
  | completing profile => exact acked_append_left readable more
  | storing profile device userId => exact acked_append_left readable more
  | notifying profile => exact acked_append_left readable more
  | rejectingLate profile error => exact acked_append_left readable more
  | kickSending conflict victim data victims => exact Server.Readable.append readable more
  | _ => trivial

omit [RustText] [Hashing] in
theorem Fanout.readable_new (written : List Written) (frame : Frame)
    (parser : Option MessageParser) (grouped : Bool) :
    (Fanout.new frame parser grouped).Readable written := by
  simp [Fanout.Readable, Fanout.new]

namespace World.Readable

variable {world : World} (readable : world.Readable setting)

include readable

theorem spawn {jobs : List Job} (clear : ∀ job ∈ jobs, job.Readable world.written) :
    (world.spawn jobs).Readable setting where
  table := readable.table
  queues := readable.queues
  jobs job member := (List.mem_append.mp member).elim (readable.jobs job) (clear job)
  log := readable.log

theorem calls (callback : Callback) : (world.calls callback).Readable setting :=
  ⟨readable.table, readable.queues, readable.jobs, readable.log⟩

theorem stamped : world.stamped.Readable setting :=
  ⟨readable.table, readable.queues, readable.jobs, readable.log⟩

theorem withManager {manager : ConnectionManager}
    (tame : ConnectionManager.Tame world.manager manager) :
    (world.withManager manager).Readable setting where
  table id entry found completed := by
    obtain ⟨earlier, foundEarlier, follows⟩ := tame.connections id entry found
    exact readable.table id earlier foundEarlier (follows.negotiationCompleted ▸ completed)
  queues handle data member := readable.queues handle data (tame.items handle data member)
  jobs := readable.jobs
  log := readable.log

theorem writes {id : String} {data : Wire} (written : Server.Readable setting world.written id data)
    (ack : Bool) : (world.writes id data ack).Readable setting where
  table other entry found completed :=
    acked_append_left (readable.table other entry found completed) _
  queues handle item member := (readable.queues handle item member).append _
  jobs job member := (readable.jobs job member).append _
  log := readable.log.append written

/-- What a read of the table finds is in the table. -/
theorem snapshots (read : TableRead) {snapshot : ConnectionSnapshot}
    (member : snapshot ∈ read.snapshots world.manager)
    (completed : snapshot.info.negotiationCompleted = true) :
    acked world.written snapshot.connectionId = true := by
  have found : ∃ entry, world.manager.connections.get snapshot.connectionId = some entry ∧
      entry.info = snapshot.info := by
    cases read with
    | connections ids =>
        obtain ⟨id, -, snapped⟩ := List.mem_filterMap.mp member
        obtain ⟨entry, found, rfl⟩ := Option.map_eq_some_iff.mp snapped
        exact ⟨entry, found, rfl⟩
    | shard index excluded =>
        obtain ⟨listed, -⟩ := List.mem_filter.mp member
        obtain ⟨⟨id, entry⟩, inShard, rfl⟩ := List.mem_map.mp listed
        refine ⟨entry, ShardedMap.mem_bindings.mp ?_, rfl⟩
        exact List.mem_flatMap.mpr ⟨index, List.mem_finRange index,
          List.mem_map.mpr ⟨⟨id, entry⟩, inShard, rfl⟩⟩
  obtain ⟨entry, present, same⟩ := found
  exact readable.table snapshot.connectionId entry present (same ▸ completed)

/-- One send of a fan-out. -/
theorem deliver {fanout : Fanout} (known : fanout.Readable world.written)
    (waits : world.sendsEarly (.deliver fanout) = false) :
    (world.deliver setting.registries fanout).Readable setting := by
  unfold World.deliver
  split
  · exact readable.spawn (by simp [Job.Readable])
  · next snapshot remaining served =>
      have rest : ∀ successful, Fanout.Readable world.written
          { fanout with remaining := remaining, successful := successful } := by
        intro successful other member
        exact known other (served ▸ List.mem_cons_of_mem _ member)
      have sent : (world.withManager (world.manager.sendEncoded (fanout.encode setting.registries)
          snapshot).1).Readable setting := by
        refine ⟨?_, ?_, readable.jobs, readable.log⟩
        · intro id entry found completed
          exact readable.table id entry (ConnectionManager.get_of_get_sendEncoded found) completed
        · intro handle data member
          rcases world.manager.items_sendEncoded _ snapshot handle data member with
            earlier | ⟨rfl, encoded⟩
          · exact readable.queues handle data earlier
          · rcases Fanout.encode_cases served encoded with ⟨parser, override, given⟩ | profiled
            · cases after : acked world.written snapshot.connectionId with
              | true => exact Or.inr after
              | false =>
                  have initial : speaksInitially parser = true := by
                    simpa [World.sendsEarly, Job.override, override, after] using waits
                  exact Or.inl (preEncoded_of_speaksInitially initial given)
            · cases completed : snapshot.info.negotiationCompleted with
              | true => exact Or.inr (known snapshot (served ▸ List.mem_cons_self) completed)
              | false => exact Or.inl (preEncoded_of_encode profiled completed)
      refine sent.spawn ?_
      intro job member
      rw [List.mem_singleton.mp member]
      exact rest _

/-- A callback starts with a response that has read nothing yet. -/
theorem handleAndSendResponse (stamps : Nat → Stamp) (id : String) (frame : Frame)
    (received : Option Bool) (messageId : String) (answer : Answer) :
    (world.handleAndSendResponse stamps id frame received messageId answer).Readable setting := by
  refine (readable.calls _).stamped.spawn ?_
  intro job member
  rw [List.mem_singleton.mp member]
  exact Fanout.readable_new _ _ _ _

theorem handleFrame (stamps : Nat → Stamp) (id : String) (frame : Frame) (received : Option Bool)
    (answer : Answer) :
    (world.handleFrame stamps id frame received answer).Readable setting := by
  unfold World.handleFrame
  split
  · split_ifs
    · exact readable
    · exact readable.spawn (by simp [Job.Readable])
  · split_ifs
    · exact readable.handleAndSendResponse stamps id frame received _ answer
    · exact readable
  · exact readable.handleAndSendResponse stamps id frame received _ answer
  · exact readable.spawn (by simp [Job.Readable])
  · exact readable

theorem handleSystemCommand (stamps : Nat → Stamp) (id : String) (frame : Frame)
    (received : Option Bool) (answer : Answer) :
    (world.handleSystemCommand stamps id frame received answer).Readable setting := by
  unfold World.handleSystemCommand
  split
  · refine (readable.calls _).stamped.spawn ?_
    simp only [List.mem_cons, List.not_mem_nil, or_false, forall_eq_or_imp, forall_eq]
    exact ⟨trivial, Fanout.readable_new _ _ _ _⟩
  · exact (readable.calls _).spawn (by simp [Job.Readable])
  · exact readable.spawn (by simp [Job.Readable])
  · exact readable.spawn (by simp [Job.Readable])
  · exact readable

/-- One step of a job. -/
theorem perform {job : Job} (known : job.Readable world.written)
    (waits : world.sendsEarly job = false) (answer : Answer) :
    (job.perform setting.registries setting.stamps setting.enumeration world answer).Readable
      setting := by
  have tame := job.tame_perform setting world answer
  cases job with
  | systemCommand id frame received =>
      exact readable.handleSystemCommand _ id frame received answer
  | systemEvent id frame received =>
      exact readable.handleAndSendResponse _ id frame received _ answer
  | customCommand id frame received =>
      exact (readable.handleAndSendResponse _ id frame received _ answer).spawn
        (by simp [Job.Readable])
  | updateActive id => exact readable.withManager (tame fun _ => Job.noConfusion)
  | confirmNegotiation id => exact readable.withManager (tame fun _ => Job.noConfusion)
  | readUser owner fanout => exact readable.spawn (List.forall_mem_singleton.mpr known)
  | read reads fanout =>
      cases reads with
      | nil =>
          refine readable.spawn ?_
          intro job member
          rw [List.mem_singleton.mp member]
          simp only [Job.Readable, Fanout.arranged]
          split_ifs
          · intro snapshot listed
            exact known snapshot ((ConnectionManager.regrouped_perm setting.enumeration
              fanout.remaining).mem_iff.mp listed)
          · exact known
      | cons first reads =>
          refine readable.spawn ?_
          intro job member
          rw [List.mem_singleton.mp member]
          intro snapshot listed
          rcases List.mem_append.mp listed with earlier | found
          · exact known snapshot earlier
          · exact readable.snapshots first found
  | deliver fanout => exact readable.deliver known waits
  | activate now groups =>
      cases groups with
      | nil => exact readable
      | cons group groups =>
          exact (readable.withManager (world.manager.tame_touchAll group now)).spawn
            (by simp [Job.Readable])
  | bindUser id userId => exact readable.withManager (tame fun _ => Job.noConfusion)
  | setAuthenticated id userId => exact readable.withManager (tame fun _ => Job.noConfusion)
  | transportError id => exact (readable.calls _).spawn (by simp [Job.Readable])
  | disconnected id => exact (readable.calls _).spawn (by simp [Job.Readable])
  | removeDisconnected id =>
      exact (readable.withManager (world.manager.shrinks_removeConnection id).tame).spawn
        (by simp [Job.Readable])
  | disconnect id => exact readable.withManager (tame fun _ => Job.noConfusion)
  | unregister id => exact ⟨readable.table, readable.queues, readable.jobs, readable.log⟩
  | isolate id => exact readable.withManager (tame fun _ => Job.noConfusion)
  | scan timeout => exact readable.spawn (by simp [Job.Readable])
  | evict ids => exact readable.withManager (tame fun _ => Job.noConfusion)
  | forceClose => exact readable.spawn (by simp [Job.Readable])

/-! ## Consumers -/

theorem takeUp (id : String) :
    (world.takeUp setting id).1.Readable setting ∧
      (world.takeUp setting id).2.Readable setting (world.takeUp setting id).1.written id := by
  unfold World.takeUp
  split
  · exact ⟨readable, trivial⟩
  · split_ifs <;>
      exact ⟨⟨readable.table, readable.queues, readable.jobs, readable.log⟩, trivial⟩

theorem explain {id : String} {encoded : Result Wire}
    (known : ∀ data, encoded = .ok data → Server.Readable setting world.written id data) :
    (world.explain id encoded).Readable setting := by
  cases encoded with
  | ok data => exact readable.stamped.writes (known data rfl) false
  | error error => exact readable.stamped

/-- The acknowledgement is in the initial format, and the consumer knows that it is out. -/
theorem acknowledge (id : String) (profile : Profile) (conflicts : List String) (answer : Answer) :
    (world.acknowledge setting id profile conflicts answer).1.Readable setting ∧
      (world.acknowledge setting id profile conflicts answer).2.Readable setting
        (world.acknowledge setting id profile conflicts answer).1.written id := by
  unfold World.acknowledge
  split
  · exact ⟨readable.stamped, trivial⟩
  · next data serialized =>
      refine ⟨readable.stamped.writes (Or.inl ⟨_, serialized⟩) answer.writes, ?_⟩
      dsimp only
      split_ifs with accepted
      · rw [accepted]
        exact acked_append_ack world.written id data
      · trivial

/-- The negotiation is completed after the acknowledgement. -/
theorem completeNegotiation (core : ServerCore) {id : String}
    (after : acked world.written id = true) (device : Option DeviceInfo) (userId : Option String)
    (profile : Profile) :
    (world.withManager (world.manager.completeNegotiation core id device userId profile
      world.clock)).Readable setting := by
  refine ⟨?_, ?_, readable.jobs, readable.log⟩
  · intro other entry found completed
    by_cases same : other = id
    · exact same ▸ after
    · obtain ⟨earlier, foundEarlier, follows⟩ :=
        world.manager.keepsConnection_completeNegotiation core same device userId profile
          world.clock entry found
      exact readable.table other earlier foundEarlier (follows.negotiationCompleted ▸ completed)
  · intro handle data member
    have same := world.manager.queues_updateConnection id (.negotiationWithPipeline
      ⟨device, profile.format, profile.compression, profile.encryption, userId⟩ profile.parser
      (core.pipelineForNegotiationProfile profile)) world.clock
    exact readable.queues handle data (by rwa [← same])

end World.Readable

/-! ## Kicks -/

/-- KICKED would be encoded with a profile that the client of the victim does not know yet. -/
def World.kicksEarly (world : World) (victim : String) : Bool :=
  (world.manager.connections.get victim).any fun entry =>
    !acked world.written victim &&
      !(entry.info.serializationFormat = .json && entry.info.compression = .none)

/-- The consumer is about to encode such a KICKED. -/
def Consumer.kicksEarly (world : World) (id : String) : Consumer → Bool
  | .kicking _ (victim :: _) => decide (victim ≠ id) && world.kicksEarly victim
  | _ => false

variable {world : World}

theorem World.Readable.kick (readable : world.Readable setting) {id : String} (conflict : Conflict)
    {victim : String} (victims : List String)
    (waits : (Consumer.kicking conflict (victim :: victims)).kicksEarly world id = false) :
    (world.kick setting id conflict victim victims).1.Readable setting ∧
      (world.kick setting id conflict victim victims).2.Readable setting
        (world.kick setting id conflict victim victims).1.written id := by
  unfold World.kick
  split_ifs with same
  · exact ⟨readable, trivial⟩
  · split
    · exact ⟨readable, trivial⟩
    · next entry found =>
        split
        · next data serialized =>
            refine ⟨readable.stamped, ?_⟩
            cases after : acked world.written victim with
            | true => exact Or.inr after
            | false =>
                have initial : entry.info.serializationFormat = .json ∧
                    entry.info.compression = .none := by
                  simpa [Consumer.kicksEarly, World.kicksEarly, same, found, after] using waits
                rw [ConnectionInfo.kickParser, initial.1, initial.2] at serialized
                exact Or.inl ⟨_, serialized⟩
        · exact ⟨readable.stamped, trivial⟩

/-- One step of a consumer that kicks nobody early. -/
theorem World.Readable.consume (readable : world.Readable setting) {id : String} (answer : Answer)
    {consumer : Consumer} (known : consumer.Readable setting world.written id)
    (waits : consumer.kicksEarly world id = false) :
    (world.consume setting id answer consumer).1.Readable setting ∧
      (world.consume setting id answer consumer).2.Readable setting
        (world.consume setting id answer consumer).1.written id := by
  cases consumer with
  | receive => exact readable.takeUp id
  | taken data received =>
      exact ⟨readable.withManager (world.manager.tame_touch id world.clock), trivial⟩
  | refreshed data received =>
      refine ⟨readable, ?_⟩
      simp only [World.consume, World.route]
      split
      · trivial
      · split_ifs <;> trivial
  | negotiated data info received =>
      simp only [World.consume, World.handleNegotiatedMessage]
      split_ifs
      · exact ⟨readable.withManager (world.manager.tame_markNegotiationConfirmed id), trivial⟩
      · split <;> exact ⟨readable, trivial⟩
  | preNegotiation data received =>
      refine ⟨readable, ?_⟩
      simp only [World.consume, World.handlePreNegotiationMessage]
      split
      · trivial
      · split_ifs <;> trivial
  | handling frame received =>
      exact ⟨readable.handleFrame setting.stamps id frame received answer, trivial⟩
  | connecting frame =>
      refine ⟨readable, ?_⟩
      simp only [World.consume]
      split_ifs <;> trivial
  | authenticating frame =>
      refine ⟨readable, ?_⟩
      simp only [World.consume, World.authenticate]
      split <;> trivial
  | informing acceptance =>
      exact ⟨readable.withManager (world.manager.tame_updateConnection id rfl _), trivial⟩
  | marking acceptance =>
      exact ⟨readable.withManager (world.manager.tame_updateConnection id rfl _), trivial⟩
  | registering acceptance =>
      simp only [World.consume, World.register]
      split <;> exact ⟨⟨readable.table, readable.queues, readable.jobs, readable.log⟩, trivial⟩
  | kicking conflict victims =>
      cases victims with
      | nil => exact ⟨readable, trivial⟩
      | cons victim victims => exact readable.kick conflict victims waits
  | kickSending conflict victim data victims => exact ⟨readable.writes known false, trivial⟩
  | kickUnregistering conflict victim victims =>
      exact ⟨⟨readable.table, readable.queues, readable.jobs, readable.log⟩, trivial⟩
  | kickRemoving conflict victim victims =>
      exact ⟨readable.withManager (world.manager.shrinks_removeConnection victim).tame, trivial⟩
  | acknowledging profile conflicts => exact readable.acknowledge id profile conflicts answer
  | completing profile =>
      refine ⟨readable, ?_⟩
      simp only [World.consume]
      split <;> exact known
  | storing profile device userId =>
      exact ⟨readable.completeNegotiation setting.core known device userId profile, known⟩
  | notifying profile =>
      refine ⟨readable.calls _, ?_⟩
      simp only [World.consume]
      split
      · trivial
      · exact known
  | rejectingLate profile error =>
      exact ⟨readable.explain fun _ _ => Or.inr known, trivial⟩
  | rejecting error =>
      simp only [World.consume, World.rejectConnect]
      split
      · exact ⟨readable, trivial⟩
      · exact ⟨readable.explain fun _ serialized => Or.inl ⟨_, serialized⟩, trivial⟩
  | removing =>
      exact ⟨readable.withManager (world.manager.shrinks_removeConnection id).tame, trivial⟩

/-! ## Runs -/

/-- The move is one of the three that choose the encoding too early. -/
def Runtime.writesEarly (state : Runtime) : Move → Bool
  | .consume id _ => (state.consumers id).any (Consumer.kicksEarly state.world id)
  | .work index _ => state.world.jobs[index]?.any state.world.sendsEarly
  | .websocketPing id => !acked state.world.written id
  | _ => false

def NothingWrittenEarly (state : Runtime) (move : Move) : Prop :=
  state.writesEarly move = false

instance (state : Runtime) (move : Move) : Decidable (NothingWrittenEarly state move) :=
  inferInstanceAs (Decidable (_ = _))

namespace Runtime.Readable

variable {state state' : Runtime} (readable : state.Readable setting)

include readable

/-- A step that leaves the consumers and the writer tasks where they are. -/
theorem of_written {world : World} (clear : world.Readable setting) {more : List Written}
    (extended : world.written = state.world.written ++ more) :
    Runtime.Readable setting ⟨world, state.consumers, state.writing⟩ where
  world := clear
  consumers id consumer found := by
    dsimp only
    rw [extended]
    exact (readable.consumers id consumer found).append more
  writing handle data found := by
    dsimp only
    rw [extended]
    exact (readable.writing handle data found).append more

/-- A step that writes nothing either. -/
theorem of_world {world : World} (clear : world.Readable setting)
    (same : world.written = state.world.written) :
    Runtime.Readable setting ⟨world, state.consumers, state.writing⟩ :=
  readable.of_written clear (same.trans (List.append_nil _).symm)

theorem accept {id : String} {connection : ConnectionHandle}
    (accepted : state.accept setting id connection = some state') : state'.Readable setting := by
  obtain ⟨manager, consumers, rfl, keeps, items, origin⟩ := Runtime.accept_cases accepted
  refine ⟨⟨?_, ?_, readable.world.jobs, readable.world.log⟩, ?_, readable.writing⟩
  · intro other entry found completed
    rcases keeps other entry found with earlier | ⟨rfl, new⟩
    · exact readable.world.table other entry earlier completed
    · rw [new] at completed
      cases completed
  · intro handle data member
    exact readable.world.queues handle data (items handle data member)
  · intro other consumer found
    rcases origin other consumer found with rfl | ⟨-, earlier⟩
    · trivial
    · exact readable.consumers other consumer earlier

theorem flush {handle : WriteHandle} {succeeds : Bool}
    (flushed : state.flush handle succeeds = some state') : state'.Readable setting := by
  rcases Runtime.flush_cases flushed with
    ⟨data, manager, queued, shrinks, rfl⟩ | ⟨data, manager, jobs, taken, shrinks, isolates, rfl⟩
  · refine ⟨readable.world.withManager shrinks.tame, readable.consumers, ?_⟩
    intro other item found
    dsimp only at found
    by_cases same : other = handle
    · subst same
      rw [Function.update_self] at found
      exact Option.some.inj found ▸ readable.world.queues other data queued
    · rw [Function.update_of_ne same] at found
      exact readable.writing other item found
  · have written := (readable.world.writes (readable.writing handle data taken) false).withManager
      shrinks.tame
    refine ⟨written.spawn ?_, ?_, ?_⟩
    · intro job member
      rw [isolates job member]
      trivial
    · intro id consumer found
      exact (readable.consumers id consumer found).append _
    · intro other item found
      dsimp only at found
      by_cases same : other = handle
      · rw [same, Function.update_self] at found
        cases found
      · rw [Function.update_of_ne same] at found
        exact (readable.writing other item found).append _

theorem consume {id : String} {answer : Answer} {consumer : Consumer}
    (found : state.consumers id = some consumer)
    (waits : consumer.kicksEarly state.world id = false) :
    Runtime.Readable setting ⟨(state.world.consume setting id answer consumer).1,
      Function.update state.consumers id
        (some (state.world.consume setting id answer consumer).2), state.writing⟩ := by
  obtain ⟨world, own⟩ :=
    readable.world.consume answer (readable.consumers id consumer found) waits
  obtain ⟨more, extended⟩ := state.world.written_consume setting id answer consumer
  have others := readable.of_written world extended
  refine ⟨world, ?_, others.writing⟩
  intro other later present
  dsimp only at present
  by_cases same : other = id
  · subst same
    rw [Function.update_self] at present
    exact Option.some.inj present ▸ own
  · rw [Function.update_of_ne same] at present
    exact others.consumers other later present

/-- **Every step that writes nothing early keeps the invariant.** -/
theorem step {move : Move} (waits : NothingWrittenEarly state move)
    (stepped : state.step setting move = some state') : state'.Readable setting := by
  cases move with
  | accept id connection => exact readable.accept stepped
  | arrive id data =>
      simp only [Runtime.step, Runtime.arrive] at stepped
      split_ifs at stepped
      · obtain rfl := Option.some.inj stepped
        exact readable
      · obtain rfl := Option.some.inj stepped
        exact readable.of_world ⟨readable.world.table, readable.world.queues, readable.world.jobs,
          readable.world.log⟩ rfl
  | websocketPing id =>
      have after : acked state.world.written id = true := by
        simpa [NothingWrittenEarly, Runtime.writesEarly] using waits
      simp only [Runtime.step] at stepped
      split_ifs at stepped
      obtain rfl := Option.some.inj stepped
      exact readable.of_written (readable.world.stamped.writes (Or.inr after) false) rfl
  | closed id errored =>
      simp only [Runtime.step] at stepped
      split_ifs at stepped
      all_goals
        obtain rfl := Option.some.inj stepped
        exact readable.of_world (readable.world.spawn (by simp [Job.Readable])) rfl
  | call call =>
      obtain rfl := Option.some.inj stepped
      refine readable.of_world (readable.world.stamped.spawn ?_) rfl
      cases call <;> simp [ServerCall.jobs, sendFrameToJob, sendFrameToUserJob,
        sendFrameToConnectionsJob, broadcastJob, Job.Readable, Fanout.readable_new]
  | consume id answer =>
      obtain ⟨consumer, found, rfl⟩ := Option.map_eq_some_iff.mp stepped
      refine readable.consume found ?_
      simpa [NothingWrittenEarly, Runtime.writesEarly, found] using waits
  | work index answer =>
      obtain ⟨job, found, rfl⟩ := Option.map_eq_some_iff.mp stepped
      have others : World.Readable setting
          { state.world with jobs := state.world.jobs.eraseIdx index } :=
        ⟨readable.world.table, readable.world.queues,
          fun other member => readable.world.jobs other (List.mem_of_mem_eraseIdx member),
          readable.world.log⟩
      have speaks : state.world.sendsEarly job = false := by
        simpa [NothingWrittenEarly, Runtime.writesEarly, found] using waits
      exact readable.of_world
        (others.perform (readable.world.jobs job (List.mem_of_getElem? found)) speaks answer)
        (job.written_perform setting _ answer)
  | flush handle succeeds => exact readable.flush stepped
  | tick duration =>
      obtain rfl := Option.some.inj stepped
      exact readable.of_world ⟨readable.world.table, readable.world.queues, readable.world.jobs,
        readable.world.log⟩ rfl

end Runtime.Readable

theorem Runtime.readable_initial (setting : Setting) (writeQueueCapacity : Nat)
    (devices : Option DeviceManager) (clock : Instant) :
    (Runtime.initial writeQueueCapacity devices clock).Readable setting where
  world :=
    { table := by
        intro id entry found
        rw [Runtime.initial, ConnectionManager.new, ShardedMap.get_empty] at found
        cases found
      queues := by simp [Runtime.initial, ConnectionManager.new, WriteQueue.new]
      jobs := by simp [Runtime.initial]
      log := by simp [Runtime.initial, LogReadable] }
  consumers := by simp [Runtime.initial]
  writing := by simp [Runtime.initial]

/-- **What is written on a connection before its CONNECT_ACK is uncompressed and unencrypted
JSON**, in any run in which no KICKED is encoded with a profile, no frame with a parser of the
sender's, and no WebSocket PING answered, before the acknowledgement. -/
theorem frames_readable_before_ack (setting : Setting) (writeQueueCapacity : Nat)
    (devices : Option DeviceManager) (clock : Instant) {state : Runtime}
    (reached : (serverSystem setting).Reaches NothingWrittenEarly
      (Runtime.initial writeQueueCapacity devices clock) state) :
    ∀ before write after, state.world.written = before ++ write :: after →
      acked before write.connectionId = false → PreEncoded setting write.data := by
  have readable : state.Readable setting := by
    refine System.Reaches.invariant (I := Runtime.Readable setting) reached
      (Runtime.readable_initial setting writeQueueCapacity devices clock) ?_
    rintro before after ⟨move, waits, stepped⟩ invariant
    exact invariant.step waits stepped
  intro before write after split pending
  rcases readable.world.log before write after split with encoded | acknowledged
  · exact encoded
  · rw [pending] at acknowledged
    cases acknowledged

end Invariant

end Encoding

/-! ## Concrete runs -/

section Runs

open scoped SingleShard AsciiText

/-- CONNECT from one of the devices of a user, who prefers protobuf. -/
def deviceConnect (device : String) : Frame :=
  .withSystemCommand ⟨device, 0⟩
    (.connect .protobuf (((((∅ : StringMap Bytes).insert "user_id" (utf8 "alice")).insert "device_id"
      (utf8 device)).insert "platform" (utf8 "android")).insert "format" (utf8 "protobuf")))
    .atLeastOnce

/-- A server without authentication. -/
def openSetting : Setting where
  registries := builtinRegistries [deviceConnect "first", deviceConnect "second"]
  core :=
    { defaultSerializationFormat := .json
      defaultCompression := .none
      defaultEncryption := .none
      authConfigured := false
      authenticator := none
      pipelineForNegotiationProfile := fun _ => none }
  maxConnections := 8
  stamps := fun count => ⟨toString count, 0⟩
  enumeration := .given CodecProfile
  encodeProtobuf := Frame.protobuf

/-- Without connections, and with one device for each platform of a user. -/
def exclusiveServer : Runtime :=
  .initial 8 (some (.new .platformExclusive)) 0

/-- Both connections are accepted, and a CONNECT is taken through some steps on each. -/
def devicesConnect (firstSteps secondSteps : Nat) : List Move :=
  let steps (id device : String) (count : Nat) : List Move :=
    .arrive id (utf8 (deviceConnect device).json) :: List.replicate count
      (.consume id ⟨.ok none, true⟩)
  [.accept "a" 0, .accept "b" 1] ++ steps "a" "first" firstSteps ++ steps "b" "second" secondSteps

/-- The format before negotiation is an object. -/
theorem head_of_preEncoded {data : Wire} (encoded : PreEncoded openSetting data) :
    (data 0).head? = some 0x7B := by
  obtain ⟨frame, serialized⟩ := encoded
  have json : openSetting.serializePreNegotiation frame = .ok fun _ => utf8 frame.json := rfl
  rw [← Except.ok.inj (json.symm.trans serialized)]
  exact head_utf8_json frame

/-- The first device is displaced after its CONNECT_ACK: three frames are written, and the
theorem applies. -/
theorem frames_readable_before_ack_displaced :
    ∃ state, (serverSystem openSetting).Reaches NothingWrittenEarly exclusiveServer state ∧
      state.world.written.map (fun write => (write.connectionId, write.ack)) =
        [("a", true), ("a", false), ("b", true)] ∧
      ∀ before write after, state.world.written = before ++ write :: after →
        acked before write.connectionId = false → PreEncoded openSetting write.data := by
  have run : ((serverSystem openSetting).run exclusiveServer (devicesConnect 14 18)).any
      (fun state => decide (state.world.written.map
        (fun write => (write.connectionId, write.ack)) =
          [("a", true), ("a", false), ("b", true)])) = true := by
    decide +kernel
  have permitted : (serverSystem openSetting).Permits NothingWrittenEarly exclusiveServer
      (devicesConnect 14 18) := by
    decide +kernel
  obtain ⟨state, reached, holds⟩ := System.exists_reaches_of_run run permitted
  exact ⟨state, reached, of_decide_eq_true holds,
    frames_readable_before_ack openSetting 8 (some (.new .platformExclusive)) 0 reached⟩

/-- **The first device is displaced before its CONNECT_ACK: KICKED is protobuf.** -/
theorem kicked_before_ack_in_protobuf :
    ∃ state, (serverSystem openSetting).Reaches System.always exclusiveServer state ∧
      ∃ before write after, state.world.written = before ++ write :: after ∧
        acked before write.connectionId = false ∧ ¬PreEncoded openSetting write.data := by
  have run : ((serverSystem openSetting).run exclusiveServer (devicesConnect 9 11)).any
      (fun state => state.world.written.head?.any
        fun write => decide ((write.data 0).head? ≠ some 0x7B)) = true := by
    decide +kernel
  obtain ⟨state, reached, holds⟩ := System.exists_reaches_of_run run (System.permits_always _ _)
  obtain ⟨write, first, other⟩ := (Option.any_eq_true _ _).mp holds
  obtain ⟨after, split⟩ := List.head?_eq_some_iff.mp first
  refine ⟨state, reached, [], write, after, split, rfl, ?_⟩
  intro encoded
  exact of_decide_eq_true other (head_of_preEncoded encoded)

end Runs

end FlareCore.Server
