import FlareCore.Client.Switchover
import FlareCore.Transport.Truncation

/-!
# Connections that break

A connection on TCP or QUIC may break at any byte, and what has arrived until then may come in any
pieces.  The receive loop delivers exactly the frames that have arrived in full, and one terminal
event after them (`StreamTransport.receive_of_arrived`): a part of a frame is never taken for a
frame.

So what the server goes on with is in the order in which it was written, each frame at most once.
If no frame is late in the sense of the switch to the negotiated profile, nothing is missing in
between: it is the beginning of what was written, and all of it if all has arrived
(`Upstream.handled_of_arrived`).
-/

namespace FlareCore.Transport

open FlareCore.Common FlareCore.Foundations FlareCore.Client

set_option autoImplicit false

/-- The frames that were delivered. -/
def deliveredFrames (events : List ConnectionEvent) : List Bytes :=
  events.filterMap fun
    | .message data => some data
    | .connected | .disconnected _ | .error _ => none

theorem deliveredFrames_append_terminal (frames : List Bytes) {last : ConnectionEvent}
    (isTerminal : last.isTerminal = true) :
    deliveredFrames (frames.map .message ++ [last]) = frames := by
  have none : deliveredFrames [last] = [] := by
    cases last with
    | connected => cases isTerminal
    | message data => cases isTerminal
    | disconnected reason => rfl
    | error error => rfl
  unfold deliveredFrames at none ⊢
  rw [List.filterMap_append, none, List.append_nil, List.filterMap_map]
  exact List.filterMap_some

namespace StreamTransport

variable {transport : StreamTransport} {stream : ChunkedStream UInt8} {rounds : Nat}
  {data bytes : Bytes} {frames : List Bytes}

theorem isTerminal_endEvent (transport : StreamTransport) :
    transport.endEvent.isTerminal = true := by
  cases transport <;> rfl

theorem isTerminal_failureEvent (transport : StreamTransport) (error : FlareError) :
    (transport.failureEvent error).isTerminal = true := by
  cases transport with
  | tcp =>
      unfold failureEvent readFailureEvent
      dsimp only
      split_ifs <;> rfl
  | quic => rfl

theorem sendAll_cons (small : transport = .tcp → data.length ≤ maxFrameLength)
    (sent : transport.sendAll frames = .ok bytes) :
    transport.sendAll (data :: frames) = .ok (lengthBytes data.length ++ data ++ bytes) := by
  have first : transport.send data = .ok (lengthBytes data.length ++ data) := by
    cases transport with
    | tcp => exact writeLengthPrefixed_eq_ok_iff.mpr ⟨small rfl, rfl⟩
    | quic => rfl
  unfold sendAll
  rw [first, sent]
  rfl

/-- A stream that stops within a length: there is nothing to deliver. -/
theorem receive_of_short (short : stream.content.length < 4) :
    ∃ last, transport.receive (rounds + 1) stream = [last] ∧ last.isTerminal = true := by
  have header : stream.readExact 4 = .error stream.content :=
    ChunkedStream.readExact_eq_error short
  cases transport with
  | tcp =>
      have read : tcp.read stream = (.ok [], .ended) := by
        show readLengthPrefixed stream = _
        rw [readLengthPrefixed, header]
      exact ⟨_, receive_of_ended read, isTerminal_endEvent .tcp⟩
  | quic =>
      cases content : stream.content with
      | nil =>
          have read : quic.read stream = (.ok [], .ended) := by
            show readStream stream = _
            rw [readStream, header, content]
          exact ⟨_, receive_of_ended read, isTerminal_endEvent .quic⟩
      | cons first part =>
          have read : quic.read stream =
              (.error (.io "Stream closed while reading length prefix"), .ended) := by
            show readStream stream = _
            rw [readStream, header, content]
          exact ⟨_, receive_of_failed read, isTerminal_failureEvent .quic _⟩

/-- A frame is no proper part of another one. -/
theorem length_eq_of_prefix {first second : Bytes} (small : first.length ≤ maxFrameLength)
    (otherSmall : second.length ≤ maxFrameLength)
    (within : lengthBytes first.length ++ first <+: lengthBytes second.length ++ second) :
    first.length = second.length := by
  have announced : lengthBytes first.length = lengthBytes second.length := by
    obtain ⟨more, isFrame⟩ := within
    rw [List.append_assoc] at isFrame
    exact (List.append_inj isFrame rfl).1
  have limit : maxFrameLength < 2 ^ 32 := by
    decide
  have same := congrArg lengthOfBytes announced
  rwa [lengthOfBytes_lengthBytes, lengthOfBytes_lengthBytes,
    Nat.mod_eq_of_lt (Nat.lt_of_le_of_lt small limit),
    Nat.mod_eq_of_lt (Nat.lt_of_le_of_lt otherSmall limit)] at same

/-- A part of a frame is not delivered. -/
theorem receive_of_part (small : data.length ≤ maxFrameLength)
    (arrived : stream.content <+: lengthBytes data.length ++ data)
    (part : stream.content.length < 4 + data.length) :
    ∃ last, transport.receive (rounds + 1) stream = [last] ∧ last.isTerminal = true := by
  by_cases short : stream.content.length < 4
  · exact receive_of_short short
  have long : 4 ≤ stream.content.length := Nat.not_lt.mp short
  obtain ⟨read, rest, otherRest, isRead, isOther, -, isFrame⟩ |
    ⟨error, rest, otherError, otherRest, isRead, isOther, -⟩ := reads_alike long rfl
  · by_cases isEmpty : read = []
    · subst isEmpty
      cases transport with
      | tcp => exact ⟨_, receive_of_ended isRead, isTerminal_endEvent .tcp⟩
      | quic => exact ⟨_, receive_of_ended isOther, isTerminal_endEvent .quic⟩
    · obtain ⟨bounded, carried⟩ := isFrame isEmpty
      -- whatever is read has the length that the frame announces, which has not arrived
      rw [carried] at arrived
      have announced := length_eq_of_prefix bounded small ((List.prefix_append ..).trans arrived)
      rw [carried, List.length_append, List.length_append, announced,
        show (lengthBytes data.length).length = 4 from rfl] at part
      omega
  · cases transport with
    | tcp => exact ⟨_, receive_of_failed isRead, isTerminal_failureEvent .tcp _⟩
    | quic => exact ⟨_, receive_of_failed isOther, isTerminal_failureEvent .quic _⟩

/-- A frame that has arrived in full is delivered. -/
theorem receive_of_frame (nonempty : data ≠ []) (small : data.length ≤ maxFrameLength)
    (frame : lengthBytes data.length ++ data <+: stream.content) :
    ∃ rest, transport.receive (rounds + 1) stream =
        .message data :: transport.receive rounds rest ∧
      stream.content = lengthBytes data.length ++ data ++ rest.content := by
  obtain ⟨after, carried⟩ := frame
  obtain ⟨rest, read, left⟩ := @read_eq transport stream data after small carried.symm
  refine ⟨rest, receive_of_read read nonempty, ?_⟩
  rw [left]
  exact carried.symm

/-- **Exactly the frames that have arrived in full are delivered, and one terminal event after
them**, wherever the stream stops and in whatever pieces it comes. -/
theorem receive_of_arrived (sent : transport.sendAll frames = .ok bytes)
    (bounded : ∀ data ∈ frames, data ≠ [] ∧ data.length ≤ maxFrameLength)
    (arrived : stream.content <+: bytes) (enough : stream.content.length < rounds) :
    ∃ complete missing written last, frames = complete ++ missing ∧
      transport.receive rounds stream = complete.map .message ++ [last] ∧
      last.isTerminal = true ∧ transport.sendAll complete = .ok written ∧
      written <+: stream.content ∧
      ∀ data ∈ missing.head?, stream.content.length < written.length + (4 + data.length) := by
  obtain ⟨rounds, rfl⟩ := Nat.exists_eq_succ_of_ne_zero (Nat.ne_of_gt (Nat.zero_lt_of_lt enough))
  induction frames generalizing rounds stream bytes with
  | nil =>
      obtain rfl := Except.ok.inj sent
      have isEnded : stream.content.length < 4 := by
        rw [List.prefix_nil.mp arrived]
        decide
      obtain ⟨last, events, isTerminal⟩ := receive_of_short isEnded
      exact ⟨[], [], [], last, rfl, events, isTerminal, rfl, List.nil_prefix, nofun⟩
  | cons data frames inductionHypothesis =>
      obtain ⟨more, others, -, rfl⟩ := sendAll_cons_eq_ok sent
      obtain ⟨nonempty, small⟩ := bounded data List.mem_cons_self
      have four : (lengthBytes data.length ++ data).length = 4 + data.length :=
        List.length_append
      by_cases part : stream.content.length < 4 + data.length
      · have within : stream.content <+: lengthBytes data.length ++ data :=
          List.prefix_of_prefix_length_le arrived (List.prefix_append ..) (by omega)
        obtain ⟨last, events, isTerminal⟩ := receive_of_part small within part
        refine ⟨[], data :: frames, [], last, rfl, events, isTerminal, rfl, List.nil_prefix, ?_⟩
        rintro _ ⟨⟩
        rw [List.length_nil, Nat.zero_add]
        exact part
      · have frame : lengthBytes data.length ++ data <+: stream.content :=
          List.prefix_of_prefix_length_le (List.prefix_append _ more) arrived (by omega)
        obtain ⟨rest, delivered, carried⟩ :=
          @receive_of_frame transport stream rounds data nonempty small frame
        have later : rest.content <+: more := by
          rw [carried] at arrived
          exact (List.prefix_append_right_inj _).mp arrived
        have all : stream.content.length = 4 + data.length + rest.content.length := by
          rw [carried, List.length_append, four]
        obtain ⟨rounds, rfl⟩ := Nat.exists_eq_succ_of_ne_zero (show rounds ≠ 0 by omega)
        obtain ⟨complete, missing, written, last, rfl, events, isTerminal, isWritten, within,
          incomplete⟩ := inductionHypothesis others
            (fun data member => bounded data (List.mem_cons_of_mem _ member)) later rounds
            (by omega)
        refine ⟨data :: complete, missing, lengthBytes data.length ++ data ++ written, last, rfl,
          ?_, isTerminal, ?_, ?_, ?_⟩
        · rw [delivered, events]
          rfl
        · exact sendAll_cons (fun _ => small) isWritten
        · rw [carried]
          exact (List.prefix_append_right_inj _).mpr within
        · intro missed isMissed
          have short := incomplete missed isMissed
          rw [all, List.length_append, four]
          omega

/-- A frame takes its bytes and those of its length. -/
theorem length_le_of_sendAll_append {complete missing : List Bytes} {written : Bytes}
    (isWritten : transport.sendAll complete = .ok written)
    (sent : transport.sendAll (complete ++ data :: missing) = .ok bytes) :
    written.length + (4 + data.length) ≤ bytes.length := by
  induction complete generalizing bytes written with
  | nil =>
      obtain rfl := Except.ok.inj isWritten
      obtain ⟨rest, -, -, rfl⟩ := sendAll_cons_eq_ok sent
      rw [List.length_append, List.length_append, show (lengthBytes data.length).length = 4 from rfl,
        List.length_nil]
      omega
  | cons first complete inductionHypothesis =>
      obtain ⟨rest, others, -, rfl⟩ := sendAll_cons_eq_ok isWritten
      obtain ⟨more, all, -, rfl⟩ := sendAll_cons_eq_ok sent
      have shorter := inductionHypothesis others all
      simp only [List.length_append] at shorter ⊢
      omega

end StreamTransport

end FlareCore.Transport

namespace FlareCore.Server

open FlareCore.Common FlareCore.Foundations

set_option autoImplicit false

/-- What the server goes on with, of what arrives on a negotiated connection. -/
def Setting.readAll [RustText] (setting : Setting) : ConnectionInfo → List Bytes → List Frame
  | _, [] => []
  | info, data :: arrived =>
      let (info, frame) := setting.readNegotiated info data
      frame.toList ++ setting.readAll info arrived

end FlareCore.Server

namespace FlareCore.Client.Upstream

open FlareCore.Common FlareCore.Foundations FlareCore.Server FlareCore.Transport

set_option autoImplicit false

section Reads

variable [RustText] {setting : Setting} {client : Registries} {config : ClientConfig} {ack : Frame}
  {state finish : Upstream}

/-- The server reads the next frames. -/
theorem run_reads (count : Nat) (enough : count ≤ state.channel.length) :
    ∃ next, (system setting client config ack).run state (List.replicate count .read) =
        some next ∧
      next.channel = state.channel.drop count ∧ next.written = state.written ∧
      next.handled = state.handled ++ setting.readAll state.info (state.channel.take count) := by
  induction count generalizing state with
  | zero => exact ⟨state, rfl, rfl, rfl, (List.append_nil _).symm⟩
  | succ count inductionHypothesis =>
      cases unread : state.channel with
      | nil =>
          rw [unread] at enough
          exact absurd enough (Nat.not_succ_le_zero count)
      | cons data rest =>
          rw [unread] at enough
          let read : Upstream :=
            { state with
              channel := rest
              info := (setting.readNegotiated state.info data).1
              handled := state.handled ++ (setting.readNegotiated state.info data).2.toList }
          have step : (system setting client config ack).step state .read = some read := by
            unfold system Upstream.step
            dsimp only
            rw [unread]
          obtain ⟨next, evaluated, channel, written, handled⟩ :=
            @inductionHypothesis read (Nat.le_of_succ_le_succ enough)
          refine ⟨next, ?_, channel, written, ?_⟩
          · rw [List.replicate_succ, System.run, step]
            exact evaluated
          · rw [handled, List.append_assoc]
            rfl

theorem permits_reads {allowed : Upstream → Move → Prop} (free : ∀ state, allowed state .read)
    (state : Upstream) (count : Nat) :
    (system setting client config ack).Permits allowed state (List.replicate count .read) := by
  induction count generalizing state with
  | zero => trivial
  | succ count inductionHypothesis => exact ⟨free state, fun next _ => inductionHypothesis next⟩

/-- Nobody else touches what the server knows and has handled. -/
theorem unread_run {moves : List Move} (unread : ∀ move ∈ moves, move ≠ .read)
    (evaluated : (system setting client config ack).run state moves = some finish) :
    finish.info = state.info ∧ finish.handled = state.handled := by
  induction moves generalizing state with
  | nil =>
      obtain rfl := Option.some.inj evaluated
      exact ⟨rfl, rfl⟩
  | cons move moves inductionHypothesis =>
      obtain ⟨next, stepped, rest⟩ := Option.bind_eq_some_iff.mp evaluated
      obtain ⟨info, handled⟩ := inductionHypothesis
        (fun other member => unread other (List.mem_cons_of_mem _ member)) rest
      rw [info, handled]
      cases move with
      | encode frame nonce =>
          obtain rfl := Option.some.inj stepped
          unfold encode
          split <;> exact ⟨rfl, rfl⟩
      | write index =>
          obtain ⟨letter, -, rfl⟩ := Option.map_eq_some_iff.mp stepped
          exact ⟨rfl, rfl⟩
      | acknowledge =>
          obtain ⟨-, switched⟩ := Option.ite_none_right_eq_some.mp stepped
          obtain rfl := Option.some.inj switched
          exact ⟨rfl, rfl⟩
      | ready stamp nonce =>
          obtain ⟨-, written⟩ := Option.ite_none_right_eq_some.mp stepped
          obtain ⟨wire, -, rfl⟩ := Option.map_eq_some_iff.mp written
          exact ⟨rfl, rfl⟩
      | read => exact absurd rfl (unread .read List.mem_cons_self)

end Reads

section Broken

variable [RustText] {setting : Setting} {libraries : Libraries} {client : Registries}
  {config : ClientConfig} {profile : Profile} {ack : Frame}

/-- What the server goes on with, of the first frames that a client has written. -/
theorem readAll_take (clientBuiltin : client.Builtin libraries)
    (sending : profile.Builtin client libraries) (builtin : setting.registries.Builtin libraries)
    (covered : profile.Builtin setting.registries libraries) (refusesGzip : libraries.RefusesGzip)
    (agreed : config.parserAfterAck config.initialParser ack = profile.parser)
    {info : ConnectionInfo} (serves : info.Serves profile)
    (unconfirmed : info.negotiationConfirmed = false) {moves : List Move} {sent : Upstream}
    (unread : ∀ move ∈ moves, move ≠ .read)
    (permitted : (system setting client config ack).Permits
      (Permitted setting libraries client profile) (initial config info) moves)
    (evaluated : (system setting client config ack).run (initial config info) moves = some sent)
    {count : Nat} (enough : count ≤ sent.channel.length) :
    ∃ consumed pending : List (Posting Frame),
      Posting.messages (consumed ++ pending) = sent.written ∧
      setting.readAll info (sent.channel.take count) =
        Posting.taken (refuses config profile) false consumed ∧
      pending.length + count = sent.channel.length ∧
      (Posting.stale false (consumed ++ pending) = [] ↔
        (system setting client config ack).Permits (fun state move => ¬Late state move)
          (initial config info) moves) := by
  obtain ⟨sameInfo, nothing⟩ := unread_run unread evaluated
  obtain ⟨last, read, channel, written, handled⟩ :=
    @run_reads _ setting client config ack sent count enough
  have all : (system setting client config ack).run (initial config info)
      (moves ++ List.replicate count .read) = some last := by
    rw [System.run_append, evaluated, Option.bind_some, read]
  have withReads : ∀ {allowed : Upstream → Move → Prop}, (∀ state, allowed state .read) →
      ((system setting client config ack).Permits allowed (initial config info)
          (moves ++ List.replicate count .read) ↔
        (system setting client config ack).Permits allowed (initial config info) moves) := by
    intro allowed free
    rw [System.permits_append]
    exact and_iff_left fun middle _ => permits_reads free middle count
  have described := shows_switching clientBuiltin sending builtin covered refusesGzip agreed
  obtain ⟨writers, shown, -, fresh⟩ := described.run (shown_initial serves unconfirmed)
    Switching.marked_initial ((withReads fun _ => trivial).mpr permitted) all
  obtain ⟨consumed, pending, posted, carried, -, taken⟩ := shown.channel
  refine ⟨consumed, pending, ?_, ?_, ?_, ?_⟩
  · rw [← posted, shown.written, written]
  · rw [← taken, handled, nothing, sameInfo]
    rfl
  · rw [carried.length_eq, channel, List.length_drop]
    omega
  · rw [← posted, fresh, withReads fun _ => id]
    exact and_iff_right rfl

/-- **Wherever a connection breaks, the server goes on with frames in the order in which they were
written, each at most once.**  If none is late, or lateness does not matter, it goes on with the
beginning of what was written; and if all has arrived, with all of it exactly in that case. -/
theorem handled_of_arrived (clientBuiltin : client.Builtin libraries)
    (sending : profile.Builtin client libraries) (builtin : setting.registries.Builtin libraries)
    (covered : profile.Builtin setting.registries libraries) (refusesGzip : libraries.RefusesGzip)
    (agreed : config.parserAfterAck config.initialParser ack = profile.parser)
    {info : ConnectionInfo} (serves : info.Serves profile)
    (unconfirmed : info.negotiationConfirmed = false) {moves : List Move} {sent : Upstream}
    (unread : ∀ move ∈ moves, move ≠ .read)
    (permitted : (system setting client config ack).Permits
      (Permitted setting libraries client profile) (initial config info) moves)
    (evaluated : (system setting client config ack).run (initial config info) moves = some sent)
    {transport : StreamTransport} {bytes : Bytes}
    (accepted : transport.sendAll sent.channel = .ok bytes)
    (bounded : ∀ data ∈ sent.channel, data ≠ [] ∧ data.length ≤ maxFrameLength)
    {stream : ChunkedStream UInt8} (arrived : stream.content <+: bytes) :
    let handled := setting.readAll info (deliveredFrames (transport.receiverTask stream))
    let lossless := config.isForceFormat = true ∨ ¬Separates profile ∨
      (system setting client config ack).Permits (fun state move => ¬Late state move)
        (initial config info) moves
    handled.Sublist sent.written ∧ (lossless → handled <+: sent.written) ∧
      (stream.content = bytes → (handled = sent.written ↔ lossless)) := by
  intro received lossless
  obtain ⟨complete, missing, bytesOfComplete, last, isChannel, events, isTerminal, isWritten, -,
    incomplete⟩ := StreamTransport.receive_of_arrived accepted bounded arrived (Nat.lt_succ_self _)
  have isComplete : deliveredFrames (transport.receiverTask stream) = complete := by
    rw [StreamTransport.receiverTask, events, deliveredFrames_append_terminal _ isTerminal]
  have isTake : sent.channel.take complete.length = complete := by
    rw [isChannel, List.take_left]
  have within : complete.length ≤ sent.channel.length := by
    rw [isChannel, List.length_append]
    exact Nat.le_add_right _ _
  obtain ⟨consumed, pending, messages, read, lengths, fresh⟩ := readAll_take clientBuiltin sending
    builtin covered refusesGzip agreed serves unconfirmed unread permitted evaluated within
  have isLossless : refuses config profile = false ∨ Posting.stale false (consumed ++ pending) = [] ↔
      lossless := by
    rw [fresh, refuses, decide_eq_false_iff_not, not_and_or, Bool.not_eq_false, or_assoc]
  rw [Posting.messages_append] at messages
  have isReceived : received = Posting.taken (refuses config profile) false consumed := by
    rw [← read, isTake, ← isComplete]
  rw [isReceived, ← messages]
  refine ⟨?_, fun holds => ?_, fun all => ?_⟩
  · exact (Posting.taken_sublist _ _ consumed).trans (List.sublist_append_left ..)
  · have onTime : refuses config profile = false ∨ Posting.stale false consumed = [] := by
      refine (isLossless.mpr holds).imp_right fun fresh => ?_
      rw [Posting.stale_append] at fresh
      exact (List.append_eq_nil_iff.mp fresh).1
    rw [(Posting.taken_eq_messages_iff _ consumed).mpr onTime]
    exact List.prefix_append ..
  · have nothingMissing : missing = [] := by
      cases missing with
      | nil => rfl
      | cons data missing =>
          rw [isChannel] at accepted
          have short := incomplete data rfl
          have long := StreamTransport.length_le_of_sendAll_append isWritten accepted
          rw [all] at short
          omega
    have nothingPending : pending = [] := by
      rw [isChannel, nothingMissing, List.append_nil] at lengths
      exact List.eq_nil_of_length_eq_zero (by omega)
    subst nothingPending
    rw [List.append_nil] at isLossless
    rw [Posting.messages, List.append_nil, Posting.taken_eq_messages_iff, isLossless]

end Broken

/-! ## A connection that does not break -/

section Punctual

open scoped AsciiText

/-- A frame is written before CONNECT_ACK is handled. -/
def punctual : List Move :=
  [.encode idleFrame 0, .write 0, .acknowledge, .ready (stampOf "ready") 0]

theorem handled_of_arrived_punctual :
    ∃ sent bytes, (system latecomerSetting (jsonFirst latecomerLibraries) (preferring .gzip)
        gzippedAck).run (initial (preferring .gzip) gzippedInfo) punctual = some sent ∧
      StreamTransport.tcp.sendAll sent.channel = .ok bytes ∧ sent.written.length = 1 ∧
      latecomerSetting.readAll gzippedInfo
        (deliveredFrames (StreamTransport.tcp.receiverTask (.whole bytes))) = sent.written := by
  have evaluated : ((system latecomerSetting (jsonFirst latecomerLibraries) (preferring .gzip)
      gzippedAck).run (initial (preferring .gzip) gzippedInfo) punctual).any (fun sent =>
        decide (sent.written.length = 1 ∧ sent.channel.length = 2 ∧
          ∀ data ∈ sent.channel, data ≠ [] ∧ data.length ≤ maxFrameLength)) = true := by
    decide +kernel
  obtain ⟨sent, isSent, result⟩ := (Option.any_eq_true _ _).mp evaluated
  obtain ⟨written, two, bounded⟩ := of_decide_eq_true result
  obtain ⟨first, second, isChannel⟩ := List.length_eq_two.mp two
  have small : ∀ data ∈ [first, second], data.length ≤ maxFrameLength :=
    fun data member => (bounded data (isChannel ▸ member)).2
  have accepted := StreamTransport.sendAll_cons (fun _ => small first (.head _))
    (@StreamTransport.sendAll_singleton .tcp _ fun _ => small second (.tail _ (.head _)))
  rw [← isChannel] at accepted
  have builtin := builtin_jsonFirst latecomerLibraries
  have covered : gzippedProfile.Builtin (jsonFirst latecomerLibraries) latecomerLibraries :=
    ⟨.inr rfl, .inl rfl⟩
  have unread : ∀ move ∈ punctual, move ≠ .read := by
    simp [punctual]
  have permitted : (system latecomerSetting (jsonFirst latecomerLibraries) (preferring .gzip)
      gzippedAck).Permits (Permitted latecomerSetting latecomerLibraries
        (jsonFirst latecomerLibraries) gzippedProfile)
      (initial (preferring .gzip) gzippedInfo) punctual :=
    ⟨sendable_idleFrame, fun _ _ => ⟨trivial, fun _ _ => ⟨trivial, fun _ _ =>
      ⟨⟨serdeFromSlice_ready, readAsText_jsonFirst _ _⟩, fun _ _ => trivial⟩⟩⟩⟩
  have arrived := ChunkedStream.content_whole
    (lengthBytes first.length ++ first ++ (lengthBytes second.length ++ second))
  refine ⟨sent, _, isSent, accepted, written, ?_⟩
  refine ((handled_of_arrived builtin covered builtin covered (refusesGzip_knowingLibraries _)
    (by decide +kernel) ⟨rfl, rfl, rfl⟩ rfl unread permitted isSent accepted bounded
    (by rw [arrived])).2.2 arrived).mpr (.inr (.inr ?_))
  decide +kernel

end Punctual

end FlareCore.Client.Upstream
