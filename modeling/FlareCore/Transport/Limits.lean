import FlareCore.Transport.Framing
import FlareCore.Common.RoundTrip

/-!
# Limits of the two ends

A frame meets up to three limits on its way.  TCP refuses to send more than ten megabytes, and
neither TCP nor QUIC reads more; QUIC sends everything, with the lowest 32 bits of the length in
front.  Gzip compresses everything and expands to sixteen megabytes at most.  A frame without any
fields is empty in protobuf, and a reader takes it for the end of the stream.

So an end may accept a frame that the other end cannot take.  `accepted_read_iff` says which
frames these are: all others are read from the stream and parsed, whatever the mode of the parser,
the order of its registries and the pieces in which the stream arrives.
-/

namespace FlareCore.Transport

open FlareCore.Common FlareCore.Foundations FlareCore.Client

set_option autoImplicit false

/-! ## The two transports -/

/-- `QUICTransport::read_stream`, for a stream that is not reset. -/
def readStream (stream : ChunkedStream UInt8) : Result Bytes × ChunkedStream UInt8 :=
  match stream.readExact 4 with
  | .error [] => (.ok [], .ended)
  | .error (_ :: _) => (.error (.io "Stream closed while reading length prefix"), .ended)
  | .ok (header, rest) =>
      let length := lengthOfBytes header
      if length = 0 then (.ok [], rest)
      else if length > 10 * 1024 * 1024 then
        (.error (.io ("Message too large: " ++ toString length ++ " bytes")), rest)
      else
        match rest.readExact length with
        | .error got =>
            (.error (.io ("Stream closed while reading message: expected " ++ toString length ++
              " bytes, got " ++ toString got.length)), .ended)
        | .ok (payload, rest) => (.ok payload, rest)

/-- The transports that carry frames on a byte stream. -/
inductive StreamTransport where
  | tcp
  | quic
  deriving DecidableEq

namespace StreamTransport

/-- The bytes that `send` writes, for a connection that is open; QUIC has no limit. -/
def send : StreamTransport → Bytes → Result Bytes
  | .tcp, data => writeLengthPrefixed data
  | .quic, data => .ok (lengthBytes data.length ++ data)

def read : StreamTransport → ChunkedStream UInt8 → Result Bytes × ChunkedStream UInt8
  | .tcp => readLengthPrefixed
  | .quic => readStream

def endEvent : StreamTransport → ConnectionEvent
  | .tcp => closedByPeer
  | .quic => .disconnected "Stream closed by peer"

def failureEvent : StreamTransport → FlareError → ConnectionEvent
  | .tcp => readFailureEvent
  | .quic => .error

/-- The loop of `receiver_task`, which both transports share up to what they report. -/
def receive (transport : StreamTransport) : Nat → ChunkedStream UInt8 → List ConnectionEvent
  | 0, _ => []
  | frames + 1, stream =>
      match transport.read stream with
      | (.ok data, rest) =>
          if data = [] then [transport.endEvent]
          else .message data :: transport.receive frames rest
      | (.error error, _) => [transport.failureEvent error]

/-- `receiver_task`. -/
def receiverTask (transport : StreamTransport) (stream : ChunkedStream UInt8) :
    List ConnectionEvent :=
  transport.receive (stream.content.length + 1) stream

theorem receiverTask_tcp (stream : ChunkedStream UInt8) :
    StreamTransport.tcp.receiverTask stream = Transport.receiverTask stream := by
  have same : ∀ rounds stream, StreamTransport.tcp.receive rounds stream =
      Transport.receive rounds stream := by
    intro rounds
    induction rounds with
    | zero => exact fun _ => rfl
    | succ rounds inductionHypothesis =>
        intro stream
        unfold receive Transport.receive
        rw [show StreamTransport.tcp.read stream = readLengthPrefixed stream from rfl]
        cases readLengthPrefixed stream with
        | mk result rest =>
            cases result with
            | error error => rfl
            | ok data =>
                dsimp only
                rw [inductionHypothesis]
                rfl
  exact same _ stream

/-- The bytes of one frame after the other, if all of them are accepted. -/
def sendAll (transport : StreamTransport) : List Bytes → Result Bytes
  | [] => .ok []
  | data :: frames => do
      let first ← transport.send data
      let rest ← transport.sendAll frames
      return first ++ rest

variable {transport : StreamTransport} {stream : ChunkedStream UInt8} {data bytes more : Bytes}

/-- What is accepted is written behind its length, and only TCP has a limit. -/
theorem send_eq_ok (sent : transport.send data = .ok bytes) :
    bytes = lengthBytes data.length ++ data ∧
      (transport = .tcp → data.length ≤ maxFrameLength) := by
  cases transport with
  | tcp =>
      obtain ⟨small, written⟩ := writeLengthPrefixed_eq_ok_iff.mp sent
      exact ⟨written, fun _ => small⟩
  | quic => exact ⟨(Except.ok.inj sent).symm, fun isTcp => by cases isTcp⟩

theorem sendAll_cons_eq_ok {frames : List Bytes}
    (sent : transport.sendAll (data :: frames) = .ok bytes) :
    ∃ rest, transport.sendAll frames = .ok rest ∧
      (transport = .tcp → data.length ≤ maxFrameLength) ∧
        bytes = lengthBytes data.length ++ data ++ rest := by
  unfold sendAll at sent
  cases first : transport.send data with
  | error error =>
      rw [first] at sent
      cases sent
  | ok head =>
      rw [first] at sent
      cases others : transport.sendAll frames with
      | error error =>
          rw [others] at sent
          cases sent
      | ok rest =>
          rw [others] at sent
          obtain ⟨rfl, small⟩ := send_eq_ok first
          exact ⟨rest, rfl, small, (Except.ok.inj sent).symm⟩

theorem sendAll_singleton (small : transport = .tcp → data.length ≤ maxFrameLength) :
    transport.sendAll [data] = .ok (lengthBytes data.length ++ data) := by
  have sent : transport.send data = .ok (lengthBytes data.length ++ data) := by
    cases transport with
    | tcp => exact writeLengthPrefixed_eq_ok_iff.mpr ⟨small rfl, rfl⟩
    | quic => rfl
  unfold sendAll
  rw [sent]
  exact congrArg Except.ok (List.append_nil _)

/-- TCP keeps to its limit. -/
theorem length_le_of_sendAll {frames : List Bytes} (isTcp : transport = .tcp)
    (sent : transport.sendAll frames = .ok bytes) :
    ∀ data ∈ frames, data.length ≤ maxFrameLength := by
  induction frames generalizing bytes with
  | nil => exact fun data member => absurd member List.not_mem_nil
  | cons first frames inductionHypothesis =>
      obtain ⟨rest, others, small, -⟩ := sendAll_cons_eq_ok sent
      intro data member
      obtain rfl | later := List.mem_cons.mp member
      · exact small isTcp
      · exact inductionHypothesis others data later

theorem length_le_length_of_sendAll {frames : List Bytes}
    (sent : transport.sendAll frames = .ok bytes) : frames.length ≤ bytes.length := by
  induction frames generalizing bytes with
  | nil => exact Nat.zero_le _
  | cons data frames inductionHypothesis =>
      obtain ⟨rest, others, -, rfl⟩ := sendAll_cons_eq_ok sent
      have shorter := inductionHypothesis others
      simp only [List.length_append, List.length_cons, lengthBytes, List.length_nil]
      omega

/-! ## Reading -/

end StreamTransport

/-- What is read in one go has the length that was asked for. -/
theorem length_of_readExact {stream rest : ChunkedStream UInt8} {count : Nat} {payload : Bytes}
    (read : stream.readExact count = .ok (payload, rest)) : payload.length = count := by
  by_cases long : count ≤ stream.content.length
  · obtain ⟨after, filled, -⟩ := ChunkedStream.readExact_eq_ok long
    rw [read] at filled
    obtain ⟨rfl, -⟩ := Prod.mk.inj (Except.ok.inj filled)
    rw [List.length_take, Nat.min_eq_left long]
  · rw [ChunkedStream.readExact_eq_error (Nat.not_le.mp long)] at read
    cases read

/-- TCP reads no more than its limit. -/
theorem length_le_of_readLengthPrefixed {stream rest : ChunkedStream UInt8} {data : Bytes}
    (read : readLengthPrefixed stream = (.ok data, rest)) : data.length ≤ maxFrameLength := by
  have none : ([] : Bytes).length ≤ maxFrameLength := Nat.zero_le _
  unfold readLengthPrefixed at read
  cases header : stream.readExact 4 with
  | error got =>
      rw [header] at read
      obtain ⟨same, -⟩ := Prod.mk.inj read
      rwa [← Except.ok.inj same]
  | ok result =>
      obtain ⟨prefixed, body⟩ := result
      rw [header] at read
      dsimp only at read
      split_ifs at read with isEmpty large
      · obtain ⟨same, -⟩ := Prod.mk.inj read
        rwa [← Except.ok.inj same]
      · cases read
      · cases filled : body.readExact (lengthOfBytes prefixed) with
        | error got =>
            rw [filled] at read
            cases read
        | ok result =>
            rw [filled] at read
            obtain ⟨same, -⟩ := Prod.mk.inj read
            rw [← Except.ok.inj same, length_of_readExact filled]
            exact Nat.not_lt.mp large

/-- QUIC reads what TCP would read, once the length has arrived. -/
theorem readStream_eq_ok_iff {stream rest : ChunkedStream UInt8} {data : Bytes}
    (long : 4 ≤ stream.content.length) :
    readStream stream = (.ok data, rest) ↔ readLengthPrefixed stream = (.ok data, rest) := by
  obtain ⟨body, header, -⟩ := ChunkedStream.readExact_eq_ok long
  have limit : maxFrameLength = 10 * 1024 * 1024 := rfl
  unfold readStream readLengthPrefixed
  rw [header, limit]
  dsimp only
  split_ifs
  · rfl
  · exact iff_of_false (fun read => by cases read) fun read => by cases read
  · cases body.readExact (lengthOfBytes (stream.content.take 4)) with
    | error got => exact iff_of_false (fun read => by cases read) fun read => by cases read
    | ok result => rfl

theorem length_le_of_readStream {stream rest : ChunkedStream UInt8} {data : Bytes}
    (read : readStream stream = (.ok data, rest)) : data.length ≤ maxFrameLength := by
  by_cases long : 4 ≤ stream.content.length
  · exact length_le_of_readLengthPrefixed ((readStream_eq_ok_iff long).mp read)
  · unfold readStream at read
    rw [ChunkedStream.readExact_eq_error (Nat.not_le.mp long)] at read
    cases unfinished : stream.content with
    | nil =>
        rw [unfinished] at read
        obtain ⟨same, -⟩ := Prod.mk.inj read
        rw [← Except.ok.inj same]
        exact Nat.zero_le _
    | cons byte bytes =>
        rw [unfinished] at read
        cases read

namespace StreamTransport

variable {transport : StreamTransport} {stream rest : ChunkedStream UInt8} {data bytes more : Bytes}

/-- No reader goes beyond the limit. -/
theorem length_le_of_read (read : transport.read stream = (.ok data, rest)) :
    data.length ≤ maxFrameLength := by
  cases transport with
  | tcp => exact length_le_of_readLengthPrefixed read
  | quic => exact length_le_of_readStream read

/-- A frame within the limit is read, however it arrives. -/
theorem read_eq (small : data.length ≤ maxFrameLength)
    (carried : stream.content = lengthBytes data.length ++ data ++ more) :
    ∃ rest, transport.read stream = (.ok data, rest) ∧ rest.content = more := by
  obtain ⟨rest, read, left⟩ := readLengthPrefixed_eq small carried
  refine ⟨rest, ?_, left⟩
  cases transport with
  | tcp => exact read
  | quic =>
      refine (readStream_eq_ok_iff ?_).mpr read
      rw [carried, List.length_append, List.length_append]
      exact Nat.le_add_right_of_le (Nat.le_add_right 4 data.length)

/-! ## The receive loop -/

theorem endEvent_ne_message (data : Bytes) : transport.endEvent ≠ .message data := by
  cases transport <;> exact fun same => by cases same

theorem failureEvent_ne_message (error : FlareError) (data : Bytes) :
    transport.failureEvent error ≠ .message data := by
  cases transport with
  | tcp =>
      unfold failureEvent readFailureEvent
      dsimp only
      split_ifs <;> exact fun same => by cases same
  | quic => exact fun same => by cases same

/-- Everything that the loop delivers is within the limit and not empty. -/
theorem bounded_of_receive {rounds : Nat}
    (delivered : .message data ∈ transport.receive rounds stream) :
    data ≠ [] ∧ data.length ≤ maxFrameLength := by
  induction rounds generalizing stream with
  | zero => cases delivered
  | succ rounds inductionHypothesis =>
      unfold receive at delivered
      cases read : transport.read stream with
      | mk result rest =>
          rw [read] at delivered
          cases result with
          | error error =>
              exact absurd (List.mem_singleton.mp delivered).symm
                (failureEvent_ne_message error data)
          | ok first =>
              dsimp only at delivered
              split_ifs at delivered with isEmpty
              · exact absurd (List.mem_singleton.mp delivered).symm (endEvent_ne_message data)
              · obtain same | later := List.mem_cons.mp delivered
                · obtain rfl := ConnectionEvent.message.inj same
                  exact ⟨isEmpty, length_le_of_read read⟩
                · exact inductionHypothesis later

/-- The frames that were sent are delivered if none is empty or beyond the limit. -/
theorem receive_eq_append {rounds : Nat} {frames : List Bytes}
    (sent : transport.sendAll frames = .ok bytes) (carried : stream.content = bytes ++ more)
    (enough : frames.length < rounds)
    (bounded : ∀ data ∈ frames, data ≠ [] ∧ data.length ≤ maxFrameLength) :
    ∃ after, transport.receive rounds stream = frames.map .message ++ after := by
  induction frames generalizing rounds stream bytes with
  | nil => exact ⟨_, rfl⟩
  | cons data frames inductionHypothesis =>
      obtain ⟨rounds, rfl⟩ :=
        Nat.exists_eq_succ_of_ne_zero (Nat.ne_of_gt (Nat.zero_lt_of_lt enough))
      obtain ⟨others, written, -, rfl⟩ := sendAll_cons_eq_ok sent
      obtain ⟨nonempty, small⟩ := bounded data List.mem_cons_self
      rw [List.append_assoc] at carried
      obtain ⟨rest, read, left⟩ := @read_eq transport stream data _ small carried
      obtain ⟨after, events⟩ := inductionHypothesis written left (Nat.lt_of_succ_lt_succ enough)
        fun data member => bounded data (List.mem_cons_of_mem _ member)
      refine ⟨after, ?_⟩
      unfold receive
      rw [read]
      dsimp only
      rw [if_neg nonempty, events]
      rfl

/-- **The frames that were sent are delivered exactly if none is empty or beyond the limit**,
whatever the pieces in which they arrive and whatever follows. -/
theorem receiverTask_eq_append_iff {frames : List Bytes}
    (sent : transport.sendAll frames = .ok bytes) (carried : stream.content = bytes ++ more) :
    (∃ after, transport.receiverTask stream = frames.map .message ++ after) ↔
      ∀ data ∈ frames, data ≠ [] ∧ data.length ≤ maxFrameLength := by
  constructor
  · rintro ⟨after, events⟩ data member
    refine @bounded_of_receive transport stream data (stream.content.length + 1) ?_
    rw [← receiverTask, events]
    exact List.mem_append_left _ (List.mem_map_of_mem member)
  · intro bounded
    refine receive_eq_append sent carried ?_ bounded
    have shorter := length_le_length_of_sendAll sent
    rw [carried, List.length_append]
    omega

end StreamTransport

/-! ## Serialized frames -/

section Serialized

variable [RustText]

/-- A frame with what an end has serialized it to, and the nonce it has drawn. -/
structure Sent (sender : Registries) (profile : Profile) where
  frame : Frame
  wire : Wire
  nonce : Nonce
  serialized : profile.parser.serialize sender frame = .ok wire

variable {sender registries : Registries} {profile : Profile} {libraries : Libraries}

namespace Sent

/-- The bytes that are handed to the transport. -/
def payload (sent : Sent sender profile) : Bytes :=
  sent.wire sent.nonce

/-- What the other end needs beyond what this end checks. -/
structure Fits (transport : StreamTransport) (sent : Sent sender profile) : Prop where
  nonempty : ¬(profile = ⟨.protobuf, .none, .none⟩ ∧ sent.frame = .blank)
  short : transport = .quic → sent.payload.length ≤ 10 * 1024 * 1024
  expandable : profile.compression = .gzip →
    (sent.frame.encoded profile.format).length ≤ 16 * 1024 * 1024

/-- Only a frame without any fields has no bytes, if nothing is added to its protobuf. -/
theorem payload_eq_nil_iff (sendingBuiltin : sender.Builtin libraries)
    (sending : profile.Builtin sender libraries) (sent : Sent sender profile)
    (inverts : libraries.Inverts profile.format sent.frame) :
    sent.payload = [] ↔ profile = ⟨.protobuf, .none, .none⟩ ∧ sent.frame = .blank := by
  obtain ⟨packed, isPacked, encrypted⟩ :=
    packed_of_serialize sendingBuiltin sending sent.serialized
  obtain ⟨format, compression, encryption⟩ := profile
  rw [Profile.mk.injEq]
  by_cases plain : encryption = .none
  · subst plain
    have unchanged : sent.payload = packed := (congrFun (Except.ok.inj encrypted) sent.nonce).symm
    rw [unchanged]
    obtain ⟨none, rfl⟩ | ⟨isGzip, compressed⟩ := isPacked
    · obtain rfl : compression = .none := none
      cases format with
      | protobuf =>
          rw [Frame.encoded, protobuf_eq_nil_iff]
          simp
      | json =>
          refine iff_of_false (fun isEmpty => ?_) fun both => by cases both.1.1
          have head := head_utf8_json sent.frame
          rw [show utf8 sent.frame.json = [] from isEmpty] at head
          cases head
    · have magic := (inverts.gzip _ packed compressed).1
      refine iff_of_false (fun isEmpty => ?_) fun both => ?_
      · rw [isEmpty] at magic
        cases magic
      · exact absurd (isGzip.symm.trans both.1.2.1) (by decide)
  · refine iff_of_false ?_ fun both => plain both.1.2.2
    unfold MessageParser.encryptData at encrypted
    rw [if_neg plain, sending.lookup_encryptor plain] at encrypted
    unfold payload
    exact aesEncryptor_ne_nil encrypted sent.nonce

/-- Beyond what gzip may expand, parsing fails in both modes: the strict one gives up, and the
lenient one takes the compressed data for a frame. -/
theorem not_parses_of_long (sendingBuiltin : sender.Builtin libraries)
    (sending : profile.Builtin sender libraries) (builtin : registries.Builtin libraries)
    (covered : profile.Builtin registries libraries) (refuses : libraries.RefusesGzip)
    (sent : Sent sender profile) (inverts : libraries.Inverts profile.format sent.frame)
    (isGzip : profile.compression = .gzip)
    (large : maxGzipDecompressedLen < (sent.frame.encoded profile.format).length)
    (allowFallback : Bool) (read : Frame) :
    profile.parser.parseWithFallback registries sent.payload allowFallback ≠ .ok read := by
  obtain ⟨packed, ⟨none, -⟩ | ⟨-, compressed⟩, encrypted⟩ :=
    packed_of_serialize sendingBuiltin sending sent.serialized
  · exact absurd (isGzip.symm.trans none) (by decide)
  · rw [MessageParser.parseWithFallback, payload,
      decrypt_of_encryptData sending covered inverts encrypted sent.nonce allowFallback]
    show (do
      let decompressed ← profile.parser.decompressDataWithFallback registries packed allowFallback
      profile.parser.parseDecompressedWithFallback registries decompressed allowFallback) ≠ _
    obtain ⟨error, decompressed⟩ :=
      (decompress_of_gzip builtin inverts isGzip compressed allowFallback).2 large
    rw [decompressed]
    cases allowFallback with
    | false => exact fun parsed => by cases parsed
    | true =>
        exact parseDecompressed_of_magic builtin refuses (inverts.gzip _ packed compressed).1 read

/-- A frame is parsed, in either mode, exactly if gzip may expand it again. -/
theorem parses_iff (sendingBuiltin : sender.Builtin libraries)
    (sending : profile.Builtin sender libraries) (builtin : registries.Builtin libraries)
    (covered : profile.Builtin registries libraries) (refuses : libraries.RefusesGzip)
    (sent : Sent sender profile) (inverts : libraries.Inverts profile.format sent.frame)
    (allowFallback : Bool) :
    (∃ read, profile.parser.parseWithFallback registries sent.payload allowFallback = .ok read) ↔
      (profile.compression = .gzip →
        (sent.frame.encoded profile.format).length ≤ 16 * 1024 * 1024) := by
  constructor
  · rintro ⟨read, parsed⟩ isGzip
    by_contra large
    exact not_parses_of_long sendingBuiltin sending builtin covered refuses sent inverts isGzip
      (Nat.not_le.mp large) allowFallback read parsed
  · intro small
    rw [payload, parse_of_serialize sendingBuiltin sending builtin covered inverts
      sent.serialized small]
    exact parseDecompressed_encoded builtin inverts.frame_eq allowFallback

end Sent

/-- **Of the frames that an end serializes and sends, one after the other, all are read from the
stream and parsed by the other end exactly if each of them fits.** -/
theorem accepted_read_iff (sendingBuiltin : sender.Builtin libraries)
    (sending : profile.Builtin sender libraries) (builtin : registries.Builtin libraries)
    (covered : profile.Builtin registries libraries) (refuses : libraries.RefusesGzip)
    {run : List (Sent sender profile)}
    (inverts : ∀ sent ∈ run, libraries.Inverts profile.format sent.frame)
    {transport : StreamTransport} {bytes more : Bytes} {stream : ChunkedStream UInt8}
    (accepted : transport.sendAll (run.map Sent.payload) = .ok bytes)
    (carried : stream.content = bytes ++ more) (allowFallback : Bool) :
    ((∃ after, transport.receiverTask stream =
        run.map (fun sent => .message sent.payload) ++ after) ∧
      ∀ sent ∈ run, ∃ read,
        profile.parser.parseWithFallback registries sent.payload allowFallback = .ok read) ↔
      ∀ sent ∈ run, sent.Fits transport := by
  have delivered := StreamTransport.receiverTask_eq_append_iff accepted carried
  rw [List.map_map] at delivered
  refine (and_congr_left' delivered).trans ?_
  constructor
  · rintro ⟨bounded, parsed⟩ sent member
    obtain ⟨nonempty, small⟩ := bounded sent.payload (List.mem_map_of_mem member)
    refine ⟨?_, fun _ => small, ?_⟩
    · rw [← sent.payload_eq_nil_iff sendingBuiltin sending (inverts sent member)]
      exact nonempty
    · exact (sent.parses_iff sendingBuiltin sending builtin covered refuses (inverts sent member)
        allowFallback).mp (parsed sent member)
  · intro fits
    refine ⟨fun data member => ?_, fun sent member => ?_⟩
    · obtain ⟨sent, isSent, rfl⟩ := List.mem_map.mp member
      refine ⟨?_, ?_⟩
      · rw [ne_eq, sent.payload_eq_nil_iff sendingBuiltin sending (inverts sent isSent)]
        exact (fits sent isSent).nonempty
      · cases transport with
        | tcp => exact StreamTransport.length_le_of_sendAll rfl accepted _ member
        | quic => exact (fits sent isSent).short rfl
    · exact (sent.parses_iff sendingBuiltin sending builtin covered refuses (inverts sent member)
        allowFallback).mpr (fits sent member).expandable

end Serialized

/-! ## A frame that fits and one that does not -/

section Runs

open scoped AsciiText

/-- The built-in codecs, for libraries that know one frame. -/
def knowing (frame : Frame) : Registries :=
  protobufFirst (knowingLibraries [frame])

/-- A frame in a format, neither compressed nor encrypted. -/
def plainly (format : SerializationFormat) (frame : Frame) :
    Sent (knowing frame) ⟨format, .none, .none⟩ where
  frame := frame
  wire := fun _ => frame.encoded format
  nonce := 0
  serialized := by cases format <;> rfl

theorem covered_plainly (format : SerializationFormat) (registries : Registries)
    (libraries : Libraries) : (⟨format, .none, .none⟩ : Profile).Builtin registries libraries where
  compression := .inl rfl
  encryption := .inl rfl

/-- A frame with a short message id fits on TCP. -/
theorem accepted_read_iff_idle :
    ∃ stream after, StreamTransport.tcp.receiverTask stream =
        .message (plainly .json idleFrame).payload :: after ∧
      ∃ read, (⟨.json, .none, .none⟩ : Profile).parser.parseWithFallback (knowing idleFrame)
        (plainly .json idleFrame).payload false = .ok read := by
  have small : (plainly .json idleFrame).payload.length ≤ maxFrameLength := by
    decide +kernel
  have accepted := @StreamTransport.sendAll_singleton .tcp _ fun _ => small
  have builtin : (knowing idleFrame).Builtin (knowingLibraries [idleFrame]) :=
    builtin_protobufFirst _
  have covered := covered_plainly .json (knowing idleFrame) (knowingLibraries [idleFrame])
  have fits : (plainly .json idleFrame).Fits .tcp := by
    refine ⟨fun both => ?_, fun isQuic => ?_, fun isGzip => ?_⟩
    · cases both.1
    · cases isQuic
    · cases isGzip
  obtain ⟨⟨after, events⟩, parsed⟩ := (accepted_read_iff builtin covered builtin covered
    (refusesGzip_knowingLibraries [idleFrame])
    (List.forall_mem_singleton.mpr (inverts_knowingLibraries .json idleFrame)) accepted
    ((ChunkedStream.content_whole _).trans (List.append_nil _).symm) false).mpr
      (List.forall_mem_singleton.mpr fits)
  exact ⟨_, after, events, parsed _ (List.mem_singleton_self _)⟩

/-- A frame with a message id of the given length. -/
def frameWithId (count : Nat) : Frame :=
  { Frame.blank with messageId := String.ofList (List.replicate count 'a') }

theorem length_utf8_replicate (count : Nat) :
    (utf8 (String.ofList (List.replicate count 'a'))).length = count := by
  induction count with
  | zero => rfl
  | succ count inductionHypothesis =>
      rw [List.replicate_succ, ← List.singleton_append, String.ofList_append, utf8_append,
        List.length_append, inductionHypothesis, Nat.add_comm]
      rfl

theorem length_frameWithId (count : Nat) : count ≤ (frameWithId count).protobuf.length := by
  have field : (utf8 (frameWithId count).messageId).length ≤
      (protobufString 2 (frameWithId count).messageId).length := by
    unfold protobufString protobufBytes
    split_ifs with isEmpty
    · rw [isEmpty]
    · rw [protobufDelimited, List.length_append]
      exact Nat.le_add_left _ _
  have long : (utf8 (frameWithId count).messageId).length = count := length_utf8_replicate count
  simp only [Frame.protobuf, List.length_append]
  omega

/-- A frame that the other end does not read, although this end sends it on QUIC and the codecs
would give it back. -/
def UnreadOnQuic (frame : Frame) : Prop :=
  (knowing frame).Builtin (knowingLibraries [frame]) ∧
    (knowingLibraries [frame]).RefusesGzip ∧
    (knowingLibraries [frame]).Inverts .protobuf frame ∧
    ∃ stream : ChunkedStream UInt8,
      StreamTransport.quic.sendAll [(plainly .protobuf frame).payload] = .ok stream.content ∧
        ∀ allowFallback, ¬((∃ after, StreamTransport.quic.receiverTask stream =
            .message (plainly .protobuf frame).payload :: after) ∧
          ∃ read, (⟨.protobuf, .none, .none⟩ : Profile).parser.parseWithFallback
            (knowing frame) (plainly .protobuf frame).payload allowFallback = .ok read)

theorem unreadOnQuic_of_long {frame : Frame} (long : maxFrameLength < frame.protobuf.length) :
    UnreadOnQuic frame := by
  have accepted := @StreamTransport.sendAll_singleton .quic (plainly .protobuf frame).payload
    fun isTcp => by cases isTcp
  refine ⟨builtin_protobufFirst _, refusesGzip_knowingLibraries _,
    inverts_knowingLibraries .protobuf frame, .whole _,
    accepted.trans (congrArg _ (ChunkedStream.content_whole _).symm), ?_⟩
  rintro allowFallback ⟨⟨after, events⟩, -⟩
  have delivered : .message (plainly .protobuf frame).payload ∈
      StreamTransport.quic.receiverTask (.whole (lengthBytes
        (plainly .protobuf frame).payload.length ++ (plainly .protobuf frame).payload)) := by
    rw [events]
    exact List.mem_cons_self
  exact absurd (StreamTransport.bounded_of_receive delivered).2 (Nat.not_le.mpr long)

/-- **QUIC sends a frame of more than ten megabytes, which the other end does not read.** -/
theorem quic_sends_unreadable_frame : UnreadOnQuic (frameWithId (10 * 1024 * 1024 + 1)) :=
  unreadOnQuic_of_long (length_frameWithId (maxFrameLength + 1))

end Runs

end FlareCore.Transport
