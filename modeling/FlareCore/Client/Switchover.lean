import FlareCore.Foundations.Switchover
import FlareCore.Client.Frames
import FlareCore.Client.Handshake

/-!
# Switching to the negotiated profile

When CONNECT_ACK is handled, the client switches its parser and then tells the server with
NEGOTIATION_READY, written in plain JSON.  Whoever sends a frame encodes it under the lock of the
parser and writes it under the lock of the connection, with both locks free in between.  So a
frame that was encoded before the switch may be written after NEGOTIATION_READY.

The server reads the frames of a connection one after the other.  Up to NEGOTIATION_READY it is
lenient: plain JSON is read whatever the profile is.  Afterwards it expects what the profile
says, and drops what is not compressed or encrypted as agreed.

`handled_iff` says which runs lose a frame.  The system is one of writers that switch an encoding
(`Foundations.Switching`), and the frames lost are those that are late in that sense.
-/

namespace FlareCore.Server

open FlareCore.Common FlareCore.Foundations

set_option autoImplicit false

section Reading

variable [RustText]

/-- What the server makes of the next frame of a negotiated connection, and of its information
about the connection. -/
def Setting.readNegotiated (setting : Setting) (info : ConnectionInfo) (data : Bytes) :
    ConnectionInfo × Option Frame :=
  if setting.isPreNegotiation .negotiationReady data then
    ({ info with negotiationConfirmed := true }, none)
  else (info, setting.parseNegotiated info data)

/-- This is what `handle_negotiated_message` does to a connection in the table. -/
theorem World.handleNegotiatedMessage_eq [Hashing] (setting : Setting) {world : World}
    {connectionId : String} {entry : ConnectionEntry}
    (found : world.manager.connections.get connectionId = some entry)
    (completed : entry.info.negotiationCompleted = true) (data : Bytes) (received : Option Bool) :
    (world.handleNegotiatedMessage setting connectionId data entry.info
        received).1.manager.connections.get connectionId =
      some { entry with info := (setting.readNegotiated entry.info data).1 } ∧
    (world.handleNegotiatedMessage setting connectionId data entry.info received).2 =
      ((setting.readNegotiated entry.info data).2.elim .receive fun frame =>
        .handling frame received) := by
  unfold World.handleNegotiatedMessage Setting.readNegotiated
  split_ifs
  · refine ⟨?_, rfl⟩
    show (world.manager.markNegotiationConfirmed connectionId).1.connections.get connectionId = _
    rw [ConnectionManager.markNegotiationConfirmed, found]
    dsimp only
    rw [if_pos completed]
    exact ShardedMap.get_insert_self ..
  · cases setting.parseNegotiated entry.info data with
    | some frame => exact ⟨found, rfl⟩
    | none => exact ⟨found, rfl⟩

end Reading

/-- The server's information about a connection that was negotiated to a profile. -/
structure ConnectionInfo.Serves (info : ConnectionInfo) (profile : Profile) : Prop where
  completed : info.negotiationCompleted = true
  encryption : info.encryption = profile.encryption
  cachedParser : info.cachedParser = some profile.parser

/-- This is what the server stores after CONNECT_ACK. -/
theorem serves_of_finalizeNegotiationAfterAck [Hashing] (core : ServerCore)
    {manager : ConnectionManager} {connectionId : String} {entry : ConnectionEntry}
    (found : manager.connections.get connectionId = some entry) (profile : Profile)
    (now : Instant) :
    ∃ stored, (manager.finalizeNegotiationAfterAck core connectionId profile
        now).connections.get connectionId = some stored ∧
      stored.info.Serves profile ∧
      stored.info.negotiationConfirmed = entry.info.negotiationConfirmed := by
  rw [ConnectionManager.finalizeNegotiationAfterAck, found]
  exact ⟨_, ConnectionManager.get_updateConnection found _ now, ⟨rfl, rfl, rfl⟩, rfl⟩

end FlareCore.Server

namespace FlareCore.Client

open FlareCore.Common FlareCore.Foundations FlareCore.Server

set_option autoImplicit false

/-! ## The client's side of a connection and the server's -/

/-- A frame that was encoded and is not yet written; `early` if that was before the switch. -/
structure Letter where
  frame : Frame
  data : Bytes
  early : Bool

/-- Which of the two encodings that is. -/
def Letter.encoding (letter : Letter) : Encoding :=
  if letter.early then .old else .new

/-- The frames of a client on their way to the server, from CONNECT_ACK on.  `written` are the
frames that were written, in order, and `handled` those that the server went on with. -/
structure Upstream where
  parser : MessageParser
  progress : Progress
  held : List Letter
  channel : List Bytes
  info : ConnectionInfo
  written : List Frame
  handled : List Frame

namespace Upstream

/-- `encode` and `write` are the two parts of `send_frame_internal`, `acknowledge` and `ready`
those of `handle_connect_ack_command`, and `read` is the server's. -/
inductive Move where
  | encode (frame : Frame) (nonce : Nonce)
  | write (index : Nat)
  | acknowledge
  | ready (stamp : Stamp) (nonce : Nonce)
  | read

section Steps

variable [RustText] (setting : Setting) (client : Registries) (config : ClientConfig) (ack : Frame)

/-- The parser is locked while a frame is encoded; a failure is reported to the sender. -/
def encode (state : Upstream) (frame : Frame) (nonce : Nonce) : Upstream :=
  match state.parser.serialize client frame with
  | .error _ => state
  | .ok wire =>
      { state with
        held := state.held ++ [⟨frame, wire nonce, decide (state.progress = .before)⟩] }

def step (state : Upstream) : Move → Option Upstream
  | .encode frame nonce => some (state.encode client frame nonce)
  | .write index =>
      state.held[index]?.map fun letter =>
        { state with
          held := state.held.eraseIdx index
          channel := state.channel ++ [letter.data]
          written := state.written ++ [letter.frame] }
  | .acknowledge =>
      if state.progress = .before then
        some { state with
          parser := config.parserAfterAck state.parser ack
          progress := .switched }
      else none
  | .ready stamp nonce =>
      if state.progress = .switched then
        (MessageParser.preNegotiation.serialize client
            (ClientState.negotiationReadyFrame stamp)).toOption.map fun wire =>
          { state with
            channel := state.channel ++ [wire nonce]
            progress := .announced }
      else none
  | .read =>
      match state.channel with
      | [] => none
      | data :: rest =>
          let (info, frame) := setting.readNegotiated state.info data
          some { state with
            channel := rest
            info := info
            handled := state.handled ++ frame.toList }

end Steps

/-- A client that has sent CONNECT, and what the server has stored with CONNECT_ACK. -/
def initial (config : ClientConfig) (info : ConnectionInfo) : Upstream where
  parser := config.initialParser
  progress := .before
  held := []
  channel := []
  info := info
  written := []
  handled := []

/-- The client and the server as a transition system. -/
def system [RustText] (setting : Setting) (client : Registries) (config : ClientConfig)
    (ack : Frame) : System Upstream Move where
  step := step setting client config ack

/-- A frame that was encoded before the switch is written after NEGOTIATION_READY. -/
def Late (state : Upstream) : Move → Prop
  | .write index =>
      state.progress = .announced ∧ (state.held[index]?.any Letter.early) = true
  | _ => False

instance (state : Upstream) : ∀ move, Decidable (state.Late move)
  | .write _ => inferInstanceAs (Decidable (_ ∧ _))
  | .encode _ _ | .acknowledge | .ready _ _ | .read => isFalse id

end Upstream

/-! ## What the server makes of a frame -/

section Data

variable [RustText] {registries client : Registries} {libraries : Libraries} {profile : Profile}
  {frame : Frame}

omit [RustText] in
/-- JSON is not taken for compressed data. -/
theorem autoDecompress_json (builtin : registries.Builtin libraries) (frame : Frame) :
    registries.autoDecompress (utf8 frame.json) = .ok (utf8 frame.json, .none) := by
  have unmarked : (utf8 frame.json).take 2 ≠ [0x1F, 0x8B] := by
    intro magic
    obtain ⟨bytes, isMagic⟩ := eq_cons_of_magic magic
    have head := head_utf8_json frame
    rw [isMagic] at head
    exact absurd (Option.some.inj head) (by decide)
  have undetected : libraries.gzipCompressor.canDetect (utf8 frame.json) = false :=
    decide_eq_false unmarked
  have nobody : (registries.compressors.entries.map Sigma.snd).find?
      (·.canDetect (utf8 frame.json)) = none := by
    obtain order | order := List.perm_pair.mp builtin.compressors <;> rw [order] <;>
      simp [undetected, Compressor.passThrough]
  rw [Registries.autoDecompress, nobody]
  rfl

/-- The JSON of a frame is not the ciphertext of anything. -/
def Authenticates (libraries : Libraries) (frame : Frame) : Prop :=
  ∃ error, libraries.aesDecrypt ((utf8 frame.json).take 12) ((utf8 frame.json).drop 12) =
    .error error

/-- Plain JSON is not decrypted: the strict mode fails and the lenient one goes on. -/
theorem decrypt_json (covered : profile.Builtin registries libraries)
    (authentic : profile.encryption ≠ .none → Authenticates libraries frame) :
    profile.parser.decryptDataWithFallback registries (utf8 frame.json) true =
        .ok (utf8 frame.json) ∧
      (profile.encryption = .none → profile.parser.decryptDataWithFallback registries
        (utf8 frame.json) false = .ok (utf8 frame.json)) ∧
      (profile.encryption ≠ .none → ∃ error, profile.parser.decryptDataWithFallback registries
        (utf8 frame.json) false = .error error) := by
  have configured : profile.parser.defaultEncryption = profile.encryption := rfl
  unfold MessageParser.decryptDataWithFallback
  rw [configured]
  by_cases none : profile.encryption = .none
  · simp only [if_pos none]
    exact ⟨trivial, fun _ => trivial, fun encrypted => absurd none encrypted⟩
  · have refused : ∃ error, libraries.aesEncryptor.decrypt (utf8 frame.json) = .error error := by
      obtain ⟨error, failed⟩ := authentic none
      unfold Libraries.aesEncryptor
      dsimp only
      split_ifs
      · exact ⟨_, rfl⟩
      · rw [failed]
        exact ⟨_, rfl⟩
    obtain ⟨error, failed⟩ := refused
    simp only [if_neg none, covered.lookup_encryptor none, failed]
    exact ⟨rfl, fun isNone => absurd isNone none, fun _ => ⟨_, rfl⟩⟩

/-- Plain JSON is not decompressed either. -/
theorem decompress_json (builtin : registries.Builtin libraries) (frame : Frame) :
    profile.parser.decompressDataWithFallback registries (utf8 frame.json) true =
        .ok (utf8 frame.json) ∧
      (profile.compression = .none → profile.parser.decompressDataWithFallback registries
        (utf8 frame.json) false = .ok (utf8 frame.json)) ∧
      (profile.compression ≠ .none → ∃ error, profile.parser.decompressDataWithFallback registries
        (utf8 frame.json) false = .error error) := by
  have configured : profile.parser.defaultCompression = profile.compression := rfl
  unfold MessageParser.decompressDataWithFallback
  rw [configured, autoDecompress_json builtin]
  by_cases none : profile.compression = .none
  · simp only [if_pos none]
    exact ⟨trivial, fun _ => trivial, fun compressed => absurd none compressed⟩
  · simp only [if_neg none]
    exact ⟨rfl, fun isNone => absurd isNone none, fun _ => ⟨_, rfl⟩⟩

/-- A profile under which plain JSON can be told from what was agreed. -/
def Separates (profile : Profile) : Prop :=
  profile.compression ≠ .none ∨ profile.encryption ≠ .none

instance (profile : Profile) : Decidable (Separates profile) :=
  inferInstanceAs (Decidable (_ ∨ _))

/-- Plain JSON is read under any profile by the lenient mode, and by the strict one exactly if
the profile neither compresses nor encrypts. -/
theorem parse_json (builtin : registries.Builtin libraries)
    (covered : profile.Builtin registries libraries)
    (authentic : profile.encryption ≠ .none → Authenticates libraries frame)
    (decoded : libraries.serdeFromSlice (utf8 frame.json) = .ok frame)
    (text : ReadAsText registries libraries frame) (strict : Bool) :
    (profile.parser.parseWithFallback registries (utf8 frame.json) (!strict)).toOption =
      if strict = true ∧ Separates profile then none else some frame := by
  obtain ⟨decrypts, plainly, sealed⟩ := decrypt_json covered authentic
  obtain ⟨expands, unpacked, packed⟩ := @decompress_json _ registries libraries profile builtin frame
  have read := fun allowFallback =>
    (parseDecompressed_json_iff builtin decoded profile.parser allowFallback).mpr text
  unfold MessageParser.parseWithFallback
  cases strict with
  | false =>
      rw [if_neg fun both => Bool.false_ne_true both.1, Bool.not_false, decrypts]
      dsimp only [Bind.bind, Except.bind]
      rw [expands]
      dsimp only
      rw [read]
      rfl
  | true =>
      rw [Bool.not_true]
      by_cases encrypted : profile.encryption = .none
      · rw [plainly encrypted]
        dsimp only [Bind.bind, Except.bind]
        by_cases compressed : profile.compression = .none
        · rw [unpacked compressed]
          dsimp only
          rw [read, if_neg]
          · rfl
          · rintro ⟨-, isCompressed | isEncrypted⟩
            · exact isCompressed compressed
            · exact isEncrypted encrypted
        · obtain ⟨error, failed⟩ := packed compressed
          rw [failed, if_pos ⟨rfl, .inl compressed⟩]
          rfl
      · obtain ⟨error, failed⟩ := sealed encrypted
        rw [failed, if_pos ⟨rfl, .inr encrypted⟩]
        rfl

/-- What is needed of a frame that is encoded with a parser, beyond that its encoding succeeds:
the libraries undo what they do to it, it is not NEGOTIATION_READY itself, and what it is encrypted
to is not taken for that. -/
structure Sendable (setting : Setting) (libraries : Libraries) (client : Registries)
    (profile : Profile) (parser : MessageParser) (frame : Frame) (nonce : Nonce) : Prop where
  inverts : libraries.Inverts parser.defaultFormat frame
  text : parser.defaultFormat = .json → ReadAsText setting.registries libraries frame
  expandable : parser.defaultCompression = .gzip →
    (frame.encoded parser.defaultFormat).length ≤ 16 * 1024 * 1024
  ordinary : isSystemMessage .negotiationReady frame = false
  unnoticed : parser.defaultEncryption ≠ .none → ∀ wire, parser.serialize client frame = .ok wire →
    setting.isPreNegotiation .negotiationReady (wire nonce) = false
  authentic : parser.defaultEncryption ≠ profile.encryption → Authenticates libraries frame

variable {setting : Setting} {info : ConnectionInfo} {nonce : Nonce} {wire : Wire}

/-- What is read before negotiation as a frame is NEGOTIATION_READY exactly if the frame is. -/
theorem isPreNegotiation_of_parse {data : Bytes} (kind : SystemType)
    (parsed : setting.parsePreNegotiation data = .ok frame) :
    setting.isPreNegotiation kind data = isSystemMessage kind frame := by
  rw [Setting.isPreNegotiation, parsed]
  rfl

theorem isPreNegotiation_of_unread {data : Bytes} (kind : SystemType)
    (unread : ∀ read, setting.parsePreNegotiation data ≠ .ok read) :
    setting.isPreNegotiation kind data = false := by
  rw [Setting.isPreNegotiation]
  cases parsed : setting.parsePreNegotiation data with
  | error error => rfl
  | ok read => exact absurd parsed (unread read)

/-- The parser for the connection is that of the profile. -/
theorem parseNegotiated_eq (serves : info.Serves profile)
    (covered : profile.Builtin setting.registries libraries) (data : Bytes) :
    setting.parseNegotiated info data = (profile.parser.parseWithFallback setting.registries data
      (!info.negotiationConfirmed)).toOption := by
  have registered : ¬(info.encryption ≠ .none ∧
      ¬setting.registries.encryptorRegistered info.encryption.asStr) := by
    rintro ⟨encrypted, missing⟩
    rw [serves.encryption] at encrypted missing
    rw [Registries.encryptorRegistered, covered.lookup_encryptor encrypted] at missing
    exact missing rfl
  rw [Setting.parseNegotiated, if_neg registered, Setting.negotiatedParser, serves.cachedParser,
    Option.getD_some]

/-- A frame that was encoded with the profile is read, strictly or not. -/
theorem readNegotiated_profile (clientBuiltin : client.Builtin libraries)
    (sending : profile.Builtin client libraries)
    (builtin : setting.registries.Builtin libraries)
    (covered : profile.Builtin setting.registries libraries) (refuses : libraries.RefusesGzip)
    (serves : info.Serves profile)
    (sendable : Sendable setting libraries client profile profile.parser frame nonce)
    (serialized : profile.parser.serialize client frame = .ok wire) :
    setting.readNegotiated info (wire nonce) = (info, some frame) := by
  have ordinary : setting.isPreNegotiation .negotiationReady (wire nonce) = false := by
    by_cases encrypted : profile.encryption = .none
    · obtain ⟨packed, isPacked, sealed⟩ := packed_of_serialize clientBuiltin sending serialized
      rw [encrypted] at sealed
      obtain rfl := Except.ok.inj sealed
      obtain ⟨-, rfl⟩ | ⟨-, compressed⟩ := isPacked
      · have read := (parse_preNegotiation_encoded_iff builtin sendable.inverts.frame_eq).mpr
          sendable.text
        exact (isPreNegotiation_of_parse _ read).trans sendable.ordinary
      · have magic := (sendable.inverts.gzip _ packed compressed).1
        exact isPreNegotiation_of_unread _ (parseDecompressed_of_magic builtin refuses magic)
    · exact sendable.unnoticed encrypted wire serialized
  have parsed : ∀ allowFallback, profile.parser.parseWithFallback setting.registries (wire nonce)
      allowFallback = .ok frame := by
    intro allowFallback
    rw [parse_of_serialize clientBuiltin sending builtin covered sendable.inverts serialized
      sendable.expandable]
    cases isFormat : profile.format with
    | protobuf =>
        have decoded := sendable.inverts.frame_eq
        rw [show profile.parser.defaultFormat = .protobuf from isFormat] at decoded
        exact parseDecompressed_protobuf builtin isFormat decoded allowFallback
    | json =>
        have decoded := sendable.inverts.frame_eq
        rw [show profile.parser.defaultFormat = .json from isFormat] at decoded
        exact (parseDecompressed_json_iff builtin decoded _ _).mpr (sendable.text isFormat)
  rw [Setting.readNegotiated, ordinary, if_neg Bool.false_ne_true,
    parseNegotiated_eq serves covered, parsed]
  rfl

/-- A frame in plain JSON is read until the confirmation, and afterwards exactly if the profile
neither compresses nor encrypts. -/
theorem readNegotiated_json (clientBuiltin : client.Builtin libraries)
    (builtin : setting.registries.Builtin libraries)
    (covered : profile.Builtin setting.registries libraries) (serves : info.Serves profile)
    (sendable : Sendable setting libraries client profile .preNegotiation frame nonce)
    (serialized : MessageParser.preNegotiation.serialize client frame = .ok wire) :
    setting.readNegotiated info (wire nonce) =
      (info, if info.negotiationConfirmed = true ∧ Separates profile then none else some frame) := by
  rw [serialize_preNegotiation clientBuiltin] at serialized
  obtain rfl := Except.ok.inj serialized
  have decoded : libraries.serdeFromSlice (utf8 frame.json) = .ok frame := sendable.inverts.frame_eq
  have text := sendable.text rfl
  have read := (parse_preNegotiation_json_iff builtin decoded).mpr text
  have ordinary : setting.isPreNegotiation .negotiationReady (utf8 frame.json) = false :=
    (isPreNegotiation_of_parse _ read).trans sendable.ordinary
  rw [Setting.readNegotiated, ordinary, if_neg Bool.false_ne_true,
    parseNegotiated_eq serves covered, parse_json builtin covered
      (fun encrypted => sendable.authentic encrypted.symm) decoded text]

/-- NEGOTIATION_READY is taken for what it is. -/
theorem readNegotiated_ready (builtin : setting.registries.Builtin libraries) {stamp : Stamp}
    (decoded : libraries.serdeFromSlice (utf8 (ClientState.negotiationReadyFrame stamp).json) =
      .ok (ClientState.negotiationReadyFrame stamp))
    (text : ReadAsText setting.registries libraries (ClientState.negotiationReadyFrame stamp)) :
    setting.readNegotiated info (utf8 (ClientState.negotiationReadyFrame stamp).json) =
      ({ info with negotiationConfirmed := true }, none) := by
  have read := (parse_preNegotiation_json_iff builtin decoded).mpr text
  have isReady : isSystemMessage .negotiationReady (ClientState.negotiationReadyFrame stamp) =
      true := rfl
  rw [Setting.readNegotiated, if_pos ((isPreNegotiation_of_parse _ read).trans isReady)]

end Data

/-- A client never has a parser for a custom format. -/
theorem parserAfterAck_eq [RustText] (config : ClientConfig) (ack : Frame) :
    config.parserAfterAck config.initialParser ack =
      (config.parserAfterAck config.initialParser ack).profile.parser := by
  have initially : config.initialParser = config.initialParser.profile.parser := by
    unfold ClientConfig.initialParser
    split_ifs <;> rfl
  unfold ClientConfig.parserAfterAck
  cases handleConnectAck ack with
  | error error => exact initially
  | ok announced =>
      dsimp only
      split_ifs
      · exact initially
      · rfl

/-- Once the profiles agree, both ends have a parser for one profile. -/
theorem serves_of_profilesAgree [Hashing] [RustText] {core : ServerCore} {config : ClientConfig}
    {ack : Frame} {manager : ConnectionManager} {connectionId : String} {selected : Profile}
    {now : Instant} (agree : ProfilesAgree core config ack manager connectionId selected now) :
    ∃ stored, (manager.finalizeNegotiationAfterAck core connectionId selected
        now).connections.get connectionId = some stored ∧
      stored.info.Serves selected ∧
      config.parserAfterAck config.initialParser ack = selected.parser := by
  obtain ⟨announced, stored, -, isStored, -, cached, uses⟩ := agree
  cases found : manager.connections.get connectionId with
  | none =>
      rw [ConnectionManager.finalizeNegotiationAfterAck, found] at isStored
      exact absurd (found.symm.trans isStored) (by simp)
  | some entry =>
      obtain ⟨other, isOther, serves, -⟩ := serves_of_finalizeNegotiationAfterAck core found
        selected now
      obtain rfl := Option.some.inj (isOther.symm.trans isStored)
      have isAnnounced : selected = announced := by
        rw [serves.cachedParser] at cached
        exact Option.some.inj cached
      refine ⟨other, isOther, serves, ?_⟩
      rw [parserAfterAck_eq, uses, isAnnounced]

/-! ## Runs -/

namespace Upstream

section Runs

variable [RustText] (setting : Setting) (libraries : Libraries) (client : Registries)
  (config : ClientConfig) (profile : Profile)

/-- The server refuses what was encoded before the switch, once it is told of the switch. -/
def refuses : Bool :=
  decide (config.isForceFormat = false ∧ Separates profile)

/-- The server reads the bytes as what was posted. -/
def Carries (posting : Posting Frame) (data : Bytes) : Prop :=
  ∀ info : ConnectionInfo, info.Serves profile →
    setting.readNegotiated info data =
      match posting with
      | .mark => ({ info with negotiationConfirmed := true }, none)
      | .message encoding frame =>
          (info, if refuses config profile = true ∧ info.negotiationConfirmed = true ∧
            encoding = .old then none else some frame)

/-- What is needed of the frames that are encoded, and of NEGOTIATION_READY. -/
def Permitted (state : Upstream) : Move → Prop
  | .encode frame nonce =>
      Sendable setting libraries client profile state.parser frame nonce
  | .ready stamp _ =>
      libraries.serdeFromSlice (utf8 (ClientState.negotiationReadyFrame stamp).json) =
          .ok (ClientState.negotiationReadyFrame stamp) ∧
        ReadAsText setting.registries libraries (ClientState.negotiationReadyFrame stamp)
  | _ => True

/-- The writers that a state shows: everything posted was consumed by the server or is carried by
the channel. -/
structure Shown (state : Upstream) (writers : Switching Frame) : Prop where
  progress : writers.progress = state.progress
  held : writers.held = state.held.map fun letter => (letter.encoding, letter.frame)
  letters : ∀ letter ∈ state.held,
    Carries setting config profile (.message letter.encoding letter.frame) letter.data
  parser : state.parser =
    if state.progress = .before then config.initialParser else profile.parser
  written : Posting.messages writers.posted = state.written
  serves : state.info.Serves profile
  channel : ∃ consumed pending, writers.posted = consumed ++ pending ∧
    List.Forall₂ (Carries setting config profile) pending state.channel ∧
    state.info.negotiationConfirmed = consumed.any Posting.isMark ∧
    state.handled = Posting.taken (refuses config profile) false consumed

variable {setting libraries client config profile} {state : Upstream} {writers : Switching Frame}
  {ack : Frame}

theorem shown_initial {info : ConnectionInfo} (serves : info.Serves profile)
    (unconfirmed : info.negotiationConfirmed = false) :
    Shown setting config profile (initial config info) Switching.initial where
  progress := rfl
  held := rfl
  letters _ member := absurd member List.not_mem_nil
  parser := rfl
  written := rfl
  serves := serves
  channel := ⟨[], [], rfl, .nil, unconfirmed, rfl⟩

/-- A client that forces its profile has its parser from the beginning. -/
theorem initialParser_eq_of_forced
    (agreed : config.parserAfterAck config.initialParser ack = profile.parser)
    (forced : config.isForceFormat = true) : config.initialParser = profile.parser := by
  rw [← agreed, ClientConfig.parserAfterAck]
  cases handleConnectAck ack with
  | error error => rfl
  | ok announced => exact (if_pos forced).symm

section Ends

variable (clientBuiltin : client.Builtin libraries) (sending : profile.Builtin client libraries)
  (builtin : setting.registries.Builtin libraries)
  (covered : profile.Builtin setting.registries libraries) (refusesGzip : libraries.RefusesGzip)
  (agreed : config.parserAfterAck config.initialParser ack = profile.parser)

include clientBuiltin sending builtin covered refusesGzip agreed

/-- Whatever is encoded with the parser in use is read as long as the server takes that
encoding. -/
theorem carries_of_serialize {frame : Frame} {nonce : Nonce} {wire : Wire}
    (shown : Shown setting config profile state writers)
    (sendable : Sendable setting libraries client profile state.parser frame nonce)
    (serialized : state.parser.serialize client frame = .ok wire) :
    Carries setting config profile (.message writers.encoding frame) (wire nonce) := by
  intro info serves
  have encoding : writers.encoding = if state.progress = .before then .old else .new := by
    rw [Switching.encoding, shown.progress]
  have parser := shown.parser
  by_cases plain : state.progress = .before ∧ config.isForceFormat = false
  · obtain ⟨early, free⟩ := plain
    have isInitial : config.initialParser = .preNegotiation :=
      if_neg fun forced => Bool.false_ne_true (free.symm.trans forced)
    rw [if_pos early, isInitial] at parser
    rw [parser] at sendable serialized
    rw [readNegotiated_json clientBuiltin builtin covered serves sendable serialized]
    simp only [encoding, if_pos early, refuses, free, true_and, and_true, decide_eq_true_eq]
    exact congrArg (Prod.mk info) (if_congr and_comm rfl rfl)
  · have isAgreed : state.parser = profile.parser := by
      rw [parser]
      split_ifs with early
      · exact initialParser_eq_of_forced agreed
          ((Bool.eq_false_or_eq_true _).resolve_right fun free => plain ⟨early, free⟩)
      · rfl
    have taken : ¬(refuses config profile = true ∧ info.negotiationConfirmed = true ∧
        writers.encoding = .old) := by
      rintro ⟨refused, -, old⟩
      rw [encoding] at old
      split_ifs at old with early
      exact plain ⟨early, (of_decide_eq_true refused).1⟩
    rw [isAgreed] at sendable serialized
    rw [readNegotiated_profile clientBuiltin sending builtin covered refusesGzip serves sendable
      serialized]
    dsimp only
    rw [if_neg taken]

/-- A sender encodes a frame: a step of the writers, if the frame can be encoded. -/
theorem shown_encode {frame : Frame} {nonce : Nonce}
    (shown : Shown setting config profile state writers)
    (sendable : Sendable setting libraries client profile state.parser frame nonce) :
    Shown setting config profile (state.encode client frame nonce) writers ∨
      Shown setting config profile (state.encode client frame nonce)
        { writers with held := writers.held ++ [(writers.encoding, frame)] } := by
  unfold encode
  cases serialized : state.parser.serialize client frame with
  | error error => exact .inl shown
  | ok wire =>
      have encoding : Letter.encoding ⟨frame, wire nonce, decide (state.progress = .before)⟩ =
          writers.encoding := by
        rw [Letter.encoding, Switching.encoding, shown.progress]
        simp only [decide_eq_true_eq]
      refine .inr { shown with held := ?_, letters := ?_ }
      · rw [List.map_append, List.map_singleton, encoding, shown.held]
      · intro letter member
        obtain held | isNew := List.mem_append.mp member
        · exact shown.letters letter held
        · obtain rfl := List.mem_singleton.mp isNew
          rw [encoding]
          exact carries_of_serialize clientBuiltin sending builtin covered refusesGzip agreed shown
            sendable serialized

end Ends

/-- A frame is written: the oldest still unread come first. -/
theorem shown_write {index : Nat} {letter : Letter}
    (shown : Shown setting config profile state writers)
    (isHeld : state.held[index]? = some letter) :
    writers.held[index]? = some (letter.encoding, letter.frame) ∧
      Shown setting config profile
        { state with
          held := state.held.eraseIdx index
          channel := state.channel ++ [letter.data]
          written := state.written ++ [letter.frame] }
        { writers with
          held := writers.held.eraseIdx index
          posted := writers.posted ++ [.message letter.encoding letter.frame] } := by
  obtain ⟨consumed, pending, posted, carried, confirmed, handled⟩ := shown.channel
  have carries := shown.letters letter (List.mem_of_getElem? isHeld)
  refine ⟨?_, { shown with
    held := ?_
    letters := ?_
    written := ?_
    channel := ⟨consumed, pending ++ [.message letter.encoding letter.frame], ?_, ?_, confirmed,
      handled⟩ }⟩
  · rw [shown.held, List.getElem?_map, isHeld]
    rfl
  · rw [shown.held, List.eraseIdx_map]
  · exact fun other member => shown.letters other (List.mem_of_mem_eraseIdx member)
  · rw [Posting.messages_append, shown.written]
    rfl
  · rw [posted, List.append_assoc]
  · exact List.rel_append carried (.cons carries .nil)

/-- The parser is switched. -/
theorem shown_acknowledge (agreed : config.parserAfterAck config.initialParser ack = profile.parser)
    (shown : Shown setting config profile state writers) (early : state.progress = .before) :
    Shown setting config profile
      { state with parser := config.parserAfterAck state.parser ack, progress := .switched }
      { writers with progress := .switched } where
  progress := rfl
  held := shown.held
  letters := shown.letters
  parser := by
    rw [shown.parser, if_pos early]
    exact agreed
  written := shown.written
  serves := shown.serves
  channel := shown.channel

/-- NEGOTIATION_READY is written. -/
theorem shown_ready {data : Bytes} (shown : Shown setting config profile state writers)
    (switched : state.progress = .switched) (carries : Carries setting config profile .mark data) :
    Shown setting config profile
      { state with channel := state.channel ++ [data], progress := .announced }
      { writers with progress := .announced, posted := writers.posted ++ [.mark] } where
  progress := rfl
  held := shown.held
  letters := shown.letters
  parser := by
    have parser := shown.parser
    rw [if_neg (by rw [switched]; decide)] at parser
    exact parser
  written := by
    rw [Posting.messages_append, shown.written]
    exact List.append_nil _
  serves := shown.serves
  channel := by
    obtain ⟨consumed, pending, posted, carried, confirmed, handled⟩ := shown.channel
    refine ⟨consumed, pending ++ [.mark], ?_, ?_, confirmed, handled⟩
    · rw [posted, List.append_assoc]
    · exact List.rel_append carried (.cons carries .nil)

/-- The server reads the next frame. -/
theorem shown_read {data : Bytes} {rest : List Bytes}
    (shown : Shown setting config profile state writers) (next : state.channel = data :: rest) :
    Shown setting config profile
      { state with
        channel := rest
        info := (setting.readNegotiated state.info data).1
        handled := state.handled ++ (setting.readNegotiated state.info data).2.toList }
      writers := by
  obtain ⟨consumed, pending, posted, carried, confirmed, handled⟩ := shown.channel
  rw [next] at carried
  cases carried with
  | @cons posting _ pending _ carries carried =>
      have split : writers.posted = (consumed ++ [posting]) ++ pending := by
        rw [posted, List.append_assoc]
        rfl
      rw [carries state.info shown.serves]
      cases posting with
      | mark =>
          refine { shown with
            serves := ⟨shown.serves.completed, shown.serves.encryption, shown.serves.cachedParser⟩
            channel := ⟨_, pending, split, carried, ?_, ?_⟩ }
          · simp [Posting.isMark]
          · rw [Posting.taken_append, handled]
            rfl
      | message encoding frame =>
          refine { shown with channel := ⟨_, pending, split, carried, ?_, ?_⟩ }
          · simp [Posting.isMark, confirmed]
          · rw [Posting.taken_append, handled, Bool.false_or, ← confirmed]
            simp only [Posting.taken]
            split_ifs <;> rfl

omit [RustText] in
/-- A letter from before the switch is one in the old encoding. -/
theorem encoding_eq_old_iff (letter : Letter) : letter.encoding = .old ↔ letter.early = true := by
  unfold Letter.encoding
  split_ifs with early
  · exact iff_of_true rfl early
  · exact iff_of_false (fun old => by cases old) early

/-- The system is one of writers that switch. -/
theorem shows_switching (clientBuiltin : client.Builtin libraries)
    (sending : profile.Builtin client libraries)
    (builtin : setting.registries.Builtin libraries)
    (covered : profile.Builtin setting.registries libraries) (refusesGzip : libraries.RefusesGzip)
    (agreed : config.parserAfterAck config.initialParser ack = profile.parser) :
    Switching.Shows (system setting client config ack) (Shown setting config profile)
      (Permitted setting libraries client profile) Late where
  step := by
    intro before after move writers shown permitted stepped
    cases move with
    | encode frame nonce =>
        obtain rfl := Option.some.inj stepped
        obtain still | encoded := shown_encode clientBuiltin sending builtin covered refusesGzip
          agreed shown permitted
        · exact .inl ⟨still, id⟩
        · exact .inr ⟨.encode frame, _, rfl, encoded, Iff.rfl⟩
    | write index =>
        obtain ⟨letter, isHeld, rfl⟩ := Option.map_eq_some_iff.mp stepped
        obtain ⟨same, written⟩ := shown_write shown isHeld
        refine .inr ⟨.post index, _, ?_, written, ?_⟩
        · rw [Switching.step, same]
          rfl
        · simp only [Late, Switching.Late, shown.progress, isHeld, same, Option.any_some,
            Option.some.injEq, Prod.mk.injEq, encoding_eq_old_iff, exists_and_left, exists_eq',
            and_true]
    | acknowledge =>
        obtain ⟨early, switched⟩ := Option.ite_none_right_eq_some.mp stepped
        obtain rfl := Option.some.inj switched
        refine .inr ⟨.switch, _, ?_, shown_acknowledge agreed shown early, Iff.rfl⟩
        exact if_pos (shown.progress.trans early)
    | ready stamp nonce =>
        obtain ⟨switched, written⟩ := Option.ite_none_right_eq_some.mp stepped
        rw [serialize_preNegotiation clientBuiltin] at written
        obtain rfl := Option.some.inj written
        have carries : Carries setting config profile .mark
            (utf8 (ClientState.negotiationReadyFrame stamp).json) := by
          intro info _
          exact readNegotiated_ready builtin permitted.1 permitted.2
        refine .inr ⟨.announce, _, ?_, shown_ready shown switched carries, Iff.rfl⟩
        exact if_pos (shown.progress.trans switched)
    | read =>
        unfold system step at stepped
        dsimp only at stepped
        split at stepped
        · cases stepped
        · next data rest next =>
            obtain rfl := Option.some.inj stepped
            exact .inl ⟨shown_read shown next, id⟩

end Runs

/-- **The server goes on with frames that were written, in order and at most once, and with all of
them exactly if none is late, unless the client forces its profile or the profile neither
compresses nor encrypts.**  This holds for every interleaving of the senders, the handling of
CONNECT_ACK and the server. -/
theorem handled_iff [RustText] (setting : Setting) (libraries : Libraries) (client : Registries)
    (config : ClientConfig) (profile : Profile) (ack : Frame) (info : ConnectionInfo)
    (clientBuiltin : client.Builtin libraries) (sending : profile.Builtin client libraries)
    (builtin : setting.registries.Builtin libraries)
    (covered : profile.Builtin setting.registries libraries) (refusesGzip : libraries.RefusesGzip)
    (agreed : config.parserAfterAck config.initialParser ack = profile.parser)
    (serves : info.Serves profile) (unconfirmed : info.negotiationConfirmed = false)
    (moves : List Move) (finish : Upstream)
    (permitted : (system setting client config ack).Permits
      (Permitted setting libraries client profile) (initial config info) moves)
    (evaluated : (system setting client config ack).run (initial config info) moves =
      some finish) :
    finish.handled.Sublist finish.written ∧
      (finish.channel = [] → (finish.handled = finish.written ↔
        config.isForceFormat = true ∨ ¬Separates profile ∨
          (system setting client config ack).Permits (fun state move => ¬Late state move)
            (initial config info) moves)) := by
  have described := shows_switching clientBuiltin sending builtin covered refusesGzip agreed
  obtain ⟨writers, shown, -, fresh⟩ := described.run (shown_initial serves unconfirmed)
    Switching.marked_initial permitted evaluated
  obtain ⟨consumed, pending, posted, carried, -, handled⟩ := shown.channel
  have written := shown.written
  constructor
  · rw [handled, ← written, posted, Posting.messages_append]
    exact (Posting.taken_sublist _ _ consumed).trans (List.sublist_append_left _ _)
  · intro drained
    rw [drained] at carried
    obtain rfl := List.forall₂_nil_right_iff.mp carried
    rw [List.append_nil] at posted
    subst posted
    rw [handled, ← written, Posting.taken_eq_messages_iff, fresh, refuses, decide_eq_false_iff_not,
      not_and_or, Bool.not_eq_false, or_assoc]
    exact or_congr Iff.rfl (or_congr Iff.rfl (and_iff_right rfl))

/-! ## A frame that is late -/

section Latecomer

open scoped AsciiText

/-- JSON that is compressed with gzip. -/
def gzippedProfile : Profile :=
  ⟨.json, .gzip, .none⟩

def gzippedAck : Frame :=
  ServerCore.createConnectAckFrame gzipRegistries (stampOf "c") gzippedProfile []

/-- Libraries that know the frame that is sent and NEGOTIATION_READY. -/
def latecomerLibraries : Libraries :=
  knowingLibraries [idleFrame, ClientState.negotiationReadyFrame (stampOf "ready")]

def latecomerSetting : Setting :=
  { greetingSetting with registries := jsonFirst latecomerLibraries }

/-- The server's information about a connection after CONNECT_ACK. -/
def gzippedInfo : ConnectionInfo :=
  { ConnectionInfo.new "c" false 0 with
    serializationFormat := .json
    compression := .gzip
    negotiationCompleted := true
    cachedParser := some gzippedProfile.parser }

theorem sendable_idleFrame : Sendable latecomerSetting latecomerLibraries
    (jsonFirst latecomerLibraries) gzippedProfile .preNegotiation idleFrame 0 where
  inverts :=
    { frame_eq := by
        show latecomerLibraries.serdeFromSlice (utf8 idleFrame.json) = .ok idleFrame
        rw [latecomerLibraries, serdeFromSlice_knowingLibraries, decodeKnown,
          List.find?_cons_of_pos (by exact decide_eq_true rfl)]
      gzip := fun data packed compressed => by cases compressed
      aes := fun data ciphertext encrypted => by cases encrypted }
  text _ := readAsText_jsonFirst _ _
  expandable isGzip := by cases isGzip
  ordinary := rfl
  unnoticed encrypted := absurd rfl encrypted
  authentic encrypted := absurd rfl encrypted

theorem serdeFromSlice_ready :
    latecomerLibraries.serdeFromSlice
        (utf8 (ClientState.negotiationReadyFrame (stampOf "ready")).json) =
      .ok (ClientState.negotiationReadyFrame (stampOf "ready")) := by
  have distinct : utf8 idleFrame.json ≠
      utf8 (ClientState.negotiationReadyFrame (stampOf "ready")).json := by
    decide +kernel
  rw [latecomerLibraries, serdeFromSlice_knowingLibraries, decodeKnown,
    List.find?_cons_of_neg (by exact ne_true_of_eq_false (decide_eq_false distinct)),
    List.find?_cons_of_pos (by exact decide_eq_true rfl)]

/-- A frame is encoded before CONNECT_ACK is handled and written after NEGOTIATION_READY. -/
def latecomer : List Move :=
  [.encode idleFrame 0, .acknowledge, .ready (stampOf "ready") 0, .write 0, .read, .read]

/-- The server drops it. -/
theorem handled_iff_latecomer :
    ∃ finish, (system latecomerSetting (jsonFirst latecomerLibraries) (preferring .gzip)
        gzippedAck).run (initial (preferring .gzip) gzippedInfo) latecomer = some finish ∧
      finish.written.length = 1 ∧ finish.handled ≠ finish.written := by
  have evaluated : ((system latecomerSetting (jsonFirst latecomerLibraries) (preferring .gzip)
      gzippedAck).run (initial (preferring .gzip) gzippedInfo) latecomer).any (fun finish =>
        decide (finish.channel = [] ∧ finish.written.length = 1)) = true := by
    decide +kernel
  obtain ⟨finish, isFinish, result⟩ := (Option.any_eq_true _ _).mp evaluated
  obtain ⟨drained, written⟩ := of_decide_eq_true result
  have builtin := builtin_jsonFirst latecomerLibraries
  have covered : gzippedProfile.Builtin (jsonFirst latecomerLibraries) latecomerLibraries :=
    ⟨.inr rfl, .inl rfl⟩
  refine ⟨finish, isFinish, written, fun all => ?_⟩
  have lossless := ((handled_iff latecomerSetting latecomerLibraries
    (jsonFirst latecomerLibraries) (preferring .gzip) gzippedProfile gzippedAck gzippedInfo builtin
    covered builtin covered (refusesGzip_knowingLibraries _) (by decide +kernel) ⟨rfl, rfl, rfl⟩ rfl
    latecomer finish ⟨sendable_idleFrame, fun _ _ => ⟨trivial, fun _ _ =>
      ⟨⟨serdeFromSlice_ready, readAsText_jsonFirst _ _⟩, fun _ _ => ⟨trivial, fun _ _ => ⟨trivial, fun _ _ =>
        ⟨trivial, fun _ _ => trivial⟩⟩⟩⟩⟩⟩ isFinish).2 drained).mp all
  obtain forced | plain | onTime := lossless
  · cases forced
  · exact plain (.inl (by decide))
  · exact absurd onTime (by decide +kernel)

end Latecomer

end Upstream

end FlareCore.Client
