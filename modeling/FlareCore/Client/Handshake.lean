import FlareCore.Client.Agreement
import FlareCore.Server.Runtime
import FlareCore.Common.RoundTrip

/-!
# The handshake in bytes

CONNECT and CONNECT_ACK are read by a parser for plain JSON, which neither decrypts nor
decompresses.  A client that forces its profile sends CONNECT with the parser for what it
forces, though, and only the format is recognised from the data.  If it forces gzip, then the
server can read nothing, drops CONNECT, and the client waits for an acknowledgement that is
never sent; every other client is read.  The acknowledgement itself is always plain JSON.

`connected_iff` puts this together with what the two ends make of the profiles.
-/

namespace FlareCore.Client

open FlareCore.Common FlareCore.Foundations FlareCore.Server

set_option autoImplicit false

/-- `serialize_connect_frame`: a client that forces its profile uses its own parser. -/
def ClientConfig.serializeConnectFrame [RustText] (config : ClientConfig) (parser : MessageParser)
    (registries : Registries) (frame : Frame) : Result Wire :=
  if config.isForceFormat then parser.serialize registries frame
  else MessageParser.preNegotiation.serialize registries frame

/-- The JSON of a frame is not read as another frame by prost, if prost is asked first. -/
def ReadAsText (registries : Registries) (libraries : Libraries) (frame : Frame) : Prop :=
  registries.serializers.keys = ["protobuf", "json"] →
    ∀ other, libraries.prostDecode (utf8 frame.json) = .ok other → other = frame

/-! ## The parser before negotiation -/

section PreNegotiation

variable [RustText] {registries : Registries} {libraries : Libraries} {frame : Frame}

omit [RustText] in
/-- JSON is read as the frame it is of exactly if prost does not read it as another one. -/
theorem parseDecompressed_json_iff (builtin : registries.Builtin libraries)
    (decoded : libraries.serdeFromSlice (utf8 frame.json) = .ok frame) (parser : MessageParser)
    (allowFallback : Bool) :
    parser.parseDecompressedWithFallback registries (utf8 frame.json) allowFallback = .ok frame ↔
      ReadAsText registries libraries frame := by
  obtain ⟨read, first, same⟩ := exists_firstReading_json builtin decoded
  rw [parseDecompressed_of_firstReading first, Except.ok.injEq]
  exact same

/-- The parser before negotiation writes plain JSON. -/
theorem serialize_preNegotiation (builtin : registries.Builtin libraries) (frame : Frame) :
    MessageParser.preNegotiation.serialize registries frame = .ok fun _ => utf8 frame.json := by
  have found : MessageParser.preNegotiation.serializer registries .json =
      some libraries.jsonSerializer := builtin.lookup_serializer .json
  rw [MessageParser.serialize, MessageParser.serializeWithFormat,
    show MessageParser.preNegotiation.defaultFormat = .json from rfl, found]
  rfl

/-- The parser before negotiation takes the data as they are. -/
theorem parse_preNegotiation (registries : Registries) (data : Bytes) :
    MessageParser.preNegotiation.parse registries data =
      MessageParser.preNegotiation.parseDecompressedWithFallback registries data true :=
  rfl

theorem parse_preNegotiation_json_iff (builtin : registries.Builtin libraries)
    (decoded : libraries.serdeFromSlice (utf8 frame.json) = .ok frame) :
    MessageParser.preNegotiation.parse registries (utf8 frame.json) = .ok frame ↔
      ReadAsText registries libraries frame :=
  parseDecompressed_json_iff builtin decoded _ true

/-- Protobuf is read by the parser before negotiation as well. -/
theorem parse_preNegotiation_protobuf (builtin : registries.Builtin libraries)
    (decoded : libraries.prostDecode frame.protobuf = .ok frame) :
    MessageParser.preNegotiation.parse registries frame.protobuf = .ok frame := by
  rw [parse_preNegotiation]
  have read : (⟨.protobuf, .none, .none⟩ : Profile).parser.parseDecompressedWithFallback registries
      frame.protobuf true = .ok frame := parseDecompressed_protobuf builtin rfl decoded true
  cases first : registries.firstReading frame.protobuf with
  | some other =>
      rw [parseDecompressed_of_firstReading first] at read ⊢
      exact read
  | none =>
      rw [parseDecompressed_lenient_iff first] at read ⊢
      exact read

/-- What the parser before negotiation makes of the plain encodings of a frame. -/
theorem parse_preNegotiation_encoded_iff (builtin : registries.Builtin libraries)
    {format : SerializationFormat}
    (decoded : libraries.decode format (frame.encoded format) = .ok frame) :
    MessageParser.preNegotiation.parse registries (frame.encoded format) = .ok frame ↔
      (format = .json → ReadAsText registries libraries frame) := by
  cases format with
  | protobuf =>
      exact iff_of_true (parse_preNegotiation_protobuf builtin decoded) fun isJson => by cases isJson
  | json =>
      rw [forall_prop_of_true rfl]
      exact parse_preNegotiation_json_iff builtin decoded

end PreNegotiation

/-! ## CONNECT -/

section Connect

variable [RustText] {registries receiving : Registries} {libraries : Libraries} {frame : Frame}

omit [RustText] in
/-- An algorithm is gzip by its name; all others that are not registered pass the data on. -/
theorem getCompressor_eq (builtin : registries.Builtin libraries)
    (algorithm : CompressionAlgorithm) :
    registries.getCompressor algorithm =
      if algorithm.asStr = "gzip" then libraries.gzipCompressor else .passThrough := by
  have found : ∀ name, registries.compressors.lookup name =
      if name = "gzip" then some libraries.gzipCompressor
      else if name = "none" then some .passThrough else none := by
    intro name
    have entries : registries.compressors.entries.dlookup name =
        if name = "gzip" then some libraries.gzipCompressor
        else if name = "none" then some .passThrough else none := by
      obtain order | order := List.perm_pair.mp builtin.compressors
      · rw [order]
        by_cases none : name = "none"
        · subst none
          rfl
        · rw [List.dlookup_cons_ne _ ⟨"none", _⟩ none, if_neg none]
          by_cases gzip : name = "gzip"
          · subst gzip
            rfl
          · rw [List.dlookup_cons_ne _ ⟨"gzip", _⟩ gzip, if_neg gzip, List.dlookup_nil]
      · rw [order]
        by_cases gzip : name = "gzip"
        · subst gzip
          rfl
        · rw [List.dlookup_cons_ne _ ⟨"gzip", _⟩ gzip, if_neg gzip]
          by_cases none : name = "none"
          · subst none
            rfl
          · rw [List.dlookup_cons_ne _ ⟨"none", _⟩ none, if_neg none, List.dlookup_nil]
    exact entries
  rw [Registries.getCompressor, found]
  split_ifs <;> rfl

/-- What a parser without encryption writes is the encoding, packed if gzip is configured. -/
theorem serialize_unencrypted (builtin : registries.Builtin libraries)
    {format : SerializationFormat} {compression : CompressionAlgorithm} {wire : Wire}
    (serialized : (MessageParser.new format compression .none).serialize registries frame =
      .ok wire) :
    ∃ packed, wire = (fun _ => packed) ∧
      if compression.asStr = "gzip" then libraries.gzEncode (frame.encoded format) = .ok packed
      else packed = frame.encoded format := by
  obtain ⟨packed, isPacked, encrypted⟩ := MessageParser.packed_of_serializeWithFormat serialized
  have found : (MessageParser.new format compression .none).serializer registries format =
      some (libraries.serializer format) := builtin.lookup_serializer format
  have plain : (libraries.serializer format).serialize frame = .ok (frame.encoded format) := by
    cases format <;> rfl
  refine ⟨packed, (Except.ok.inj encrypted).symm, ?_⟩
  rw [show (MessageParser.new format compression .none).defaultFormat = format from rfl,
    show (MessageParser.new format compression .none).defaultCompression = compression from rfl,
    MessageParser.pack, found] at isPacked
  dsimp only [Bind.bind, Except.bind] at isPacked
  rw [plain] at isPacked
  dsimp only at isPacked
  by_cases none : compression = .none
  · rw [if_pos none] at isPacked
    subst none
    rw [if_neg (by decide)]
    exact (Except.ok.inj isPacked).symm
  · rw [if_neg none, getCompressor_eq builtin] at isPacked
    split_ifs at isPacked ⊢ with isGzip
    · rw [libraries.gzipCompressor_compress] at isPacked
      cases compressed : libraries.gzEncode (frame.encoded format) with
      | error error =>
          rw [compressed] at isPacked
          cases isPacked
      | ok bytes =>
          rw [compressed] at isPacked
          exact congrArg _ (Except.ok.inj isPacked)
    · exact (Except.ok.inj isPacked).symm

/-- A client that forces gzip. -/
def ClientConfig.ForcesGzip (config : ClientConfig) : Prop :=
  config.isForceFormat = true ∧ config.getCompression.asStr = "gzip"

/-- What a client sends as CONNECT is the encoding in its initial format, packed if it forces
gzip. -/
theorem serializeConnectFrame_eq_ok {config : ClientConfig}
    (builtin : registries.Builtin libraries) {wire : Wire}
    (serialized : config.serializeConnectFrame config.initialParser registries frame = .ok wire) :
    ∃ packed, wire = (fun _ => packed) ∧
      (config.ForcesGzip → libraries.gzEncode
        (frame.encoded config.initialParser.defaultFormat) = .ok packed) ∧
      (¬config.ForcesGzip → packed = frame.encoded config.initialParser.defaultFormat) := by
  unfold ClientConfig.serializeConnectFrame at serialized
  by_cases forced : config.isForceFormat = true
  · have isInitial : config.initialParser =
        .new config.getSerializationFormat config.getCompression .none := if_pos forced
    rw [if_pos forced, isInitial] at serialized
    rw [isInitial]
    obtain ⟨packed, rfl, isPacked⟩ := serialize_unencrypted builtin serialized
    refine ⟨packed, rfl, fun forces => ?_, fun spares => ?_⟩
    · rw [if_pos forces.2] at isPacked
      exact isPacked
    · rw [if_neg fun isGzip => spares ⟨forced, isGzip⟩] at isPacked
      exact isPacked
  · have isInitial : config.initialParser = .preNegotiation := if_neg forced
    rw [if_neg forced, serialize_preNegotiation builtin] at serialized
    rw [isInitial]
    exact ⟨_, (Except.ok.inj serialized).symm, fun forces => absurd forces.1 forced, fun _ => rfl⟩

/-- The server reads CONNECT exactly if the client does not force gzip, and a JSON text is read
as what it is. -/
theorem parse_connect_iff {config : ClientConfig} (sending : registries.Builtin libraries)
    (builtin : receiving.Builtin libraries) (refuses : libraries.RefusesGzip)
    (inverts : libraries.Inverts config.initialParser.defaultFormat frame) {wire : Wire}
    (serialized : config.serializeConnectFrame config.initialParser registries frame = .ok wire)
    (nonce : Nonce) :
    MessageParser.preNegotiation.parse receiving (wire nonce) = .ok frame ↔
      ¬config.ForcesGzip ∧ (config.initialParser.defaultFormat = .json →
        ReadAsText receiving libraries frame) := by
  obtain ⟨packed, rfl, gzip, plain⟩ := serializeConnectFrame_eq_ok sending serialized
  by_cases forces : config.ForcesGzip
  · have magic := (inverts.gzip _ packed (gzip forces)).1
    refine iff_of_false ?_ fun both => both.1 forces
    exact parseDecompressed_of_magic builtin refuses magic frame
  · rw [plain forces, and_iff_right forces]
    exact parse_preNegotiation_encoded_iff builtin inverts.frame_eq

end Connect

/-! ## The handshake -/

section Handshake

variable [Hashing] [RustText]

omit [Hashing] [RustText] in
theorem isConnect_connectFrame (config : ClientConfig) (registries : Registries) (stamp : Stamp) :
    isSystemMessage .connect (config.connectFrame registries stamp) = true := by
  simp [isSystemMessage, ClientConfig.connectFrame, systemCommand, Frame.withSystemCommand,
    Frame.withCommand, Frame.commandType, SystemCommand.connect, SystemCommand.withMessage]

omit [Hashing] in
/-- The server goes on with CONNECT exactly if it has read it. -/
theorem handlePreNegotiationMessage_eq_connecting_iff (setting : Setting) (data : Bytes)
    (received : Option Bool) {frame : Frame} (isConnect : isSystemMessage .connect frame = true) :
    World.handlePreNegotiationMessage setting data received = .connecting frame ↔
      setting.parsePreNegotiation data = .ok frame := by
  unfold World.handlePreNegotiationMessage
  cases setting.parsePreNegotiation data with
  | error error => exact iff_of_false (fun same => by cases same) fun same => by cases same
  | ok read =>
      dsimp only
      rw [Except.ok.injEq]
      constructor
      · intro same
        split_ifs at same
        exact Consumer.connecting.inj same
      · rintro rfl
        rw [if_pos isConnect]

/-- CONNECT is read by the server, CONNECT_ACK by the client, and then the two ends agree. -/
def Connected (setting : Setting) (client : Registries) (config : ClientConfig) (connect : Wire)
    (frame ack : Frame) (manager : ConnectionManager) (connectionId : String) (selected : Profile)
    (now : Instant) : Prop :=
  (∀ nonce received, World.handlePreNegotiationMessage setting (connect nonce) received =
      .connecting frame) ∧
    (∃ wire, setting.serializePreNegotiation ack = .ok wire ∧
      ∀ nonce, MessageParser.preNegotiation.parse client (wire nonce) = .ok ack) ∧
    ProfilesAgree setting.core config ack manager connectionId selected now

/-- **The bytes of the handshake lead to one profile at both ends exactly if the client does not
force gzip, JSON is read as JSON, and what is asked for can be announced and is what a client
that forces its profile forces.** -/
theorem connected_iff (setting : Setting) (client : Registries) (libraries : Libraries)
    (clientBuiltin : client.Builtin libraries)
    (serverBuiltin : setting.registries.Builtin libraries) (refuses : libraries.RefusesGzip)
    (config : ClientConfig) (stamp : Stamp) (wire : Wire)
    (serialized : config.serializeConnectFrame config.initialParser client
      (config.connectFrame client stamp) = .ok wire)
    (inverts : libraries.Inverts config.initialParser.defaultFormat
      (config.connectFrame client stamp))
    (stamps : String → Stamp) (state state' : ServerState) (ack : Frame) (parser : MessageParser)
    (connectionId : String) (now later : Instant)
    (present : (state.manager.connections.get connectionId).isSome)
    (accepted : state.handleConnectMessage setting.registries setting.core stamps
      (config.connectFrame client stamp) connectionId now = (state', .ok (ack, parser)))
    (invertsAck : libraries.Inverts .json ack) :
    Connected setting client config wire (config.connectFrame client stamp) ack state'.manager
        connectionId parser.profile later ↔
      ¬config.ForcesGzip ∧
        (config.initialParser.defaultFormat = .json →
          ReadAsText setting.registries libraries (config.connectFrame client stamp)) ∧
        ReadAsText client libraries ack ∧
        RequestAnnounceable setting.registries setting.core
          (parseConnectMessage (config.connectFrame client stamp)) ∧
        (config.isForceFormat = true → ForcedProfileMet setting.core
          (parseConnectMessage (config.connectFrame client stamp)) config) := by
  have readConnect : (∀ nonce received, World.handlePreNegotiationMessage setting (wire nonce)
        received = .connecting (config.connectFrame client stamp)) ↔
      ¬config.ForcesGzip ∧ (config.initialParser.defaultFormat = .json →
        ReadAsText setting.registries libraries (config.connectFrame client stamp)) := by
    simp only [handlePreNegotiationMessage_eq_connecting_iff setting _ _
      (isConnect_connectFrame config client stamp), Setting.parsePreNegotiation,
      parse_connect_iff clientBuiltin serverBuiltin refuses inverts serialized]
    exact ⟨fun always => always 0 none, fun both _ _ => both⟩
  have readAck : (∃ wire, setting.serializePreNegotiation ack = .ok wire ∧
        ∀ nonce, MessageParser.preNegotiation.parse client (wire nonce) = .ok ack) ↔
      ReadAsText client libraries ack := by
    rw [Setting.serializePreNegotiation, serialize_preNegotiation serverBuiltin]
    simp only [Except.ok.injEq, exists_eq_left',
      parse_preNegotiation_json_iff clientBuiltin invertsAck.frame_eq]
    exact ⟨fun always => always 0, fun read _ => read⟩
  rw [Connected, readConnect, readAck, profilesAgree_iff_announced present accepted,
    announcedProfile_determined_iff, determined_eq_forced_iff, and_assoc]

end Handshake

/-! ## A handshake -/

section Greeting

open scoped SingleShard AsciiText

/-- The built-in codecs, JSON first. -/
def jsonFirst (libraries : Libraries) : Registries where
  serializers := ((∅ : StringMap Serializer).insert "protobuf" libraries.protobufSerializer).insert
    "json" libraries.jsonSerializer
  compressors := ((∅ : StringMap Compressor).insert "gzip" libraries.gzipCompressor).insert
    "none" .passThrough
  encryptors := ∅

theorem builtin_jsonFirst (libraries : Libraries) : (jsonFirst libraries).Builtin libraries where
  serializers := .swap _ _ _
  compressors := .refl _

/-- If JSON is asked first, then JSON is read as JSON. -/
theorem readAsText_jsonFirst (libraries : Libraries) (frame : Frame) :
    ReadAsText (jsonFirst libraries) libraries frame := by
  intro order
  have keys : (jsonFirst libraries).serializers.keys = ["json", "protobuf"] := rfl
  exact absurd (keys.symm.trans order) (by decide)

/-- What the client says. -/
def greeting : Frame :=
  (preferring .none).connectFrame (jsonFirst (knowingLibraries [])) (stampOf "client")

/-- What the server answers. -/
def greetingAck : Frame :=
  ServerCore.createConnectAckFrame gzipRegistries (stampOf "c") ⟨.protobuf, .none, .none⟩ []

/-- Libraries that know these two frames. -/
def greetingLibraries : Libraries :=
  knowingLibraries [greeting, greetingAck]

theorem inverts_greeting : greetingLibraries.Inverts .json greeting where
  frame_eq := by
    rw [Libraries.decode, greetingLibraries, serdeFromSlice_knowingLibraries, decodeKnown,
      List.find?_cons_of_pos (by exact decide_eq_true rfl)]
  gzip data packed compressed := by cases compressed
  aes data ciphertext encrypted := by cases encrypted

theorem inverts_greetingAck : greetingLibraries.Inverts .json greetingAck where
  frame_eq := by
    have distinct : utf8 greeting.json ≠ utf8 greetingAck.json := by decide +kernel
    rw [Libraries.decode, greetingLibraries, serdeFromSlice_knowingLibraries, decodeKnown,
      List.find?_cons_of_neg (by exact ne_true_of_eq_false (decide_eq_false distinct)),
      List.find?_cons_of_pos (by exact decide_eq_true rfl)]
  gzip data packed compressed := by cases compressed
  aes data ciphertext encrypted := by cases encrypted

/-- A server with these codecs and nothing else. -/
def greetingSetting : Setting where
  registries := jsonFirst greetingLibraries
  core := plainCore
  maxConnections := 8
  stamps := fun number => ⟨toString number, 0⟩
  enumeration := .given CodecProfile
  encodeProtobuf := Frame.protobuf

/-- A client that prefers no compression is read, and so is the answer. -/
theorem connected_iff_greeting :
    ∃ state' : ServerState, Connected greetingSetting (jsonFirst greetingLibraries) (preferring .none)
      (fun _ => utf8 greeting.json) greeting greetingAck state'.manager "c"
      ⟨.protobuf, .none, .none⟩ 0 := by
  have accepted : greeted.handleConnectMessage (jsonFirst greetingLibraries) plainCore stampOf
      ((preferring .none).connectFrame (jsonFirst greetingLibraries) (stampOf "client")) "c" 0 =
        (_, .ok (_, _)) := rfl
  refine ⟨_, (connected_iff greetingSetting (jsonFirst greetingLibraries) greetingLibraries
    (builtin_jsonFirst _) (builtin_jsonFirst _) (refusesGzip_knowingLibraries _)
    (preferring .none) (stampOf "client") _ rfl inverts_greeting stampOf greeted _ _ _ "c" 0 0
    (by decide +kernel) accepted inverts_greetingAck).mpr ⟨?_, ?_, ?_, ⟨?_, ?_⟩, ?_⟩⟩
  · exact fun forces => by cases forces.1
  · exact fun _ => readAsText_jsonFirst _ _
  · exact readAsText_jsonFirst _ _
  · decide +kernel
  · decide +kernel
  · exact fun forced => by cases forced

end Greeting

end FlareCore.Client
