import FlareCore.Common.Libraries

/-!
# Encoding a frame and parsing it again

A message parser encrypts what it has compressed, and compresses what it has serialized.  Parsing
undoes the three steps, but by looking at the data: whether something is compressed, and which
serializer it is from, is recognised, and the configured format is not asked first.  Protobuf has
no mark of its own, so its serializer takes everything that is not empty for its own and lets
decoding decide.  A JSON text can be well-formed protobuf, namely a sequence of fields with
numbers that no frame has, and decoding skips these.  If protobuf is asked first, such a frame
comes back as the frame without any fields.

`round_trip_iff` says when a frame comes back as it was.
-/

namespace FlareCore.Common

set_option autoImplicit false

/-! ## What the serializers recognise -/

/-- A varint below 128 is one byte. -/
theorem varint_of_lt {value : Nat} (small : value < 128) : varint value = [UInt8.ofNat value] := by
  rw [varint, varintWithin, if_pos small]

theorem head_protobufDelimited {tag : Nat} (small : tag < 15) (bytes : Bytes) :
    (protobufDelimited tag bytes).head? = some (UInt8.ofNat (8 * tag + 2)) := by
  rw [protobufDelimited, varint_of_lt (by omega)]
  rfl

theorem head_protobufBytes {tag : Nat} (small : tag < 15) (bytes : Bytes) :
    ∀ byte ∈ (protobufBytes tag bytes).head?, byte = UInt8.ofNat (8 * tag + 2) := by
  unfold protobufBytes
  split_ifs
  · exact fun byte member => absurd member (Option.not_mem_none byte)
  · rw [head_protobufDelimited small]
    exact fun byte member => (Option.some.inj member).symm

theorem head_protobufVarint {tag : Nat} (small : tag < 16) (value : Nat) :
    ∀ byte ∈ (protobufVarint tag value).head?, byte = UInt8.ofNat (8 * tag) := by
  unfold protobufVarint
  split_ifs
  · exact fun byte member => absurd member (Option.not_mem_none byte)
  · rw [varint_of_lt (by omega)]
    exact fun byte member => (Option.some.inj member).symm

theorem head_protobufMetadata {tag : Nat} (small : tag < 15) (metadata : StringMap Bytes) :
    ∀ byte ∈ (protobufMetadata tag metadata).head?, byte = UInt8.ofNat (8 * tag + 2) := by
  unfold protobufMetadata
  cases metadata.entries with
  | nil => exact fun byte member => absurd member (Option.not_mem_none byte)
  | cons entry entries =>
      rw [List.flatMap_cons, List.head?_append, head_protobufDelimited small, Option.some_or]
      exact fun byte member => (Option.some.inj member).symm

/-- The encoding of a frame starts with the number of one of its fields, if at all. -/
theorem head_protobuf (frame : Frame) :
    ∀ byte ∈ frame.protobuf.head?, byte ∈ [0x0A, 0x12, 0x18, 0x20, 0x2A] := by
  intro byte member
  have command : ∀ byte ∈ (frame.command.elim [] fun command =>
      protobufDelimited 1 command.protobuf).head?, byte = UInt8.ofNat (8 * 1 + 2) := by
    cases frame.command with
    | none => exact fun byte member => absurd member (Option.not_mem_none byte)
    | some command =>
        rw [Option.elim_some, head_protobufDelimited (by decide)]
        exact fun byte member => (Option.some.inj member).symm
  simp only [Frame.protobuf, List.head?_append, Option.mem_def, Option.or_eq_some_iff] at member
  obtain (((first | ⟨-, second⟩) | ⟨-, third⟩) | ⟨-, fourth⟩) | ⟨-, fifth⟩ := member
  · rw [command byte first]
    decide
  · rw [head_protobufBytes (by decide) _ byte second]
    decide
  · rw [head_protobufVarint (by decide) _ byte third]
    decide
  · rw [head_protobufVarint (by decide) _ byte fourth]
    decide
  · rw [head_protobufMetadata (by decide) _ byte fifth]
    decide

variable {libraries : Libraries}

/-- Nothing that prost writes is taken for JSON. -/
theorem json_canDetect_protobuf (frame : Frame) :
    libraries.jsonSerializer.canDetect frame.protobuf = false := by
  have absent : ∀ byte, byte ∉ [(0x0A : UInt8), 0x12, 0x18, 0x20, 0x2A] →
      frame.protobuf.head? ≠ some byte :=
    fun byte missing isHead => missing (head_protobuf frame byte isHead)
  exact Bool.or_eq_false_iff.mpr ⟨decide_eq_false (absent 0x7B (by decide)),
    decide_eq_false (absent 0x5B (by decide))⟩

/-- A JSON text is taken for JSON and for protobuf. -/
theorem canDetect_json (frame : Frame) :
    libraries.jsonSerializer.canDetect (utf8 frame.json) = true ∧
      libraries.protobufSerializer.canDetect (utf8 frame.json) = true := by
  have head := head_utf8_json frame
  refine ⟨by simp [Libraries.jsonSerializer, head], ?_⟩
  cases isText : utf8 frame.json with
  | nil =>
      rw [isText] at head
      cases head
  | cons byte bytes => rfl

/-! ## Undoing encryption and compression -/

section Pipeline

variable [RustText] {registries : Registries} {profile : Profile} {frame : Frame} {wire : Wire}

/-- What a frame is compressed to. -/
def Packed (libraries : Libraries) (profile : Profile) (data packed : Bytes) : Prop :=
  profile.compression = .none ∧ packed = data ∨
    profile.compression = .gzip ∧ libraries.gzEncode data = .ok packed

omit [RustText] in
/-- A ciphertext stands behind its nonce. -/
theorem aesEncryptor_encrypt_eq_ok {data : Bytes}
    (encrypted : libraries.aesEncryptor.encrypt data = .ok wire) :
    ∃ ciphertext, libraries.aesEncrypt data = .ok ciphertext ∧
      wire = fun nonce => nonceBytes nonce ++ ciphertext (nonceBytes nonce) := by
  unfold Libraries.aesEncryptor at encrypted
  dsimp only at encrypted
  cases sealed : libraries.aesEncrypt data with
  | error error =>
      rw [sealed] at encrypted
      cases encrypted
  | ok ciphertext =>
      rw [sealed] at encrypted
      exact ⟨ciphertext, rfl, (Except.ok.inj encrypted).symm⟩

omit [RustText] in
theorem aesEncryptor_inverts (aes : ∀ data ciphertext, libraries.aesEncrypt data = .ok ciphertext →
      ∀ nonce, libraries.aesDecrypt nonce (ciphertext nonce) = .ok data)
    {data : Bytes} (encrypted : libraries.aesEncryptor.encrypt data = .ok wire) (nonce : Nonce) :
    libraries.aesEncryptor.decrypt (wire nonce) = .ok data := by
  obtain ⟨ciphertext, sealed, rfl⟩ := aesEncryptor_encrypt_eq_ok encrypted
  have twelve := length_nonceBytes nonce
  have long : ¬(nonceBytes nonce ++ ciphertext (nonceBytes nonce)).length < 12 := by
    rw [List.length_append]
    omega
  unfold Libraries.aesEncryptor
  dsimp only
  rw [if_neg long, ← twelve, List.take_left, List.drop_left,
    aes data ciphertext sealed (nonceBytes nonce)]
  rfl

omit [RustText] in
theorem aesEncryptor_ne_nil {data : Bytes}
    (encrypted : libraries.aesEncryptor.encrypt data = .ok wire) (nonce : Nonce) :
    wire nonce ≠ [] := by
  obtain ⟨ciphertext, -, rfl⟩ := aesEncryptor_encrypt_eq_ok encrypted
  exact fun isEmpty => by cases (List.append_eq_nil_iff.mp isEmpty).1

/-- Decryption gives back what the other end has encrypted, strictly or not. -/
theorem decrypt_of_encryptData {sender : Registries} (sending : profile.Builtin sender libraries)
    (covered : profile.Builtin registries libraries)
    (inverts : libraries.Inverts profile.format frame) {packed : Bytes}
    (encrypted : MessageParser.encryptData sender packed profile.encryption = .ok wire)
    (nonce : Nonce) (allowFallback : Bool) :
    profile.parser.decryptDataWithFallback registries (wire nonce) allowFallback = .ok packed := by
  have configured : profile.parser.defaultEncryption = profile.encryption := rfl
  unfold MessageParser.encryptData at encrypted
  unfold MessageParser.decryptDataWithFallback
  rw [configured]
  by_cases none : profile.encryption = .none
  · rw [if_pos none] at encrypted
    rw [if_pos none, ← Except.ok.inj encrypted]
  · rw [if_neg none, sending.lookup_encryptor none] at encrypted
    rw [if_neg none, covered.lookup_encryptor none]
    dsimp only
    rw [aesEncryptor_inverts inverts.aes encrypted nonce]

/-- What is encrypted is the compressed form of the encoded frame. -/
theorem packed_of_serialize (builtin : registries.Builtin libraries)
    (covered : profile.Builtin registries libraries)
    (serialized : profile.parser.serialize registries frame = .ok wire) :
    ∃ packed, Packed libraries profile (frame.encoded profile.format) packed ∧
      MessageParser.encryptData registries packed profile.encryption = .ok wire := by
  have found : profile.parser.serializer registries profile.parser.defaultFormat =
      some (libraries.serializer profile.format) := builtin.lookup_serializer profile.format
  have plain : (libraries.serializer profile.format).serialize frame =
      .ok (frame.encoded profile.format) := by
    cases profile.format <;> rfl
  obtain ⟨packed, isPacked, encrypted⟩ := MessageParser.packed_of_serializeWithFormat serialized
  refine ⟨packed, ?_, encrypted⟩
  have configured : profile.parser.defaultCompression = profile.compression := rfl
  rw [MessageParser.pack, found, configured] at isPacked
  dsimp only [Bind.bind, Except.bind] at isPacked
  rw [plain] at isPacked
  dsimp only at isPacked
  obtain none | isGzip := covered.compression
  · rw [if_pos none] at isPacked
    exact .inl ⟨none, (Except.ok.inj isPacked).symm⟩
  · rw [isGzip, if_neg (by decide), builtin.getCompressor_gzip,
      libraries.gzipCompressor_compress] at isPacked
    cases compressed : libraries.gzEncode (frame.encoded profile.format) with
    | error error =>
        rw [compressed] at isPacked
        cases isPacked
    | ok bytes =>
        rw [compressed] at isPacked
        exact .inr ⟨isGzip, compressed.trans (congrArg _ (Except.ok.inj isPacked))⟩

omit [RustText] in
/-- Gzip undoes its own work up to the limit. -/
theorem gzip_decompress (inverts : libraries.Inverts profile.format frame) {data packed : Bytes}
    (compressed : libraries.gzEncode data = .ok packed) :
    libraries.gzipCompressor.decompress packed =
      if data.length ≤ maxGzipDecompressedLen then .ok data
      else .error (.encodingError ("Gzip decompressed payload exceeds limit (" ++
        toString maxGzipDecompressedLen ++ " bytes)")) := by
  have taken := (inverts.gzip data packed compressed).2 (maxGzipDecompressedLen + 1)
  rw [Libraries.gzipCompressor]
  dsimp only
  rw [taken]
  dsimp only
  rw [List.length_take]
  split_ifs with large small small
  · omega
  · rfl
  · rw [List.take_of_length_le (by omega)]
  · omega

/-- What gzip has compressed is expanded up to the limit.  Beyond it the strict mode fails, and the
lenient one goes on with the compressed data. -/
theorem decompress_of_gzip (builtin : registries.Builtin libraries)
    (inverts : libraries.Inverts profile.format frame) (isGzip : profile.compression = .gzip)
    {data packed : Bytes} (compressed : libraries.gzEncode data = .ok packed)
    (allowFallback : Bool) :
    (data.length ≤ maxGzipDecompressedLen →
      profile.parser.decompressDataWithFallback registries packed allowFallback = .ok data) ∧
    (maxGzipDecompressedLen < data.length → ∃ error,
      profile.parser.decompressDataWithFallback registries packed allowFallback =
        if allowFallback then .ok packed else .error error) := by
  have configured : profile.parser.defaultCompression = .gzip := isGzip
  unfold MessageParser.decompressDataWithFallback
  rw [configured, if_neg (by decide),
    builtin.autoDecompress_of_magic (inverts.gzip data packed compressed).1,
    gzip_decompress inverts compressed]
  constructor
  · intro small
    rw [if_pos small]
    rfl
  · intro large
    rw [if_neg (Nat.not_le.mpr large)]
    exact ⟨_, rfl⟩

/-- Decompression gives back the encoded frame, strictly or not, if gzip stays within its
limit. -/
theorem decompress_of_packed (builtin : registries.Builtin libraries)
    (inverts : libraries.Inverts profile.format frame) {packed : Bytes}
    (isPacked : Packed libraries profile (frame.encoded profile.format) packed)
    (small : profile.compression = .gzip →
      (frame.encoded profile.format).length ≤ maxGzipDecompressedLen) (allowFallback : Bool) :
    profile.parser.decompressDataWithFallback registries packed allowFallback =
      .ok (frame.encoded profile.format) := by
  obtain ⟨none, rfl⟩ | ⟨isGzip, compressed⟩ := isPacked
  · unfold MessageParser.decompressDataWithFallback
    rw [if_pos (show profile.parser.defaultCompression = .none from none)]
  · exact (decompress_of_gzip builtin inverts isGzip compressed allowFallback).1 (small isGzip)

/-- Parsing what another end has serialized comes down to what the serializers make of the
encoded frame. -/
theorem parse_of_serialize {sender : Registries} (sendingBuiltin : sender.Builtin libraries)
    (sending : profile.Builtin sender libraries) (builtin : registries.Builtin libraries)
    (covered : profile.Builtin registries libraries)
    (inverts : libraries.Inverts profile.format frame)
    (serialized : profile.parser.serialize sender frame = .ok wire)
    (small : profile.compression = .gzip →
      (frame.encoded profile.format).length ≤ maxGzipDecompressedLen)
    (nonce : Nonce) (allowFallback : Bool) :
    profile.parser.parseWithFallback registries (wire nonce) allowFallback =
      profile.parser.parseDecompressedWithFallback registries (frame.encoded profile.format)
        allowFallback := by
  obtain ⟨packed, isPacked, encrypted⟩ := packed_of_serialize sendingBuiltin sending serialized
  rw [MessageParser.parseWithFallback,
    decrypt_of_encryptData sending covered inverts encrypted nonce allowFallback]
  show (do
    let decompressed ← profile.parser.decompressDataWithFallback registries packed allowFallback
    profile.parser.parseDecompressedWithFallback registries decompressed allowFallback) = _
  rw [decompress_of_packed builtin inverts isPacked small allowFallback]
  rfl

/-! ## Deserialization -/

/-- The first serializer that recognises the data and can read it. -/
def Registries.firstReading (registries : Registries) (data : Bytes) : Option Frame :=
  ((registries.serializers.entries.map Sigma.snd).filter (·.canDetect data)).findSome?
    fun serializer => (serializer.deserialize data).toOption

omit [RustText] in
theorem parseDecompressed_of_firstReading {parser : MessageParser} {data : Bytes} {read : Frame}
    (first : registries.firstReading data = some read) (allowFallback : Bool) :
    parser.parseDecompressedWithFallback registries data allowFallback = .ok read := by
  unfold Registries.firstReading at first
  rw [MessageParser.parseDecompressedWithFallback, first]

/-- What protobuf, else JSON, makes of the data. -/
def Registries.fallbackReading (registries : Registries) (data : Bytes) : Option Frame :=
  [SerializationFormat.protobuf, .json].findSome? fun format =>
    (registries.getSerializer format).bind fun serializer =>
      (serializer.deserialize data).toOption

omit [RustText] in
/-- Data that no serializer recognises and can read are left to the fallback by the lenient
mode. -/
theorem parseDecompressed_lenient_iff {parser : MessageParser} {data : Bytes} {read : Frame}
    (unread : registries.firstReading data = none) :
    parser.parseDecompressedWithFallback registries data true = .ok read ↔
      registries.fallbackReading data = some read := by
  unfold Registries.firstReading at unread
  rw [MessageParser.parseDecompressedWithFallback, unread]
  dsimp only
  rw [if_pos rfl, MessageParser.tryAllSerializers, Registries.fallbackReading]
  split
  · next frame found => rw [found, Except.ok.injEq, Option.some.injEq]
  · next missing =>
      rw [missing]
      exact iff_of_false (fun failed => by cases failed) fun failed => by cases failed

omit [RustText] in
/-- The strict mode leaves them to the configured serializer. -/
theorem parseDecompressed_strict_iff {parser : MessageParser} {serializer : Serializer}
    {data : Bytes} {read : Frame} (unread : registries.firstReading data = none)
    (configured : parser.serializer registries parser.defaultFormat = some serializer) :
    parser.parseDecompressedWithFallback registries data false = .ok read ↔
      serializer.deserialize data = .ok read := by
  unfold Registries.firstReading at unread
  rw [MessageParser.parseDecompressedWithFallback, unread]
  dsimp only
  rw [if_neg (by decide), configured]
  dsimp only
  split
  · next frame found => rw [found]
  · next error failed =>
      rw [failed]
      exact iff_of_false (fun read => by cases read) fun read => by cases read

omit [RustText] in
theorem findSome_filter_pair {α β : Type} (keep : α → Bool) (read : α → Option β) (a b : α) :
    ([a, b].filter keep).findSome? read =
      (if keep a then read a else none).or (if keep b then read b else none) := by
  simp only [List.filter_cons, List.filter_nil]
  split_ifs <;> simp only [List.findSome?_cons, List.findSome?_nil] <;> cases read a <;>
    cases read b <;> rfl

omit [RustText] in
theorem toOption_deserialize (format : SerializationFormat) (data : Bytes) :
    ((libraries.serializer format).deserialize data).toOption =
      (libraries.decode format data).toOption := by
  cases format with
  | protobuf =>
      show ((libraries.prostDecode data).mapError _).toOption =
        (libraries.prostDecode data).toOption
      cases libraries.prostDecode data <;> rfl
  | json =>
      show ((libraries.serdeFromSlice data).mapError _).toOption =
        (libraries.serdeFromSlice data).toOption
      cases libraries.serdeFromSlice data <;> rfl

omit [RustText] in
/-- What the data are taken for, when the serializers are asked in the order of the registry. -/
theorem firstReading_eq (builtin : registries.Builtin libraries) (data : Bytes) :
    registries.firstReading data =
      let protobuf := if libraries.protobufSerializer.canDetect data then
        (libraries.prostDecode data).toOption else none
      let json := if libraries.jsonSerializer.canDetect data then
        (libraries.serdeFromSlice data).toOption else none
      if registries.serializers.keys = ["protobuf", "json"] then protobuf.or json
      else json.or protobuf := by
  have prost := @toOption_deserialize libraries .protobuf data
  have serde := @toOption_deserialize libraries .json data
  unfold Registries.firstReading
  obtain ⟨order, keys⟩ | ⟨order, keys⟩ := builtin.serializers_eq
  · rw [order, keys, if_pos rfl, findSome_filter_pair]
    exact congrArg₂ Option.or (congrArg (ite _ · none) prost) (congrArg (ite _ · none) serde)
  · rw [order, keys, if_neg (by decide), findSome_filter_pair]
    exact congrArg₂ Option.or (congrArg (ite _ · none) serde) (congrArg (ite _ · none) prost)

omit [RustText] in
/-- A frame in protobuf is read by prost and by nothing else; one without fields is empty, and
then the configured format or the fallback is used. -/
theorem parseDecompressed_protobuf (builtin : registries.Builtin libraries)
    (isProtobuf : profile.format = .protobuf)
    (decoded : libraries.prostDecode frame.protobuf = .ok frame) (allowFallback : Bool) :
    profile.parser.parseDecompressedWithFallback registries frame.protobuf allowFallback =
      .ok frame := by
  have first := firstReading_eq builtin frame.protobuf
  rw [json_canDetect_protobuf, decoded] at first
  cases detected : libraries.protobufSerializer.canDetect frame.protobuf with
  | true =>
      refine parseDecompressed_of_firstReading ?_ allowFallback
      rw [first, detected]
      exact ite_self _
  | false =>
      rw [detected] at first
      have unread : registries.firstReading frame.protobuf = none := first.trans (ite_self _)
      have own := libraries.deserialize_of_decode (show libraries.decode .protobuf frame.protobuf =
        .ok frame from decoded)
      have found : profile.parser.serializer registries profile.parser.defaultFormat =
          some (libraries.serializer .protobuf) :=
        isProtobuf ▸ builtin.lookup_serializer profile.format
      cases allowFallback with
      | false => exact (parseDecompressed_strict_iff unread found).mpr own
      | true =>
          refine (parseDecompressed_lenient_iff unread).mpr ?_
          rw [Registries.fallbackReading, List.findSome?_cons,
            builtin.lookup_serializer, Option.bind_some, own]
          rfl

omit [RustText] in
/-- A frame in JSON is read by serde, unless prost is asked first and can read it. -/
theorem firstReading_json (builtin : registries.Builtin libraries)
    (decoded : libraries.serdeFromSlice (utf8 frame.json) = .ok frame) :
    registries.firstReading (utf8 frame.json) =
      if registries.serializers.keys = ["protobuf", "json"] then
        (libraries.prostDecode (utf8 frame.json)).toOption.or (some frame)
      else some frame := by
  obtain ⟨json, protobuf⟩ := @canDetect_json libraries frame
  rw [firstReading_eq builtin, json, protobuf, decoded]
  rfl

omit [RustText] in
/-- A frame in JSON is read as some frame, and when that is this one. -/
theorem exists_firstReading_json (builtin : registries.Builtin libraries)
    (decoded : libraries.serdeFromSlice (utf8 frame.json) = .ok frame) :
    ∃ read, registries.firstReading (utf8 frame.json) = some read ∧
      (read = frame ↔ (registries.serializers.keys = ["protobuf", "json"] →
        ∀ other, libraries.prostDecode (utf8 frame.json) = .ok other → other = frame)) := by
  rw [firstReading_json builtin decoded]
  by_cases order : registries.serializers.keys = ["protobuf", "json"]
  · rw [if_pos order]
    cases libraries.prostDecode (utf8 frame.json) with
    | error error => exact ⟨frame, rfl, by simp⟩
    | ok other => exact ⟨other, rfl, by simp [order]⟩
  · rw [if_neg order]
    exact ⟨frame, rfl, by simp [order]⟩

omit [RustText] in
/-- The encoding of a frame is read as some frame, if not as this one. -/
theorem parseDecompressed_encoded (builtin : registries.Builtin libraries)
    (decoded : libraries.decode profile.format (frame.encoded profile.format) = .ok frame)
    (allowFallback : Bool) :
    ∃ read, profile.parser.parseDecompressedWithFallback registries
      (frame.encoded profile.format) allowFallback = .ok read := by
  cases isFormat : profile.format with
  | protobuf =>
      rw [isFormat] at decoded
      exact ⟨frame, parseDecompressed_protobuf builtin isFormat decoded allowFallback⟩
  | json =>
      rw [isFormat] at decoded
      obtain ⟨read, first, -⟩ := exists_firstReading_json builtin decoded
      exact ⟨read, parseDecompressed_of_firstReading first allowFallback⟩

omit [RustText] in
/-- What gzip has compressed is read by nothing. -/
theorem parseDecompressed_of_magic (builtin : registries.Builtin libraries)
    (refuses : libraries.RefusesGzip) {parser : MessageParser} {data : Bytes}
    (magic : data.take 2 = [0x1F, 0x8B]) (read : Frame) :
    parser.parseDecompressedWithFallback registries data true ≠ .ok read := by
  obtain ⟨prostError, prost⟩ := refuses.prost data magic
  obtain ⟨serdeError, serde⟩ := refuses.serde data magic
  have unread : registries.firstReading data = none := by
    rw [firstReading_eq builtin, prost, serde]
    simp [Except.toOption]
  rw [ne_eq, parseDecompressed_lenient_iff unread, Registries.fallbackReading]
  simp only [List.findSome?_cons, List.findSome?_nil, builtin.lookup_serializer, Option.bind_some,
    toOption_deserialize, Libraries.decode, prost, serde]
  exact fun found => by cases found

/-- **A frame of at most 16 MiB comes back from parsing as it was, in both modes, exactly if it is
not a JSON text that prost is asked about first and reads as another frame.** -/
theorem round_trip_iff (builtin : registries.Builtin libraries)
    (covered : profile.Builtin registries libraries)
    (inverts : libraries.Inverts profile.format frame)
    (small : (frame.encoded profile.format).length ≤ 16 * 1024 * 1024)
    (serialized : profile.parser.serialize registries frame = .ok wire) :
    (∀ nonce, profile.parser.parse registries (wire nonce) = .ok frame ∧
      profile.parser.parseWithFallback registries (wire nonce) false = .ok frame) ↔
    (profile.format = .json → registries.serializers.keys = ["protobuf", "json"] →
      ∀ other, libraries.prostDecode (utf8 frame.json) = .ok other → other = frame) := by
  have parsed := parse_of_serialize builtin covered builtin covered inverts serialized
    fun _ => small
  have decoded := inverts.frame_eq
  simp only [MessageParser.parse, parsed]
  cases isFormat : profile.format with
  | protobuf =>
      rw [isFormat] at decoded
      refine iff_of_true (fun _ => ⟨?_, ?_⟩) fun isJson => by cases isJson
      · exact parseDecompressed_protobuf builtin isFormat decoded true
      · exact parseDecompressed_protobuf builtin isFormat decoded false
  | json =>
      rw [isFormat] at decoded
      obtain ⟨read, first, same_iff⟩ := exists_firstReading_json builtin decoded
      have reads : ∀ allowFallback, profile.parser.parseDecompressedWithFallback registries
          (utf8 frame.json) allowFallback = .ok read :=
        parseDecompressed_of_firstReading first
      constructor
      · intro both _
        rw [← same_iff]
        exact Except.ok.inj ((reads true).symm.trans (both 0).1)
      · intro unclaimed _
        obtain rfl := same_iff.mpr (unclaimed rfl)
        exact ⟨reads true, reads false⟩

end Pipeline

/-! ## Fields that no frame has -/

/-- A number in groups of seven bits, lowest first, in at most so many bytes. -/
def readVarint : Nat → Bytes → Option (Nat × Bytes)
  | 0, _ => none
  | _ + 1, [] => none
  | more + 1, byte :: bytes =>
      if byte.toNat < 128 then some (byte.toNat, bytes)
      else (readVarint more bytes).map fun (value, rest) =>
        (byte.toNat - 128 + 128 * value, rest)

/-- `decode_varint`: ten bytes at most, and 64 bits. -/
def decodeVarint (data : Bytes) : Option (Nat × Bytes) :=
  (readVarint 10 data).filter fun (value, _) => value < 2 ^ 64

/-- `decode_key`: the number of a field, its wire type, and what follows. -/
def readKey (data : Bytes) : Option (Nat × Nat × Bytes) :=
  (decodeVarint data).bind fun (key, rest) =>
    if key < 2 ^ 32 ∧ key % 8 ≤ 5 ∧ 1 ≤ key / 8 then some (key / 8, key % 8, rest) else none

def skipBytes (count : Nat) (data : Bytes) : Option Bytes :=
  if count ≤ data.length then some (data.drop count) else none

/-- The fields of a group, up to the end that carries its number. -/
def skipGroup (skipInner : Nat → Nat → Bytes → Option Bytes) (tag : Nat) :
    Nat → Bytes → Option Bytes
  | 0, _ => none
  | fields + 1, data =>
      (readKey data).bind fun (inner, wireType, rest) =>
        if wireType = 4 then (if inner = tag then some rest else none)
        else (skipInner inner wireType rest).bind (skipGroup skipInner tag fields)

/-- `skip_field`, for groups within groups up to a depth. -/
def skipField : Nat → Nat → Nat → Bytes → Option Bytes
  | 0, _, _, _ => none
  | depth + 1, tag, wireType, data =>
      match wireType with
      | 0 => (decodeVarint data).map Prod.snd
      | 1 => skipBytes 8 data
      | 2 => (decodeVarint data).bind fun (length, rest) => skipBytes length rest
      | 3 => skipGroup (skipField depth) tag data.length data
      | 5 => skipBytes 4 data
      | _ => none

/-- The data are fields whose numbers a frame does not have, and nothing else. -/
def onlyUnknownFields : Nat → Bytes → Bool
  | _, [] => true
  | 0, _ :: _ => false
  | fields + 1, data =>
      match readKey data with
      | none => false
      | some (tag, wireType, rest) =>
          if tag ≤ 5 then false
          else
            match skipField 100 tag wireType rest with
            | none => false
            | some rest => onlyUnknownFields fields rest

/-- The frame without any fields. -/
def Frame.blank : Frame where
  command := none
  messageId := ""
  reliability := 0
  timestamp := 0
  metadata := ∅

theorem varint_ne_nil (value : Nat) : varint value ≠ [] := by
  unfold varint varintWithin
  split_ifs <;> exact List.cons_ne_nil _ _

theorem protobufDelimited_ne_nil (tag : Nat) (bytes : Bytes) :
    protobufDelimited tag bytes ≠ [] := by
  intro isEmpty
  exact varint_ne_nil _ (List.append_eq_nil_iff.mp (List.append_eq_nil_iff.mp isEmpty).1).1

theorem protobufBytes_eq_nil_iff {tag : Nat} {bytes : Bytes} :
    protobufBytes tag bytes = [] ↔ bytes = [] := by
  unfold protobufBytes
  split_ifs with isEmpty
  · exact iff_of_true rfl isEmpty
  · exact iff_of_false (protobufDelimited_ne_nil tag bytes) isEmpty

theorem protobufVarint_eq_nil_iff {tag value : Nat} :
    protobufVarint tag value = [] ↔ value = 0 := by
  unfold protobufVarint
  split_ifs with isZero
  · exact iff_of_true rfl isZero
  · refine iff_of_false (fun isEmpty => ?_) isZero
    exact varint_ne_nil _ (List.append_eq_nil_iff.mp isEmpty).1

theorem protobufMetadata_eq_nil_iff {tag : Nat} {metadata : StringMap Bytes} :
    protobufMetadata tag metadata = [] ↔ metadata = ∅ := by
  unfold protobufMetadata
  rw [List.flatMap_eq_nil_iff]
  constructor
  · intro none
    refine AList.ext (List.eq_nil_iff_forall_not_mem.mpr fun entry member => ?_)
    exact protobufDelimited_ne_nil _ _ (none entry member)
  · rintro rfl entry member
    cases member

theorem utf8_eq_nil_iff {text : String} : utf8 text = [] ↔ text = "" := by
  constructor
  · intro isEmpty
    have same := fromUtf8_utf8 text
    rw [isEmpty] at same
    exact (Option.some.inj same).symm
  · rintro rfl
    rfl

theorem protobufInt32_eq_nil_iff {tag : Nat} {value : Int32} :
    protobufInt32 tag value = [] ↔ value = 0 := by
  rw [protobufInt32, protobufVarint_eq_nil_iff]
  constructor
  · intro isZero
    have unsigned : value.toInt64.toUInt64 = 0 := UInt64.toNat_inj.mp isZero
    have extended : value.toInt64 = 0 := congrArg UInt64.toInt64 unsigned
    have same : value.toInt = (0 : Int32).toInt := by
      rw [← Int32.toInt_toInt64, extended]
      rfl
    exact Int32.toInt_inj.mp same
  · rintro rfl
    rfl

/-- A frame has no bytes in protobuf exactly if it has no fields. -/
theorem protobuf_eq_nil_iff (frame : Frame) : frame.protobuf = [] ↔ frame = .blank := by
  constructor
  · intro isEmpty
    unfold Frame.protobuf at isEmpty
    simp only [List.append_eq_nil_iff] at isEmpty
    obtain ⟨⟨⟨⟨command, messageId⟩, reliability⟩, timestamp⟩, metadata⟩ := isEmpty
    have noCommand : frame.command = none := by
      cases present : frame.command with
      | none => rfl
      | some inner =>
          rw [present] at command
          exact absurd command (protobufDelimited_ne_nil 1 inner.protobuf)
    have noId : frame.messageId = "" := utf8_eq_nil_iff.mp (protobufBytes_eq_nil_iff.mp messageId)
    have noTimestamp : frame.timestamp = 0 :=
      UInt64.toNat_inj.mp (protobufVarint_eq_nil_iff.mp timestamp)
    obtain ⟨_, _, _, _, _⟩ := frame
    rw [Frame.blank, Frame.mk.injEq]
    exact ⟨noCommand, noId, protobufInt32_eq_nil_iff.mp reliability, noTimestamp,
      protobufMetadata_eq_nil_iff.mp metadata⟩
  · rintro rfl
    rfl

/-- Finds the frame behind an encoding among the frames that may be met. -/
def decodeKnown (encode : Frame → Bytes) (known : List Frame) (message : String) (data : Bytes) :
    Except String Frame :=
  match known.find? fun frame => encode frame = data with
  | some frame => .ok frame
  | none => .error message

theorem decodeKnown_self (encode : Frame → Bytes) (frame : Frame) (message : String) :
    decodeKnown encode [frame] message (encode frame) = .ok frame := by
  have found : [frame].find? (fun known => encode known = encode frame) = some frame :=
    List.find?_cons_of_pos (decide_eq_true rfl)
  rw [decodeKnown, found]

/-- Libraries for concrete runs: the decoders know the frames that may be met, prost skips
fields that a frame does not have, and nothing is compressed or encrypted. -/
def knowingLibraries (known : List Frame) : Libraries where
  prostDecode data :=
    if onlyUnknownFields data.length data then .ok .blank
    else decodeKnown Frame.protobuf known "failed to decode Protobuf message" data
  serdeFromSlice :=
    decodeKnown (fun frame => utf8 frame.json) known "expected value at line 1 column 1"
  gzEncode _ := .error "unavailable"
  gzDecodeTake _ _ := .error "unavailable"
  aesEncrypt _ := .error "unavailable"
  aesDecrypt _ _ := .error "unavailable"

/-- A JSON text that starts with a group of fields with the number 15, and goes on with a field
of the same number that holds the rest. -/
def disguisedFrame : Frame :=
  { Frame.blank with messageId := String.ofList (List.replicate 72 'a') ++ "|z." }

/-- A frame of which nothing but the message id is set. -/
def idleFrame : Frame :=
  { Frame.blank with messageId := "idle" }

theorem serdeFromSlice_knowingLibraries (known : List Frame) :
    (knowingLibraries known).serdeFromSlice =
      decodeKnown (fun frame => utf8 frame.json) known "expected value at line 1 column 1" :=
  rfl

/-- The first byte is the key of a field that a frame has, or no key at all. -/
theorem onlyUnknownFields_of_head {fields : Nat} {byte : UInt8} {bytes : Bytes}
    (isKey : byte ∈ [(0x0A : UInt8), 0x12, 0x18, 0x20, 0x2A, 0x1F]) :
    onlyUnknownFields fields (byte :: bytes) = false := by
  cases fields with
  | zero => rfl
  | succ fields =>
      simp only [List.mem_cons, List.not_mem_nil, or_false] at isKey
      obtain rfl | rfl | rfl | rfl | rfl | rfl := isKey <;> rfl

theorem prostDecode_of_head {known : List Frame} {byte : UInt8} {bytes : Bytes}
    (isKey : byte ∈ [(0x0A : UInt8), 0x12, 0x18, 0x20, 0x2A, 0x1F]) :
    (knowingLibraries known).prostDecode (byte :: bytes) =
      decodeKnown Frame.protobuf known "failed to decode Protobuf message" (byte :: bytes) := by
  rw [knowingLibraries]
  dsimp only
  rw [onlyUnknownFields_of_head isKey]
  rfl

theorem prostDecode_knowingLibraries (frame : Frame) :
    (knowingLibraries [frame]).prostDecode frame.protobuf = .ok frame := by
  cases encoded : frame.protobuf with
  | nil =>
      rw [(protobuf_eq_nil_iff frame).mp encoded]
      rfl
  | cons byte bytes =>
      have isKey := head_protobuf frame byte (by rw [encoded]; rfl)
      rw [prostDecode_of_head (List.mem_append_left [0x1F] isKey), ← encoded]
      exact decodeKnown_self Frame.protobuf frame _

theorem inverts_knowingLibraries (format : SerializationFormat) (frame : Frame) :
    (knowingLibraries [frame]).Inverts format frame where
  frame_eq := by
    cases format with
    | protobuf => exact prostDecode_knowingLibraries frame
    | json =>
        rw [Libraries.decode, serdeFromSlice_knowingLibraries]
        exact decodeKnown_self (fun frame => utf8 frame.json) frame _
  gzip data packed compressed := by
    rw [knowingLibraries] at compressed
    cases compressed
  aes data ciphertext encrypted := by
    rw [knowingLibraries] at encrypted
    cases encrypted

theorem decodeKnown_eq_error {encode : Frame → Bytes} {known : List Frame} {message : String}
    {data : Bytes} (unknown : ∀ frame ∈ known, encode frame ≠ data) :
    decodeKnown encode known message data = .error message := by
  have missing : known.find? (fun frame => encode frame = data) = none := by
    rw [List.find?_eq_none]
    intro frame member same
    exact unknown frame member (of_decide_eq_true same)
  rw [decodeKnown, missing]

theorem eq_cons_of_magic {data : Bytes} (magic : data.take 2 = [0x1F, 0x8B]) :
    ∃ bytes, data = 0x1F :: bytes := by
  cases data with
  | nil => cases magic
  | cons byte bytes =>
      rw [List.take_succ_cons, List.cons.injEq] at magic
      exact ⟨bytes, congrArg (· :: bytes) magic.1⟩

theorem refusesGzip_knowingLibraries (known : List Frame) :
    (knowingLibraries known).RefusesGzip where
  prost data magic := by
    obtain ⟨bytes, rfl⟩ := eq_cons_of_magic magic
    refine ⟨_, (prostDecode_of_head (by decide)).trans (decodeKnown_eq_error ?_)⟩
    intro frame _ same
    have isKey := head_protobuf frame 0x1F (by rw [same]; rfl)
    exact absurd isKey (by decide)
  serde data magic := by
    obtain ⟨bytes, rfl⟩ := eq_cons_of_magic magic
    rw [serdeFromSlice_knowingLibraries]
    refine ⟨_, decodeKnown_eq_error fun frame _ same => ?_⟩
    have head := head_utf8_json frame
    rw [same] at head
    exact absurd (Option.some.inj head) (by decide)

theorem prostDecode_of_onlyUnknownFields {data : Bytes} (known : List Frame)
    (unknown : onlyUnknownFields data.length data = true) :
    (knowingLibraries known).prostDecode data = .ok .blank := by
  rw [knowingLibraries]
  exact if_pos unknown

/-- The built-in codecs, protobuf first. -/
def protobufFirst (libraries : Libraries) : Registries where
  serializers := ((∅ : StringMap Serializer).insert "json" libraries.jsonSerializer).insert
    "protobuf" libraries.protobufSerializer
  compressors := ((∅ : StringMap Compressor).insert "gzip" libraries.gzipCompressor).insert
    "none" .passThrough
  encryptors := (∅ : StringMap Encryptor).insert "none" .passThrough

theorem builtin_protobufFirst (libraries : Libraries) :
    (protobufFirst libraries).Builtin libraries where
  serializers := .refl _
  compressors := .refl _

def jsonProfile : Profile :=
  ⟨.json, .none, .none⟩

theorem covered_jsonProfile (registries : Registries) (libraries : Libraries) :
    jsonProfile.Builtin registries libraries where
  compression := .inl rfl
  encryption := .inl rfl

section Disguise

open scoped AsciiText

/-- A JSON text that is not protobuf comes back, although prost is asked first. -/
theorem round_trip_iff_idle :
    ∃ wire, jsonProfile.parser.serialize (protobufFirst (knowingLibraries [idleFrame])) idleFrame =
        .ok wire ∧
      ∀ nonce, jsonProfile.parser.parse (protobufFirst (knowingLibraries [idleFrame]))
          (wire nonce) = .ok idleFrame ∧
        jsonProfile.parser.parseWithFallback (protobufFirst (knowingLibraries [idleFrame]))
          (wire nonce) false = .ok idleFrame := by
  refine ⟨fun _ => utf8 idleFrame.json, rfl, (round_trip_iff (builtin_protobufFirst _)
    (covered_jsonProfile _ _) (inverts_knowingLibraries .json idleFrame) (by decide +kernel)
    rfl).mpr ?_⟩
  intro _ _ other decoded
  have refused : ((knowingLibraries [idleFrame]).prostDecode (utf8 idleFrame.json)).isOk =
      false := by
    decide +kernel
  rw [decoded] at refused
  cases refused

/-- **A frame in JSON whose text is well-formed protobuf comes back as the frame without any
fields if prost is asked first.** -/
theorem json_read_as_protobuf :
    (protobufFirst (knowingLibraries [disguisedFrame])).Builtin
        (knowingLibraries [disguisedFrame]) ∧
      (knowingLibraries [disguisedFrame]).Inverts .json disguisedFrame ∧
      (disguisedFrame.encoded .json).length ≤ 16 * 1024 * 1024 ∧
      ∃ wire, jsonProfile.parser.serialize (protobufFirst (knowingLibraries [disguisedFrame]))
          disguisedFrame = .ok wire ∧
        ¬∀ nonce, jsonProfile.parser.parse (protobufFirst (knowingLibraries [disguisedFrame]))
            (wire nonce) = .ok disguisedFrame ∧
          jsonProfile.parser.parseWithFallback
            (protobufFirst (knowingLibraries [disguisedFrame])) (wire nonce) false =
              .ok disguisedFrame := by
  have inverts := inverts_knowingLibraries .json disguisedFrame
  have builtin := builtin_protobufFirst (knowingLibraries [disguisedFrame])
  have serialized : jsonProfile.parser.serialize
      (protobufFirst (knowingLibraries [disguisedFrame])) disguisedFrame =
        .ok fun _ => utf8 disguisedFrame.json := rfl
  refine ⟨builtin, inverts, by decide +kernel, _, serialized, fun both => ?_⟩
  have unknown : onlyUnknownFields (utf8 disguisedFrame.json).length (utf8 disguisedFrame.json) =
      true := by
    decide +kernel
  have decoded := prostDecode_of_onlyUnknownFields [disguisedFrame] unknown
  have order : (protobufFirst (knowingLibraries [disguisedFrame])).serializers.keys =
      ["protobuf", "json"] := rfl
  have first : (protobufFirst (knowingLibraries [disguisedFrame])).firstReading
      (utf8 disguisedFrame.json) = some .blank := by
    rw [firstReading_json builtin inverts.frame_eq, decoded, if_pos order]
    rfl
  have covered := covered_jsonProfile (protobufFirst (knowingLibraries [disguisedFrame]))
    (knowingLibraries [disguisedFrame])
  have parsed := parse_of_serialize builtin covered builtin covered inverts serialized
    (fun isGzip => by cases isGzip) 0 false
  have read := parsed.symm.trans (both 0).2
  have text : disguisedFrame.encoded jsonProfile.format = utf8 disguisedFrame.json := rfl
  rw [text, parseDecompressed_of_firstReading first] at read
  have same : Frame.blank.messageId = disguisedFrame.messageId :=
    congrArg Frame.messageId (Except.ok.inj read)
  exact absurd same (by decide)

end Disguise

end FlareCore.Common
