import FlareCore.Common.RoundTrip

/-!
# Codecs of the application

An application may register a serializer, a compressor and an encryptor of its own and configure
a parser with their names.  Encoding goes by the names.  Decoding goes by the name for the
encryptor only: the compressor is the first one that recognises the data, and the serializers
that recognise the result are tried in the order of the registry before the configured one is
asked, which the lenient mode never does.

That a codec undoes its own work is therefore not enough.  By default a codec recognises nothing,
and then its data are taken for uncompressed, or left to protobuf and JSON.
`custom_round_trip_iff` says what it takes.
-/

namespace FlareCore.Common

set_option autoImplicit false

/-- `with_custom_format`; the format is a placeholder. -/
def MessageParser.withCustomFormat (formatName : String) (compression : CompressionAlgorithm)
    (encryption : EncryptionAlgorithm) : MessageParser :=
  ⟨.json, compression, encryption, some formatName⟩

/-- A serializer, a compressor and an encryptor with the names they are registered under. -/
structure CustomCodecs where
  formatName : String
  serializer : Serializer
  compressionName : String
  compressor : Compressor
  encryptionName : String
  encryptor : Encryptor

namespace CustomCodecs

variable (codecs : CustomCodecs)

/-- The parser that is configured with the codecs. -/
def parser : MessageParser :=
  .withCustomFormat codecs.formatName (.custom codecs.compressionName)
    (.custom codecs.encryptionName)

/-- Each codec undoes its own work. -/
structure Inverts : Prop where
  serializer : ∀ frame data, codecs.serializer.serialize frame = .ok data →
    codecs.serializer.deserialize data = .ok frame
  compressor : ∀ data packed, codecs.compressor.compress data = .ok packed →
    codecs.compressor.decompress packed = .ok data
  encryptor : ∀ data wire, codecs.encryptor.encrypt data = .ok wire →
    ∀ nonce, codecs.encryptor.decrypt (wire nonce) = .ok data

/-- The codecs are in the registries under their names. -/
structure Registered (registries : Registries) : Prop where
  serializer : registries.serializers.lookup codecs.formatName = some codecs.serializer
  compressor : registries.compressors.lookup codecs.compressionName = some codecs.compressor
  encryptor : registries.encryptors.lookup codecs.encryptionName = some codecs.encryptor

end CustomCodecs

/-- The compressor that data are taken to be from. -/
def Registries.detectedCompressor (registries : Registries) (data : Bytes) : Option Compressor :=
  (registries.compressors.entries.map Sigma.snd).find? (·.canDetect data)

/-- The compressed form is recognised: the first compressor that takes it for its own expands it,
and does not count as no compression. -/
def Registries.Expands (registries : Registries) (packed data : Bytes) : Prop :=
  ∃ compressor, registries.detectedCompressor packed = some compressor ∧
    compressor.algorithm ≠ .none ∧ compressor.decompress packed = .ok data

/-- The frame is recognised: it is what the first serializer reads that takes the data for its
own and can read them, or there is none, and both the given serializer and the fallback to
protobuf and JSON read it. -/
def Registries.Reads (registries : Registries) (serializer : Serializer) (data : Bytes)
    (frame : Frame) : Prop :=
  registries.firstReading data = some frame ∨
    registries.firstReading data = none ∧ serializer.deserialize data = .ok frame ∧
      registries.fallbackReading data = some frame

section Parsing

variable [RustText] {registries : Registries} {codecs : CustomCodecs} {frame : Frame}
  {data packed : Bytes} {wire : Wire} {parser : MessageParser}

/-- What is recognised is expanded in both modes, if compression is configured at all. -/
theorem decompress_of_expands (compresses : parser.defaultCompression ≠ .none)
    (expands : registries.Expands packed data) (allowFallback : Bool) :
    parser.decompressDataWithFallback registries packed allowFallback = .ok data := by
  obtain ⟨compressor, detected, counts, expanded⟩ := expands
  have auto : registries.autoDecompress packed = .ok (data, compressor.algorithm) := by
    unfold Registries.detectedCompressor at detected
    rw [Registries.autoDecompress, detected]
    dsimp only
    rw [expanded]
    rfl
  unfold MessageParser.decompressDataWithFallback
  rw [if_neg compresses, auto]
  exact if_pos counts

/-- The strict mode expands nothing else. -/
theorem expands_of_decompress (compresses : parser.defaultCompression ≠ .none)
    (decompressed : parser.decompressDataWithFallback registries packed false = .ok data) :
    registries.Expands packed data := by
  unfold MessageParser.decompressDataWithFallback at decompressed
  rw [if_neg compresses, Registries.autoDecompress,
    ← Registries.detectedCompressor] at decompressed
  cases detected : registries.detectedCompressor packed with
  | none =>
      rw [detected] at decompressed
      cases decompressed
  | some compressor =>
      rw [detected] at decompressed
      dsimp only [Bind.bind, Except.bind] at decompressed
      cases expanded : compressor.decompress packed with
      | error error =>
          rw [expanded] at decompressed
          cases decompressed
      | ok result =>
          rw [expanded] at decompressed
          dsimp only [Pure.pure, Except.pure] at decompressed
          by_cases counts : compressor.algorithm ≠ .none
          · rw [if_pos counts] at decompressed
            obtain rfl := Except.ok.inj decompressed
            exact ⟨compressor, detected, counts, expanded⟩
          · rw [if_neg counts] at decompressed
            cases decompressed

namespace CustomCodecs

omit [RustText] in
theorem defaultCompression_ne_none (codecs : CustomCodecs) :
    codecs.parser.defaultCompression ≠ .none := by
  intro same
  cases same

omit [RustText] in
theorem defaultEncryption_ne_none (codecs : CustomCodecs) :
    codecs.parser.defaultEncryption ≠ .none := by
  intro same
  cases same

/-- Encoding goes by the names. -/
theorem serialize_eq (registered : codecs.Registered registries)
    (plain : codecs.serializer.serialize frame = .ok data)
    (compressed : codecs.compressor.compress data = .ok packed)
    (encrypted : codecs.encryptor.encrypt packed = .ok wire) :
    codecs.parser.serialize registries frame = .ok wire := by
  have found : codecs.parser.serializer registries codecs.parser.defaultFormat =
      some codecs.serializer := registered.serializer
  have compressor : registries.getCompressor codecs.parser.defaultCompression =
      codecs.compressor := by
    show (registries.compressors.lookup codecs.compressionName).getD .passThrough = _
    rw [registered.compressor, Option.getD_some]
  have encryption : MessageParser.encryptData registries packed
      codecs.parser.defaultEncryption = .ok wire := by
    have found : registries.encryptors.lookup codecs.parser.defaultEncryption.asStr =
        some codecs.encryptor := registered.encryptor
    unfold MessageParser.encryptData
    rw [if_neg (defaultEncryption_ne_none codecs), found]
    exact encrypted
  unfold MessageParser.serialize MessageParser.serializeWithFormat
  rw [found]
  dsimp only [Bind.bind, Except.bind]
  rw [plain]
  dsimp only
  rw [if_neg (defaultCompression_ne_none codecs), compressor, compressed]
  exact encryption

/-- Decryption goes by the name. -/
theorem decrypt_eq (registered : codecs.Registered registries)
    (inverts : codecs.Inverts) (encrypted : codecs.encryptor.encrypt packed = .ok wire)
    (nonce : Nonce) (allowFallback : Bool) :
    codecs.parser.decryptDataWithFallback registries (wire nonce) allowFallback = .ok packed := by
  have found : registries.encryptors.lookup codecs.parser.defaultEncryption.asStr =
      some codecs.encryptor := registered.encryptor
  unfold MessageParser.decryptDataWithFallback
  rw [if_neg (defaultEncryption_ne_none codecs), found]
  dsimp only
  rw [inverts.encryptor packed wire encrypted nonce]

/-- What is left of parsing after the decryption. -/
theorem parse_eq (registered : codecs.Registered registries)
    (inverts : codecs.Inverts) (encrypted : codecs.encryptor.encrypt packed = .ok wire)
    (nonce : Nonce) (allowFallback : Bool) :
    codecs.parser.parseWithFallback registries (wire nonce) allowFallback = (do
      let expanded ← codecs.parser.decompressDataWithFallback registries packed allowFallback
      codecs.parser.parseDecompressedWithFallback registries expanded allowFallback) := by
  rw [MessageParser.parseWithFallback, decrypt_eq registered inverts encrypted]
  rfl

omit [RustText] in
/-- Both modes read the frame exactly if it is recognised. -/
theorem parseDecompressed_iff (registered : codecs.Registered registries) :
    (∀ allowFallback, codecs.parser.parseDecompressedWithFallback registries data allowFallback =
      .ok frame) ↔ registries.Reads codecs.serializer data frame := by
  have configured : codecs.parser.serializer registries codecs.parser.defaultFormat =
      some codecs.serializer := registered.serializer
  unfold Registries.Reads
  cases first : registries.firstReading data with
  | some read =>
      constructor
      · intro both
        have parsed := @parseDecompressed_of_firstReading registries codecs.parser data read first
          true
        exact .inl (congrArg some (Except.ok.inj (parsed.symm.trans (both true))))
      · rintro (same | ⟨unread, -⟩)
        · exact parseDecompressed_of_firstReading (first.trans same)
        · cases unread
  | none =>
      have strict := @parseDecompressed_strict_iff registries codecs.parser codecs.serializer data
        frame first configured
      have lenient := @parseDecompressed_lenient_iff registries codecs.parser data frame first
      constructor
      · intro both
        exact .inr ⟨rfl, strict.mp (both false), lenient.mp (both true)⟩
      · rintro (same | ⟨-, own, fallback⟩)
        · cases same
        · intro allowFallback
          cases allowFallback with
          | false => exact strict.mpr own
          | true => exact lenient.mpr fallback

end CustomCodecs

/-- **A frame comes back from codecs of the application, in both modes, exactly if its compressed
form is recognised and what that expands to is recognised as the frame.** -/
theorem custom_round_trip_iff (registered : codecs.Registered registries)
    (inverts : codecs.Inverts) (plain : codecs.serializer.serialize frame = .ok data)
    (compressed : codecs.compressor.compress data = .ok packed)
    (encrypted : codecs.encryptor.encrypt packed = .ok wire) :
    codecs.parser.serialize registries frame = .ok wire ∧
      ((∀ nonce, codecs.parser.parse registries (wire nonce) = .ok frame ∧
          codecs.parser.parseWithFallback registries (wire nonce) false = .ok frame) ↔
        ∃ expanded, registries.Expands packed expanded ∧
          registries.Reads codecs.serializer expanded frame) := by
  refine ⟨CustomCodecs.serialize_eq registered plain compressed encrypted, ?_⟩
  constructor
  · intro both
    have lenient := (both 0).1
    have strict := (both 0).2
    rw [MessageParser.parse, CustomCodecs.parse_eq registered inverts encrypted] at lenient
    rw [CustomCodecs.parse_eq registered inverts encrypted] at strict
    cases decompressed : codecs.parser.decompressDataWithFallback registries packed false with
    | error error =>
        rw [decompressed] at strict
        cases strict
    | ok expanded =>
        have expands := expands_of_decompress codecs.defaultCompression_ne_none decompressed
        rw [decompress_of_expands codecs.defaultCompression_ne_none expands] at lenient strict
        refine ⟨expanded, expands, (CustomCodecs.parseDecompressed_iff registered).mp ?_⟩
        intro allowFallback
        cases allowFallback with
        | false => exact strict
        | true => exact lenient
  · rintro ⟨expanded, expands, reads⟩ nonce
    have parsed : ∀ allowFallback, codecs.parser.parseWithFallback registries (wire nonce)
        allowFallback = .ok frame := by
      intro allowFallback
      rw [CustomCodecs.parse_eq registered inverts encrypted,
        decompress_of_expands codecs.defaultCompression_ne_none expands]
      exact (CustomCodecs.parseDecompressed_iff registered).mpr reads allowFallback
    exact ⟨parsed true, parsed false⟩

end Parsing

/-! ## Codecs that put a mark in front -/

/-- The data behind a mark. -/
def unmark (mark : UInt8) : Bytes → Result Bytes
  | [] => .error (.encodingError "no mark")
  | byte :: data => if byte = mark then .ok data else .error (.encodingError "another mark")

/-- Codecs that put a mark in front of the data and remove it again.  Only the idle frame can be
serialized.  The serializer and the compressor recognise their marks, or recognise nothing, which
is the default of both traits. -/
def markingCodecs (recognises : Bool) : CustomCodecs where
  formatName := "marked"
  serializer :=
    { serialize := fun frame =>
        if frame = idleFrame then .ok [0xF0] else .error (.encodingError "not idle")
      deserialize := fun data => do
        let _ ← unmark 0xF0 data
        return idleFrame
      canDetect := fun data => recognises && data.head? = some 0xF0 }
  compressionName := "marked"
  compressor :=
    { compress := fun data => .ok (0xC0 :: data)
      decompress := unmark 0xC0
      algorithm := .custom "marked"
      canDetect := fun data => recognises && data.head? = some 0xC0 }
  encryptionName := "marked"
  encryptor :=
    { encrypt := fun data => .ok fun nonce => 0xE0 :: UInt8.ofNat nonce :: data
      decrypt := fun data => do
        let data ← unmark 0xE0 data
        return data.tail }

theorem inverts_markingCodecs (recognises : Bool) : (markingCodecs recognises).Inverts where
  serializer frame data serialized := by
    unfold markingCodecs at serialized ⊢
    dsimp only at serialized ⊢
    split_ifs at serialized with idle
    obtain rfl := Except.ok.inj serialized
    rw [idle]
    rfl
  compressor data packed compressed := by
    obtain rfl := Except.ok.inj compressed
    rfl
  encryptor data wire encrypted nonce := by
    obtain rfl := Except.ok.inj encrypted
    rfl

/-- The built-in codecs with those that put a mark in front. -/
def withMarking (recognises : Bool) : Registries :=
  let builtin := protobufFirst (knowingLibraries [])
  let codecs := markingCodecs recognises
  { serializers := builtin.serializers.insert codecs.formatName codecs.serializer
    compressors := builtin.compressors.insert codecs.compressionName codecs.compressor
    encryptors := builtin.encryptors.insert codecs.encryptionName codecs.encryptor }

theorem registered_markingCodecs (recognises : Bool) :
    (markingCodecs recognises).Registered (withMarking recognises) where
  serializer := AList.lookup_insert _
  compressor := AList.lookup_insert _
  encryptor := AList.lookup_insert _

theorem serialize_idleFrame (recognises : Bool) :
    (markingCodecs recognises).serializer.serialize idleFrame = .ok [0xF0] :=
  if_pos rfl

section Marks

open scoped AsciiText

/-- With the marks recognised the idle frame comes back. -/
theorem custom_round_trip_iff_marked :
    ∃ wire, (markingCodecs true).parser.serialize (withMarking true) idleFrame = .ok wire ∧
      ∀ nonce, (markingCodecs true).parser.parse (withMarking true) (wire nonce) = .ok idleFrame ∧
        (markingCodecs true).parser.parseWithFallback (withMarking true) (wire nonce) false =
          .ok idleFrame := by
  have round_trip := custom_round_trip_iff (registered_markingCodecs true)
    (inverts_markingCodecs true) (serialize_idleFrame true) rfl rfl
  refine ⟨_, round_trip.1, round_trip.2.mpr ⟨[0xF0], ?_, .inl rfl⟩⟩
  exact ⟨(markingCodecs true).compressor, rfl, by decide, rfl⟩

/-- **With codecs that recognise nothing, which is the default, the strict mode takes the
compressed data for uncompressed and fails.** -/
theorem unrecognised_codecs_fail :
    (markingCodecs false).Registered (withMarking false) ∧ (markingCodecs false).Inverts ∧
      ∃ wire, (markingCodecs false).parser.serialize (withMarking false) idleFrame = .ok wire ∧
        ¬∀ nonce, (markingCodecs false).parser.parse (withMarking false) (wire nonce) =
            .ok idleFrame ∧
          (markingCodecs false).parser.parseWithFallback (withMarking false) (wire nonce) false =
            .ok idleFrame := by
  have registered := registered_markingCodecs false
  have inverts := inverts_markingCodecs false
  have serialized := CustomCodecs.serialize_eq registered (serialize_idleFrame false) rfl rfl
  refine ⟨registered, inverts, _, serialized, fun both => ?_⟩
  have strict := (both 0).2
  rw [CustomCodecs.parse_eq registered inverts rfl] at strict
  cases strict

end Marks

end FlareCore.Common
