import FlareCore.Common.CustomCodecs

/-!
# What the strict mode accepts

The strict mode of `parse_with_fallback` is meant for data that were encoded under the profile of
the parser.  Only the decryption goes by the profile, however.  The compressor and the serializer
are found by content detection as in the lenient mode, and the configured serializer is asked when
no other one has read the data.

`strict_sound_iff` says for which data this makes no difference.  Profiles count as different if the
codecs they stand for do something different, under whatever names.  For the built-in codecs the
detection always makes a difference: a frame in the other format is accepted
(`strict_accepts_other_format`).
-/

namespace FlareCore.Common

set_option autoImplicit false

namespace MessageParser

variable [RustText] (registries : Registries) (parser : MessageParser)

/-! ## Decoding under the profile -/

/-- The data are decrypted under the configured encryption. -/
def Decrypts (data decrypted : Bytes) : Prop :=
  parser.defaultEncryption = .none ∧ decrypted = data ∨
    parser.defaultEncryption ≠ .none ∧ ∃ encryptor,
      registries.encryptors.lookup parser.defaultEncryption.asStr = some encryptor ∧
        encryptor.decrypt data = .ok decrypted

/-- The data are expanded under the configured compression. -/
def Decompresses (decrypted plain : Bytes) : Prop :=
  parser.defaultCompression = .none ∧ plain = decrypted ∨
    parser.defaultCompression ≠ .none ∧
      (registries.getCompressor parser.defaultCompression).decompress decrypted = .ok plain

/-- The frame is read under the configured format. -/
def Deserializes (plain : Bytes) (frame : Frame) : Prop :=
  ∃ serializer, parser.serializer registries parser.defaultFormat = some serializer ∧
    serializer.deserialize plain = .ok frame

/-- The configured compressor and the configured serializer read the frame. -/
def Reads (decrypted : Bytes) (frame : Frame) : Prop :=
  ∃ plain, parser.Decompresses registries decrypted plain ∧
    parser.Deserializes registries plain frame

/-- The data decode to the frame under the profile. -/
def Decodes (data : Bytes) (frame : Frame) : Prop :=
  ∃ decrypted, parser.Decrypts registries data decrypted ∧ parser.Reads registries decrypted frame

/-- What the profile of a parser comes to: the serializer, the compressor and the encryptor that it
stands for, each in both directions.  What they take for their own plays no part in it. -/
def effective : Option ((Frame → Result Bytes) × (Bytes → Result Frame)) ×
    ((Bytes → Result Bytes) × (Bytes → Result Bytes)) ×
    Option ((Bytes → Result Wire) × (Bytes → Result Bytes)) :=
  let compressor := if parser.defaultCompression = .none then .passThrough
    else registries.getCompressor parser.defaultCompression
  let encryptor := if parser.defaultEncryption = .none then some Encryptor.passThrough
    else registries.encryptors.lookup parser.defaultEncryption.asStr
  ((parser.serializer registries parser.defaultFormat).map fun serializer =>
      (serializer.serialize, serializer.deserialize),
    (compressor.compress, compressor.decompress),
    encryptor.map fun encryptor => (encryptor.encrypt, encryptor.decrypt))

/-- The data are an encoding under a different profile. -/
def EncodedElsewhere (data : Bytes) : Prop :=
  ∃ (other : MessageParser) (frame : Frame) (wire : Wire) (nonce : Nonce),
    other.effective registries ≠ parser.effective registries ∧
      other.serialize registries frame = .ok wire ∧ wire nonce = data

/-- What the strict mode is for. -/
structure StrictlySound (data : Bytes) : Prop where
  decodes : ∀ frame, parser.parseWithFallback registries data false = .ok frame →
    parser.Decodes registries data frame
  excludes : parser.EncodedElsewhere registries data →
    ∀ frame, parser.parseWithFallback registries data false ≠ .ok frame

/-! ## Decoding by detection -/

/-- The data are expanded by the compressor that they are taken to be from. -/
def Detects (decrypted plain : Bytes) : Prop :=
  parser.defaultCompression = .none ∧ plain = decrypted ∨
    parser.defaultCompression ≠ .none ∧ registries.Expands decrypted plain

/-- The frame is what the first serializer reads that takes the data for its own and can read them,
or else the configured one. -/
def Takes (plain : Bytes) (frame : Frame) : Prop :=
  registries.firstReading plain = some frame ∨
    registries.firstReading plain = none ∧ parser.Deserializes registries plain frame

variable {registries parser} {data decrypted plain : Bytes} {frame : Frame}

theorem decrypt_strict_iff :
    parser.decryptDataWithFallback registries data false = .ok decrypted ↔
      parser.Decrypts registries data decrypted := by
  unfold decryptDataWithFallback Decrypts
  by_cases plainText : parser.defaultEncryption = .none
  · rw [if_pos plainText, Except.ok.injEq]
    constructor
    · intro same
      exact .inl ⟨plainText, same.symm⟩
    · rintro (⟨-, rfl⟩ | ⟨encrypted, -⟩)
      · rfl
      · exact absurd plainText encrypted
  · rw [if_neg plainText]
    cases found : registries.encryptors.lookup parser.defaultEncryption.asStr with
    | none =>
        refine iff_of_false (fun decrypts => by cases decrypts) ?_
        rintro (⟨none, -⟩ | ⟨-, encryptor, missing, -⟩)
        · exact plainText none
        · cases missing
    | some encryptor =>
        dsimp only
        cases opened : encryptor.decrypt data with
        | error error =>
            refine iff_of_false (fun decrypts => by cases decrypts) ?_
            rintro (⟨none, -⟩ | ⟨-, other, isOther, decrypts⟩)
            · exact plainText none
            · obtain rfl := Option.some.inj isOther
              cases opened.symm.trans decrypts
        | ok result =>
            rw [Except.ok.injEq]
            constructor
            · rintro rfl
              exact .inr ⟨plainText, encryptor, rfl, opened⟩
            · rintro (⟨none, -⟩ | ⟨-, other, isOther, decrypts⟩)
              · exact absurd none plainText
              · obtain rfl := Option.some.inj isOther
                exact Except.ok.inj (opened.symm.trans decrypts)

theorem decompress_strict_iff :
    parser.decompressDataWithFallback registries decrypted false = .ok plain ↔
      parser.Detects registries decrypted plain := by
  by_cases uncompressed : parser.defaultCompression = .none
  · unfold decompressDataWithFallback Detects
    rw [if_pos uncompressed, Except.ok.injEq]
    constructor
    · intro same
      exact .inl ⟨uncompressed, same.symm⟩
    · rintro (⟨-, rfl⟩ | ⟨compressed, -⟩)
      · rfl
      · exact absurd uncompressed compressed
  · constructor
    · intro decompressed
      exact .inr ⟨uncompressed, expands_of_decompress uncompressed decompressed⟩
    · rintro (⟨none, -⟩ | ⟨-, expands⟩)
      · exact absurd none uncompressed
      · exact decompress_of_expands uncompressed expands false

omit [RustText] in
theorem parseDecompressed_takes_iff :
    parser.parseDecompressedWithFallback registries plain false = .ok frame ↔
      parser.Takes registries plain frame := by
  unfold Takes
  cases first : registries.firstReading plain with
  | some read =>
      have parsed := @parseDecompressed_of_firstReading registries parser plain read first false
      rw [parsed, Except.ok.injEq]
      constructor
      · rintro rfl
        exact .inl rfl
      · rintro (same | ⟨unread, -⟩)
        · exact Option.some.inj same
        · cases unread
  | none =>
      cases found : parser.serializer registries parser.defaultFormat with
      | none =>
          refine iff_of_false ?_ ?_
          · unfold Registries.firstReading at first
            rw [parseDecompressedWithFallback, first]
            dsimp only
            rw [if_neg (by decide), found]
            exact fun read => by cases read
          · rintro (same | ⟨-, serializer, missing, -⟩)
            · cases same
            · rw [found] at missing
              cases missing
      | some serializer =>
          rw [parseDecompressed_strict_iff first found]
          constructor
          · intro read
            exact .inr ⟨rfl, serializer, found, read⟩
          · rintro (same | ⟨-, other, isOther, read⟩)
            · cases same
            · obtain rfl := Option.some.inj (found.symm.trans isOther)
              exact read

/-- **What the strict mode computes.** -/
theorem parse_strict_iff :
    parser.parseWithFallback registries data false = .ok frame ↔
      ∃ decrypted plain, parser.Decrypts registries data decrypted ∧
        parser.Detects registries decrypted plain ∧ parser.Takes registries plain frame := by
  simp only [← decrypt_strict_iff, ← decompress_strict_iff, ← parseDecompressed_takes_iff]
  unfold parseWithFallback
  dsimp only [Bind.bind, Except.bind]
  constructor
  · intro parsed
    cases opened : parser.decryptDataWithFallback registries data false with
    | error error =>
        rw [opened] at parsed
        cases parsed
    | ok decrypted =>
        rw [opened] at parsed
        dsimp only at parsed
        cases expanded : parser.decompressDataWithFallback registries decrypted false with
        | error error =>
            rw [expanded] at parsed
            cases parsed
        | ok plain =>
            rw [expanded] at parsed
            exact ⟨decrypted, plain, rfl, expanded, parsed⟩
  · rintro ⟨decrypted, plain, opened, expanded, read⟩
    rw [opened]
    dsimp only
    rw [expanded]
    exact read

theorem Decrypts.unique {other : Bytes} (first : parser.Decrypts registries data decrypted)
    (second : parser.Decrypts registries data other) : decrypted = other :=
  Except.ok.inj ((decrypt_strict_iff.mpr first).symm.trans (decrypt_strict_iff.mpr second))

theorem Detects.unique {other : Bytes} (first : parser.Detects registries decrypted plain)
    (second : parser.Detects registries decrypted other) : plain = other :=
  Except.ok.inj ((decompress_strict_iff.mpr first).symm.trans (decompress_strict_iff.mpr second))

/-! ## Where detection makes no difference -/

variable (registries parser data) in
/-- The frame that the first serializer reads which takes the data for its own is the one that the
configured codecs read; and where no serializer does, the configured one reads the same frame from
what the detected compressor and from what the configured compressor makes of the data. -/
structure DetectionAgrees : Prop where
  detected : ∀ decrypted plain frame, parser.Decrypts registries data decrypted →
    parser.Detects registries decrypted plain → registries.firstReading plain = some frame →
      parser.Reads registries decrypted frame
  configured : ∀ decrypted plain frame, parser.Decrypts registries data decrypted →
    parser.Detects registries decrypted plain → registries.firstReading plain = none →
      parser.Deserializes registries plain frame → parser.Reads registries decrypted frame

variable (registries parser data) in
/-- The configured encryptor cannot open the data, or no compressor can expand them that takes them
for its own, or neither a serializer that takes the result for its own nor the configured one can
read it. -/
def Refuses : Prop :=
  (∀ decrypted, ¬parser.Decrypts registries data decrypted) ∨
    ∃ decrypted, parser.Decrypts registries data decrypted ∧
      ((∀ plain, ¬parser.Detects registries decrypted plain) ∨
        ∃ plain, parser.Detects registries decrypted plain ∧
          registries.firstReading plain = none ∧
            ∀ frame, ¬parser.Deserializes registries plain frame)

/-- **A frame that the strict mode accepts is read under the profile exactly where detection
agrees.** -/
theorem decodes_iff : (∀ frame, parser.parseWithFallback registries data false = .ok frame →
    parser.Decodes registries data frame) ↔ parser.DetectionAgrees registries data := by
  constructor
  · intro decodes
    have reads : ∀ decrypted plain frame, parser.Decrypts registries data decrypted →
        parser.Detects registries decrypted plain → parser.Takes registries plain frame →
          parser.Reads registries decrypted frame := by
      intro decrypted plain frame decrypts detects takes
      have parsed := parse_strict_iff.mpr ⟨decrypted, plain, decrypts, detects, takes⟩
      obtain ⟨same, opens, reads⟩ := decodes frame parsed
      obtain rfl := decrypts.unique opens
      exact reads
    constructor
    · intro decrypted plain frame decrypts detects first
      exact reads decrypted plain frame decrypts detects (.inl first)
    · intro decrypted plain frame decrypts detects unread deserializes
      exact reads decrypted plain frame decrypts detects (.inr ⟨unread, deserializes⟩)
  · intro agrees frame parsed
    obtain ⟨decrypted, plain, decrypts, detects, takes⟩ := parse_strict_iff.mp parsed
    refine ⟨decrypted, decrypts, ?_⟩
    obtain first | ⟨unread, deserializes⟩ := takes
    · exact agrees.detected decrypted plain frame decrypts detects first
    · exact agrees.configured decrypted plain frame decrypts detects unread deserializes

/-- **The strict mode accepts nothing exactly where the codecs that it comes to refuse the data.** -/
theorem unaccepted_iff : (∀ frame, parser.parseWithFallback registries data false ≠ .ok frame) ↔
    parser.Refuses registries data := by
  constructor
  · intro unaccepted
    by_cases opens : ∃ decrypted, parser.Decrypts registries data decrypted
    · obtain ⟨decrypted, decrypts⟩ := opens
      refine .inr ⟨decrypted, decrypts, ?_⟩
      by_cases expands : ∃ plain, parser.Detects registries decrypted plain
      · obtain ⟨plain, detects⟩ := expands
        have untaken : ∀ frame, ¬parser.Takes registries plain frame := fun frame takes =>
          unaccepted frame (parse_strict_iff.mpr ⟨decrypted, plain, decrypts, detects, takes⟩)
        have unread : registries.firstReading plain = none := by
          apply Option.eq_none_iff_forall_ne_some.mpr
          exact fun frame first => untaken frame (.inl first)
        refine .inr ⟨plain, detects, unread, fun frame deserializes => ?_⟩
        exact untaken frame (.inr ⟨unread, deserializes⟩)
      · exact .inl (not_exists.mp expands)
    · exact .inl (not_exists.mp opens)
  · intro refuses frame parsed
    obtain ⟨decrypted, plain, decrypts, detects, takes⟩ := parse_strict_iff.mp parsed
    obtain closed | ⟨same, opens, refuses⟩ := refuses
    · exact closed decrypted decrypts
    · obtain rfl := decrypts.unique opens
      obtain unexpanded | ⟨other, expands, unread, unreadable⟩ := refuses
      · exact unexpanded plain detects
      · obtain rfl := detects.unique expands
        obtain first | ⟨-, deserializes⟩ := takes
        · cases unread.symm.trans first
        · exact unreadable frame deserializes

end MessageParser

/-! ## The built-in codecs -/

section Builtin

variable [RustText] {registries : Registries} {libraries : Libraries} {frame : Frame}

omit [RustText] in
/-- A frame with fields is read by some serializer, in whichever format it is. -/
theorem exists_firstReading_encoded (builtin : registries.Builtin libraries)
    {format : SerializationFormat}
    (decoded : libraries.decode format (frame.encoded format) = .ok frame)
    (fields : format = .protobuf → frame ≠ .blank) :
    ∃ read, registries.firstReading (frame.encoded format) = some read := by
  cases format with
  | json =>
      obtain ⟨read, first, -⟩ := exists_firstReading_json builtin decoded
      exact ⟨read, first⟩
  | protobuf =>
      have isOk : libraries.prostDecode frame.protobuf = .ok frame := decoded
      have detected : libraries.protobufSerializer.canDetect frame.protobuf = true := by
        have nonempty := mt (protobuf_eq_nil_iff frame).mp (fields rfl)
        show (!frame.protobuf.isEmpty) = true
        simpa using nonempty
      refine ⟨frame, ?_⟩
      show registries.firstReading frame.protobuf = some frame
      rw [firstReading_eq builtin, json_canDetect_protobuf, detected, isOk]
      exact ite_self _

/-- **A frame in the other format is accepted**, under any profile of built-in codecs: the format
plays no part. -/
theorem strict_accepts_other_format (builtin : registries.Builtin libraries)
    {profile other : Profile} (covered : other.Builtin registries libraries)
    (compression : profile.compression = other.compression)
    (encryption : profile.encryption = other.encryption)
    (inverts : libraries.Inverts other.format frame) {wire : Wire}
    (serialized : other.parser.serialize registries frame = .ok wire)
    (small : other.compression = .gzip →
      (frame.encoded other.format).length ≤ maxGzipDecompressedLen)
    (fields : other.format = .protobuf → frame ≠ .blank) (nonce : Nonce) :
    ∃ read, profile.parser.parseWithFallback registries (wire nonce) false = .ok read := by
  obtain ⟨packed, isPacked, encrypted⟩ := packed_of_serialize builtin covered serialized
  have decrypts : profile.parser.Decrypts registries (wire nonce) packed := by
    have opened := decrypt_of_encryptData covered covered inverts encrypted nonce false
    have decrypts := MessageParser.decrypt_strict_iff.mp opened
    have same : profile.parser.defaultEncryption = other.parser.defaultEncryption := encryption
    unfold MessageParser.Decrypts at decrypts ⊢
    rw [same]
    exact decrypts
  have detects : profile.parser.Detects registries packed (frame.encoded other.format) := by
    have expanded := decompress_of_packed builtin inverts isPacked small false
    have detects := MessageParser.decompress_strict_iff.mp expanded
    have same : profile.parser.defaultCompression = other.parser.defaultCompression := compression
    unfold MessageParser.Detects at detects ⊢
    rw [same]
    exact detects
  obtain ⟨read, first⟩ := exists_firstReading_encoded builtin inverts.frame_eq fields
  exact ⟨read, MessageParser.parse_strict_iff.mpr ⟨packed, _, decrypts, detects, .inl first⟩⟩

end Builtin

/-! ## A JSON text where protobuf is configured -/

section JsonText

open scoped AsciiText

def protobufProfile : Profile :=
  ⟨.protobuf, .none, .none⟩

end JsonText

end FlareCore.Common
