import FlareCore.Common.Protocol

/-!
# Codec profiles, registries and the message parser

A connection's codec profile is a serialization format, a compression algorithm
and an encryption algorithm.  Algorithms other than the built-in ones are known
by name only, and what a name means is decided by process-wide registries that
applications may extend; the registries are therefore a parameter of everything
that encodes or decodes.

Two library notions stay abstract.  `str::to_lowercase` follows the Unicode
tables, of which only the ASCII part is needed here, so it is the field of a class
with that part as its law; the `Debug` rendering of strings is a second field.  An
encryptor draws randomness, so encrypting yields a function of the nonce, and the
encoded form of a frame is such a function (`Wire`); without encryption it is
constant.
-/

namespace FlareCore.Common

set_option autoImplicit false

/-! ## Text -/

/-- Lower case on ASCII letters, everything else unchanged. -/
def asciiLowercase (text : String) : String :=
  String.ofList (text.toList.map Char.toLower)

/-- `eq_ignore_ascii_case`. -/
def eqIgnoreAsciiCase (first second : String) : Bool :=
  asciiLowercase first = asciiLowercase second

/-- The string operations of the standard library that follow Unicode tables. -/
class RustText where
  toLowercase : String → String
  debug : String → String
  toLowercase_of_ascii : ∀ text : String, (∀ c ∈ text.toList, c.toNat < 128) →
    toLowercase text = asciiLowercase text

namespace AsciiText

/-- ASCII lower case and plain quotes, for runs on concrete inputs. -/
scoped instance text : RustText where
  toLowercase := asciiLowercase
  debug text := "\"" ++ text ++ "\""
  toLowercase_of_ascii _ _ := rfl

end AsciiText

/-- `{:?}` of a list whose elements are already rendered. -/
def debugList (elements : List String) : String :=
  "[" ++ ", ".intercalate elements ++ "]"

/-! ## Algorithms -/

inductive CompressionAlgorithm where
  | none
  | gzip
  | zstd
  | custom (name : String)
  deriving DecidableEq, Repr

inductive EncryptionAlgorithm where
  | none
  | aes256Gcm
  | custom (name : String)
  deriving DecidableEq, Repr

section Names

variable [RustText]

/-- `from_str` never fails: an unknown name is a custom algorithm. -/
def CompressionAlgorithm.fromStr (text : String) : CompressionAlgorithm :=
  let lowered := RustText.toLowercase text
  if lowered = "none" ∨ lowered = "" then .none
  else if lowered = "gzip" then .gzip
  else if lowered = "zstd" then .zstd
  else .custom lowered

def CompressionAlgorithm.asStr : CompressionAlgorithm → String
  | .none => "none"
  | .gzip => "gzip"
  | .zstd => "zstd"
  | .custom name => name

/-- `from_str` never fails: an unknown name is a custom algorithm. -/
def EncryptionAlgorithm.fromStr (text : String) : EncryptionAlgorithm :=
  let lowered := RustText.toLowercase text
  if lowered = "none" ∨ lowered = "" then .none
  else if lowered = "aes256gcm" ∨ lowered = "aes-256-gcm" then .aes256Gcm
  else .custom lowered

def EncryptionAlgorithm.asStr : EncryptionAlgorithm → String
  | .none => "none"
  | .aes256Gcm => "aes256gcm"
  | .custom name => name

def CompressionAlgorithm.debug : CompressionAlgorithm → String
  | .none => "None"
  | .gzip => "Gzip"
  | .zstd => "Zstd"
  | .custom name => "Custom(" ++ RustText.debug name ++ ")"

def EncryptionAlgorithm.debug : EncryptionAlgorithm → String
  | .none => "None"
  | .aes256Gcm => "Aes256Gcm"
  | .custom name => "Custom(" ++ RustText.debug name ++ ")"

/-- `to_lowercase` on an ASCII text. -/
theorem toLowercase_eq {text lowered : String}
    (ascii : (text.toList.all fun c => c.toNat < 128) = true)
    (lower : asciiLowercase text = lowered) : RustText.toLowercase text = lowered := by
  rw [RustText.toLowercase_of_ascii text, lower]
  intro c member
  exact of_decide_eq_true (List.all_eq_true.mp ascii c member)

/-- The name announced for no compression reads back as no compression. -/
@[simp]
theorem CompressionAlgorithm.fromStr_none : CompressionAlgorithm.fromStr "none" = .none := by
  have lowered : RustText.toLowercase "none" = "none" := toLowercase_eq (by decide) (by decide)
  simp only [fromStr, lowered, true_or, if_true]

/-- The name announced for no encryption reads back as no encryption. -/
@[simp]
theorem EncryptionAlgorithm.fromStr_none : EncryptionAlgorithm.fromStr "none" = .none := by
  have lowered : RustText.toLowercase "none" = "none" := toLowercase_eq (by decide) (by decide)
  simp only [fromStr, lowered, true_or, if_true]

end Names

def SerializationFormat.debug : SerializationFormat → String
  | .protobuf => "Protobuf"
  | .json => "Json"

/-! ## Registries -/

/-- Randomness drawn by one encryption. -/
abbrev Nonce := Nat

/-- An encoded frame, as a function of the randomness its encryption draws. -/
abbrev Wire := Nonce → Bytes

structure Serializer where
  serialize : Frame → Result Bytes
  deserialize : Bytes → Result Frame
  canDetect : Bytes → Bool

structure Compressor where
  compress : Bytes → Result Bytes
  decompress : Bytes → Result Bytes
  algorithm : CompressionAlgorithm
  canDetect : Bytes → Bool

structure Encryptor where
  encrypt : Bytes → Result Wire
  decrypt : Bytes → Result Bytes

/-- `NoCompressor`. -/
def Compressor.passThrough : Compressor where
  compress := .ok
  decompress := .ok
  algorithm := .none
  canDetect := fun _ => false

/-- The process-wide registries; the order of each list is the order in which
the hash map happens to enumerate it. -/
structure Registries where
  serializers : StringMap Serializer
  compressors : StringMap Compressor
  encryptors : StringMap Encryptor

namespace Registries

/-- `SerializationUtil::get_serializer`. -/
def getSerializer (registries : Registries) : SerializationFormat → Option Serializer
  | .protobuf => registries.serializers.lookup "protobuf"
  | .json => registries.serializers.lookup "json"

/-- `CompressionUtil::get_compressor`: an unregistered algorithm passes data through. -/
def getCompressor (registries : Registries) (algorithm : CompressionAlgorithm) : Compressor :=
  (registries.compressors.lookup algorithm.asStr).getD .passThrough

/-- `CompressionUtil::is_registered`. -/
def compressorRegistered (registries : Registries) (name : String) : Bool :=
  (registries.compressors.lookup name).isSome

/-- `EncryptionUtil::is_registered`. -/
def encryptorRegistered (registries : Registries) (name : String) : Bool :=
  (registries.encryptors.lookup name).isSome

/-- `CompressionUtil::auto_decompress`. -/
def autoDecompress (registries : Registries) (data : Bytes) :
    Result (Bytes × CompressionAlgorithm) :=
  match (registries.compressors.entries.map Sigma.snd).find? (·.canDetect data) with
  | some compressor => do
      let decompressed ← compressor.decompress data
      return (decompressed, compressor.algorithm)
  | none => return (data, .none)

end Registries

/-! ## The message parser -/

structure MessageParser where
  defaultFormat : SerializationFormat
  defaultCompression : CompressionAlgorithm
  defaultEncryption : EncryptionAlgorithm
  customFormatName : Option String
  deriving DecidableEq

namespace MessageParser

def new (format : SerializationFormat) (compression : CompressionAlgorithm)
    (encryption : EncryptionAlgorithm) : MessageParser :=
  ⟨format, compression, encryption, none⟩

/-- `PRE_NEGOTIATION_PARSER`: JSON, uncompressed, unencrypted. -/
def preNegotiation : MessageParser :=
  new .json .none .none

end MessageParser

/-- What the two ends of a connection agree on. -/
structure Profile where
  format : SerializationFormat
  compression : CompressionAlgorithm
  encryption : EncryptionAlgorithm
  deriving DecidableEq

def Profile.parser (profile : Profile) : MessageParser :=
  .new profile.format profile.compression profile.encryption

namespace MessageParser

def profile (parser : MessageParser) : Profile :=
  ⟨parser.defaultFormat, parser.defaultCompression, parser.defaultEncryption⟩

section Coding

variable [RustText] (registries : Registries) (parser : MessageParser)

/-- The serializer of a parser, a custom name taking precedence. -/
def serializer (format : SerializationFormat) : Option Serializer :=
  match parser.customFormatName with
  | some name => registries.serializers.lookup name
  | none => registries.getSerializer format

def formatInfo (builtin : String) : String :=
  match parser.customFormatName with
  | some name => "custom format '" ++ name ++ "'"
  | none => builtin

def encryptorNotFound (name : String) : String :=
  "Encryptor '" ++ name ++ "' not found. Registered: " ++
    debugList (registries.encryptors.keys.map RustText.debug)

/-- `encrypt_data`. -/
def encryptData (data : Bytes) (encryption : EncryptionAlgorithm) : Result Wire :=
  if encryption = .none then .ok fun _ => data
  else
    match registries.encryptors.lookup encryption.asStr with
    | none => .error (.encodingError (encryptorNotFound registries encryption.asStr))
    | some encryptor => encryptor.encrypt data

/-- `serialize_with_format`: serialize, compress, encrypt. -/
def serializeWithFormat (frame : Frame) (format : SerializationFormat)
    (compression : CompressionAlgorithm) (encryption : EncryptionAlgorithm) : Result Wire :=
  match parser.serializer registries format with
  | none => .error (.encodingError ("Serializer not found: " ++ parser.formatInfo format.debug))
  | some serializer => do
      let data ← serializer.serialize frame
      let compressed ←
        if compression = .none then pure data
        else (registries.getCompressor compression).compress data
      encryptData registries compressed encryption

def serialize (frame : Frame) : Result Wire :=
  parser.serializeWithFormat registries frame parser.defaultFormat parser.defaultCompression
    parser.defaultEncryption

/-- What `serialize_with_format` encrypts: the frame, serialized and compressed. -/
def pack (frame : Frame) (format : SerializationFormat) (compression : CompressionAlgorithm) :
    Result Bytes :=
  match parser.serializer registries format with
  | none => .error (.encodingError ("Serializer not found: " ++ parser.formatInfo format.debug))
  | some serializer => do
      let data ← serializer.serialize frame
      if compression = .none then pure data
      else (registries.getCompressor compression).compress data

/-- Encryption is the last step. -/
theorem serializeWithFormat_eq (frame : Frame) (format : SerializationFormat)
    (compression : CompressionAlgorithm) (encryption : EncryptionAlgorithm) :
    parser.serializeWithFormat registries frame format compression encryption =
      (parser.pack registries frame format compression).bind fun packed =>
        encryptData registries packed encryption := by
  unfold serializeWithFormat pack
  cases parser.serializer registries format with
  | none => rfl
  | some serializer =>
      dsimp only [Bind.bind, Except.bind]
      cases serializer.serialize frame with
      | error error => rfl
      | ok plain =>
          by_cases uncompressed : compression = .none
          · simp only [if_pos uncompressed]
          · simp only [if_neg uncompressed]

variable {registries parser} in
/-- A frame that is serialized has been packed, and its packed form encrypted. -/
theorem packed_of_serializeWithFormat {frame : Frame} {format : SerializationFormat}
    {compression : CompressionAlgorithm} {encryption : EncryptionAlgorithm} {data : Wire}
    (serialized : parser.serializeWithFormat registries frame format compression encryption =
      .ok data) :
    ∃ packed, parser.pack registries frame format compression = .ok packed ∧
      encryptData registries packed encryption = .ok data := by
  rw [serializeWithFormat_eq] at serialized
  cases isPacked : parser.pack registries frame format compression with
  | error error =>
      rw [isPacked] at serialized
      cases serialized
  | ok packed =>
      rw [isPacked] at serialized
      exact ⟨packed, rfl, serialized⟩

variable {registries parser} in
theorem encrypted_of_serialize {frame : Frame} {data : Wire}
    (serialized : parser.serialize registries frame = .ok data) :
    ∃ compressed, encryptData registries compressed parser.defaultEncryption = .ok data := by
  obtain ⟨packed, -, encrypted⟩ := packed_of_serializeWithFormat serialized
  exact ⟨packed, encrypted⟩

/-- `decrypt_data_with_fallback`. -/
def decryptDataWithFallback (data : Bytes) (allowFallback : Bool) : Result Bytes :=
  if parser.defaultEncryption = .none then .ok data
  else
    match registries.encryptors.lookup parser.defaultEncryption.asStr with
    | none =>
        .error (.deserializationError (encryptorNotFound registries parser.defaultEncryption.asStr))
    | some encryptor =>
        match encryptor.decrypt data with
        | .ok decrypted => .ok decrypted
        | .error e =>
            if allowFallback then .ok data
            else .error (.deserializationError
              ("解密失败: encryption=" ++ parser.defaultEncryption.debug ++ ", error=" ++ e.text ++
                ", data_len=" ++ toString data.length))

/-- `decompress_data_with_fallback`: the compressor is detected from the data,
the configured algorithm only decides whether one is expected at all. -/
def decompressDataWithFallback (data : Bytes) (allowFallback : Bool) : Result Bytes :=
  if parser.defaultCompression = .none then .ok data
  else
    match registries.autoDecompress data with
    | .ok (decompressed, detected) =>
        if detected ≠ .none then .ok decompressed
        else if allowFallback then .ok data
        else .error (.deserializationError
          ("解压缩失败（严格模式）: 配置了压缩 " ++ parser.defaultCompression.debug ++ " 但数据未压缩"))
    | .error e =>
        if allowFallback then .ok data
        else .error (.deserializationError
          ("解压缩失败（严格模式）: compression=" ++ parser.defaultCompression.debug ++ ", error=" ++
            e.text))

/-- `try_all_serializers`. -/
def tryAllSerializers (data : Bytes) : Result Frame :=
  match [SerializationFormat.protobuf, .json].findSome? fun format =>
      (registries.getSerializer format).bind fun serializer =>
        (serializer.deserialize data).toOption with
  | some frame => .ok frame
  | none => .error (.deserializationError
      "Failed to parse message: no compatible serializer found")

/-- `parse_decompressed_with_fallback`: every serializer that recognises the
data is tried first, in registry order. -/
def parseDecompressedWithFallback (data : Bytes) (allowFallback : Bool) : Result Frame :=
  let detected := (registries.serializers.entries.map Sigma.snd).filter (·.canDetect data)
  match detected.findSome? fun serializer => (serializer.deserialize data).toOption with
  | some frame => .ok frame
  | none =>
      if allowFallback then tryAllSerializers registries data
      else
        let info := parser.formatInfo ("format " ++ parser.defaultFormat.debug)
        match parser.serializer registries parser.defaultFormat with
        | none => .error (.deserializationError ("Serializer not found for " ++ info))
        | some serializer =>
            match serializer.deserialize data with
            | .ok frame => .ok frame
            | .error e => .error (.deserializationError
                ("反序列化失败（严格模式）: " ++ info ++ ", error=" ++ e.text))

/-- `parse_with_fallback`: decrypt, decompress, deserialize. -/
def parseWithFallback (data : Bytes) (allowFallback : Bool) : Result Frame := do
  let decrypted ← parser.decryptDataWithFallback registries data allowFallback
  let decompressed ← parser.decompressDataWithFallback registries decrypted allowFallback
  parser.parseDecompressedWithFallback registries decompressed allowFallback

/-- `parse`: the lenient mode. -/
def parse (data : Bytes) : Result Frame :=
  parser.parseWithFallback registries data true

end Coding

end MessageParser

end FlareCore.Common
