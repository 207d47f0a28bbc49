import FlareCore.Common.Formats
import Mathlib.Algebra.Group.Nat.Defs
import Mathlib.Data.List.Permutation

/-!
# The built-in codecs over their libraries

The built-in serializers, the gzip compressor and the AES encryptor are thin layers over
libraries: they add a limit on what gzip may expand to, put the nonce in front of the ciphertext,
and say what can be recognised.  The libraries themselves are given by what they return
(`Libraries`), and what is assumed of them is that each undoes what it did (`Libraries.Inverts`)
and that compressed data starts with the two bytes by which gzip is recognised.

A registry that holds the built-in codecs may list them in any order.
-/

namespace FlareCore.Common

set_option autoImplicit false

/-- The library calls behind the built-in codecs; failures are texts. -/
structure Libraries where
  /-- `prost::Message::decode`. -/
  prostDecode : Bytes → Except String Frame
  /-- `serde_json::from_slice`. -/
  serdeFromSlice : Bytes → Except String Frame
  /-- `GzEncoder`, from `write_all` to `finish`. -/
  gzEncode : Bytes → Except String Bytes
  /-- `GzDecoder::new(data).take(limit)`, read to its end. -/
  gzDecodeTake : Nat → Bytes → Except String Bytes
  /-- `encrypt` of the cipher with the registered key, for a nonce. -/
  aesEncrypt : Bytes → Except String (Bytes → Bytes)
  /-- `decrypt` of the cipher with the registered key, for a nonce. -/
  aesDecrypt : Bytes → Bytes → Except String Bytes

/-- `MAX_GZIP_DECOMPRESSED_LEN`. -/
def maxGzipDecompressedLen : Nat :=
  16 * 1024 * 1024

/-- The twelve bytes of a nonce. -/
def nonceBytes (nonce : Nonce) : Bytes :=
  (List.range 12).map fun place => UInt8.ofNat (nonce / 256 ^ place)

@[simp]
theorem length_nonceBytes (nonce : Nonce) : (nonceBytes nonce).length = 12 := by
  rw [nonceBytes, List.length_map, List.length_range]

namespace Libraries

variable (libraries : Libraries)

/-- `ProtobufSerializer`. -/
def protobufSerializer : Serializer where
  serialize frame := .ok frame.protobuf
  deserialize data := (libraries.prostDecode data).mapError fun error =>
    .deserializationError ("Protobuf decode error: " ++ error)
  canDetect data := !data.isEmpty

/-- `JsonSerializer`. -/
def jsonSerializer : Serializer where
  serialize frame := .ok (utf8 frame.json)
  deserialize data := (libraries.serdeFromSlice data).mapError fun error =>
    .deserializationError ("JSON decode error: " ++ error)
  canDetect data := data.head? = some 0x7B || data.head? = some 0x5B

/-- `GzipCompressor`: one byte more than the limit is asked for, to see whether there is more. -/
def gzipCompressor : Compressor where
  compress data := (libraries.gzEncode data).mapError fun error =>
    .encodingError ("Gzip compression failed: " ++ error)
  decompress data :=
    match libraries.gzDecodeTake (maxGzipDecompressedLen + 1) data with
    | .error error => .error (.encodingError ("Gzip decompression failed: " ++ error))
    | .ok decompressed =>
        if decompressed.length > maxGzipDecompressedLen then
          .error (.encodingError ("Gzip decompressed payload exceeds limit (" ++
            toString maxGzipDecompressedLen ++ " bytes)"))
        else .ok decompressed
  algorithm := .gzip
  canDetect data := data.take 2 = [0x1F, 0x8B]

theorem gzipCompressor_compress (data : Bytes) :
    libraries.gzipCompressor.compress data = (libraries.gzEncode data).mapError fun error =>
      .encodingError ("Gzip compression failed: " ++ error) :=
  rfl

/-- `Aes256GcmEncryptor`: the nonce goes in front of the ciphertext. -/
def aesEncryptor : Encryptor where
  encrypt data :=
    match libraries.aesEncrypt data with
    | .error error => .error (.encodingError ("AES-GCM encryption failed: " ++ error))
    | .ok ciphertext => .ok fun nonce => nonceBytes nonce ++ ciphertext (nonceBytes nonce)
  decrypt data :=
    if data.length < 12 then
      .error (.deserializationError ("Encrypted data too short: expected at least 12 bytes, got " ++
        toString data.length))
    else
      (libraries.aesDecrypt (data.take 12) (data.drop 12)).mapError fun error =>
        .deserializationError ("AES-GCM decryption failed: " ++ error)

/-- The serializer of a format. -/
def serializer : SerializationFormat → Serializer
  | .protobuf => libraries.protobufSerializer
  | .json => libraries.jsonSerializer

/-- The decoder of a format. -/
def decode : SerializationFormat → Bytes → Except String Frame
  | .protobuf => libraries.prostDecode
  | .json => libraries.serdeFromSlice

theorem deserialize_of_decode {format : SerializationFormat} {data : Bytes} {frame : Frame}
    (decoded : libraries.decode format data = .ok frame) :
    (libraries.serializer format).deserialize data = .ok frame := by
  cases format with
  | protobuf =>
      change libraries.prostDecode data = .ok frame at decoded
      show (libraries.prostDecode data).mapError _ = .ok frame
      rw [decoded]
      rfl
  | json =>
      change libraries.serdeFromSlice data = .ok frame at decoded
      show (libraries.serdeFromSlice data).mapError _ = .ok frame
      rw [decoded]
      rfl

end Libraries

/-- A frame in a format. -/
def Frame.encoded (frame : Frame) : SerializationFormat → Bytes
  | .protobuf => frame.protobuf
  | .json => utf8 frame.json

/-- What the libraries undo: the encoding of this frame, and everything that they have
compressed or encrypted. -/
structure Libraries.Inverts (libraries : Libraries) (format : SerializationFormat)
    (frame : Frame) : Prop where
  frame_eq : libraries.decode format (frame.encoded format) = .ok frame
  gzip : ∀ data packed, libraries.gzEncode data = .ok packed →
    packed.take 2 = [0x1F, 0x8B] ∧
      ∀ limit, libraries.gzDecodeTake limit packed = .ok (data.take limit)
  aes : ∀ data ciphertext, libraries.aesEncrypt data = .ok ciphertext →
    ∀ nonce, libraries.aesDecrypt nonce (ciphertext nonce) = .ok data

/-- What gzip has compressed is neither protobuf nor JSON: its first byte would be the key of a
field with a wire type that does not exist, and no JSON text starts with it. -/
structure Libraries.RefusesGzip (libraries : Libraries) : Prop where
  prost : ∀ data, data.take 2 = [0x1F, 0x8B] → ∃ error, libraries.prostDecode data = .error error
  serde : ∀ data, data.take 2 = [0x1F, 0x8B] →
    ∃ error, libraries.serdeFromSlice data = .error error

/-- Registries with the built-in serializers and compressors, in any order. -/
structure Registries.Builtin (registries : Registries) (libraries : Libraries) : Prop where
  serializers : registries.serializers.entries.Perm
    [⟨"protobuf", libraries.protobufSerializer⟩, ⟨"json", libraries.jsonSerializer⟩]
  compressors : registries.compressors.entries.Perm
    [⟨"none", .passThrough⟩, ⟨"gzip", libraries.gzipCompressor⟩]

/-- A profile of built-in codecs; for encryption a key is registered. -/
structure Profile.Builtin (profile : Profile) (registries : Registries) (libraries : Libraries) :
    Prop where
  compression : profile.compression = .none ∨ profile.compression = .gzip
  encryption : profile.encryption = .none ∨ profile.encryption = .aes256Gcm ∧
    registries.encryptors.lookup "aes256gcm" = some libraries.aesEncryptor

theorem Profile.Builtin.lookup_encryptor {profile : Profile} {registries : Registries}
    {libraries : Libraries} (covered : profile.Builtin registries libraries)
    (encrypted : profile.encryption ≠ .none) :
    registries.encryptors.lookup profile.encryption.asStr = some libraries.aesEncryptor := by
  obtain none | ⟨isAes, registered⟩ := covered.encryption
  · exact absurd none encrypted
  · rw [isAes]
    exact registered

/-! ## The registries of built-in codecs -/

namespace Registries.Builtin

variable {registries : Registries} {libraries : Libraries}

theorem lookup_serializer (builtin : registries.Builtin libraries) (format : SerializationFormat) :
    registries.getSerializer format = some (libraries.serializer format) := by
  obtain order | order := List.perm_pair.mp builtin.serializers <;> cases format <;>
    rw [getSerializer, AList.lookup, order] <;> rfl

theorem getCompressor_gzip (builtin : registries.Builtin libraries) :
    registries.getCompressor .gzip = libraries.gzipCompressor := by
  have found : registries.compressors.lookup "gzip" = some libraries.gzipCompressor := by
    obtain order | order := List.perm_pair.mp builtin.compressors <;>
      rw [AList.lookup, order] <;> rfl
  rw [getCompressor, CompressionAlgorithm.asStr, found, Option.getD_some]

/-- What gzip has compressed is taken for gzip, in whatever order the compressors are asked. -/
theorem autoDecompress_of_magic (builtin : registries.Builtin libraries) {data : Bytes}
    (magic : data.take 2 = [0x1F, 0x8B]) :
    registries.autoDecompress data =
      (libraries.gzipCompressor.decompress data).map fun decompressed =>
        (decompressed, .gzip) := by
  have detected : libraries.gzipCompressor.canDetect data = true := decide_eq_true magic
  have found : (registries.compressors.entries.map Sigma.snd).find? (·.canDetect data) =
      some libraries.gzipCompressor := by
    obtain order | order := List.perm_pair.mp builtin.compressors
    · rw [order]
      exact (List.find?_cons_of_neg Bool.false_ne_true).trans (List.find?_cons_of_pos detected)
    · rw [order]
      exact List.find?_cons_of_pos detected
  rw [autoDecompress, found]
  dsimp only
  cases libraries.gzipCompressor.decompress data <;> rfl

/-- The order in which the serializers are asked. -/
theorem serializers_eq (builtin : registries.Builtin libraries) :
    registries.serializers.entries.map Sigma.snd =
        [libraries.protobufSerializer, libraries.jsonSerializer] ∧
      registries.serializers.keys = ["protobuf", "json"] ∨
    registries.serializers.entries.map Sigma.snd =
        [libraries.jsonSerializer, libraries.protobufSerializer] ∧
      registries.serializers.keys = ["json", "protobuf"] := by
  obtain order | order := List.perm_pair.mp builtin.serializers
  · exact .inl ⟨by rw [order]; rfl, by rw [AList.keys, order]; rfl⟩
  · exact .inr ⟨by rw [order]; rfl, by rw [AList.keys, order]; rfl⟩

end Registries.Builtin

end FlareCore.Common
