import FlareCore.Client.Negotiation

/-!
# What a server reads off a client's CONNECT

The fields of CONNECT share one map with the free metadata of the device.  The client writes the
format, the compression, the compressions that it can undo and the fields of the device first,
then the metadata of the device, then user and token; each entry replaces an earlier one under
the same key.  The server leaves the keys of the fields out when it collects the metadata of a
device, but the client does not leave them out when it writes them, so an entry of the device's
metadata under such a key takes the place of the field.

`reads_back_iff` says exactly when the server still reads what is configured.
-/

namespace FlareCore.Client

open FlareCore.Common FlareCore.Server

set_option autoImplicit false

/-! ## Texts under a key -/

theorem lookup_singleton (name value key : String) :
    [(name, value)].lookup key = if key = name then some value else none := by
  by_cases same : key = name
  · rw [if_pos same, same, List.lookup_cons_self]
  · rw [if_neg same, List.lookup_cons, beq_eq_false_iff_ne.mpr same]
    rfl

theorem lookup_reverse_append (first second : List (String × String)) (key : String) :
    (first ++ second).reverse.lookup key =
      (second.reverse.lookup key).or (first.reverse.lookup key) := by
  rw [List.reverse_append, List.lookup_append]

namespace ClientConfig

/-- A later entry replaces an earlier one. -/
theorem lookup_insertStrings (metadata : StringMap Bytes) (entries : List (String × String))
    (key : String) :
    (insertStrings metadata entries).lookup key =
      ((entries.reverse.lookup key).map utf8).or (metadata.lookup key) := by
  induction entries generalizing metadata with
  | nil => rfl
  | cons entry entries inductionHypothesis =>
      show (insertStrings (metadata.insert entry.1 (utf8 entry.2)) entries).lookup key = _
      rw [inductionHypothesis, List.reverse_cons, List.lookup_append, lookup_singleton]
      by_cases same : key = entry.1
      · rw [if_pos same, same, AList.lookup_insert]
        cases entries.reverse.lookup entry.1 <;> rfl
      · rw [if_neg same, AList.lookup_insert_ne same, Option.or_none]

/-- The text that a server reads under a key. -/
theorem metadataString_insertStrings (entries : List (String × String)) (key : String) :
    metadataString (insertStrings ∅ entries) key = entries.reverse.lookup key := by
  rw [metadataString, lookup_insertStrings, AList.lookup_empty, Option.or_none]
  cases entries.reverse.lookup key with
  | none => rfl
  | some text => exact fromUtf8_utf8 text

theorem lookup_optionalEntry (name : String) (value : Option String) (key : String) :
    (optionalEntry name value).reverse.lookup key = if key = name then value else none := by
  cases value with
  | none => exact (ite_self _).symm
  | some value => exact lookup_singleton name value key

theorem lookup_conditionalEntry (condition : Prop) [Decidable condition] (name value : String)
    (key : String) :
    (if condition then [(name, value)] else []).reverse.lookup key =
      if condition ∧ key = name then some value else none := by
  by_cases holds : condition
  · simp only [holds, if_true, true_and]
    exact lookup_singleton name value key
  · simp only [holds, if_false, false_and]
    rfl

/-- The entries of a map have distinct keys. -/
theorem lookup_stringEntries (map : StringMap String) (key : String) :
    (stringEntries map).reverse.lookup key = map.lookup key := by
  have distinct : map.entries.NodupKeys := map.nodupKeys
  show (map.entries.map fun entry => (entry.1, entry.2)).reverse.lookup key =
    map.entries.dlookup key
  revert distinct
  generalize map.entries = entries
  intro distinct
  induction entries with
  | nil => rfl
  | cons entry entries inductionHypothesis =>
      obtain ⟨fresh, rest⟩ := List.nodupKeys_cons.mp distinct
      rw [List.map_cons, List.reverse_cons, List.lookup_append, inductionHypothesis rest,
        lookup_singleton]
      by_cases same : key = entry.1
      · rw [if_pos same, same, List.dlookup_eq_none.mpr fresh, Option.none_or,
          List.dlookup_cons_eq]
      · rw [if_neg same, List.dlookup_cons_ne _ _ same, Option.or_none]

/-! ## The entries of CONNECT -/

variable (config : ClientConfig)

/-- CONNECT asks for the configured profile, and names the format if it is forced or not JSON. -/
def sendsFormat : Bool :=
  config.isForceFormat || config.getSerializationFormat ≠ .json

theorem determineConnectFormat_eq :
    config.determineConnectFormat =
      (config.getSerializationFormat, config.getCompression, config.sendsFormat) := by
  unfold determineConnectFormat sendsFormat isForceFormat getSerializationFormat getCompression
  cases config.forceSerializationFormat <;> cases config.forceCompression <;> simp

/-- The entries that say how the client wants to talk. -/
def profileEntries (registries : Registries) : List (String × String) :=
  (if config.sendsFormat then [("format", formatName config.getSerializationFormat)] else []) ++
    (if config.getCompression ≠ .none then [("compression", config.getCompression.asStr)]
      else []) ++
    (if acceptedCompressions registries ≠ [] then
      [("accept_compression", ",".intercalate (acceptedCompressions registries))] else []) ++
    (if config.isForceFormat then [("force_format", "true")] else [])

/-- The entries for the fields of a device. -/
def deviceFields (device : DeviceInfo) : List (String × String) :=
  [("device_id", device.deviceId), ("platform", device.platform.asStr)] ++
    optionalEntry "model" device.model ++ optionalEntry "app_version" device.appVersion ++
    optionalEntry "system_version" device.systemVersion

theorem buildConnectMetadata_eq (registries : Registries) :
    config.buildConnectMetadata registries =
      insertStrings ∅ (config.profileEntries registries ++ config.deviceEntries ++
        optionalEntry "user_id" config.userId ++ optionalEntry "token" config.token ++
        stringEntries config.metadata) := by
  unfold buildConnectMetadata
  rw [determineConnectFormat_eq]
  rfl

/-- What the free metadata of the device say under a key. -/
def deviceText (key : String) : Option String :=
  config.deviceInfo.bind fun device => device.metadata.lookup key

/-- What the fields of the device say under a key. -/
def fieldText (key : String) : Option String :=
  config.deviceInfo.bind fun device => (deviceFields device).reverse.lookup key

theorem lookup_deviceEntries (key : String) :
    config.deviceEntries.reverse.lookup key =
      (config.deviceText key).or (config.fieldText key) := by
  unfold deviceEntries deviceText fieldText
  cases config.deviceInfo with
  | none => rfl
  | some device =>
      show (deviceFields device ++ stringEntries device.metadata).reverse.lookup key = _
      rw [lookup_reverse_append, lookup_stringEntries]
      rfl

theorem lookup_profileEntries (registries : Registries) (key : String) :
    (config.profileEntries registries).reverse.lookup key =
      (if config.isForceFormat ∧ key = "force_format" then some "true" else none).or
        ((if acceptedCompressions registries ≠ [] ∧ key = "accept_compression" then
            some (",".intercalate (acceptedCompressions registries)) else none).or
          ((if config.getCompression ≠ .none ∧ key = "compression" then
              some config.getCompression.asStr else none).or
            (if config.sendsFormat ∧ key = "format" then
              some (formatName config.getSerializationFormat) else none))) := by
  rw [profileEntries, lookup_reverse_append, lookup_conditionalEntry, lookup_reverse_append,
    lookup_conditionalEntry, lookup_reverse_append, lookup_conditionalEntry,
    lookup_conditionalEntry]

theorem lookup_deviceFields (device : DeviceInfo) (key : String) :
    (deviceFields device).reverse.lookup key =
      (if key = "system_version" then device.systemVersion else none).or
        ((if key = "app_version" then device.appVersion else none).or
          ((if key = "model" then device.model else none).or
            ((if key = "platform" then some device.platform.asStr else none).or
              (if key = "device_id" then some device.deviceId else none)))) := by
  have ids : [("device_id", device.deviceId), ("platform", device.platform.asStr)].reverse.lookup
      key = (if key = "platform" then some device.platform.asStr else none).or
        (if key = "device_id" then some device.deviceId else none) := by
    rw [← lookup_singleton, ← lookup_singleton, ← List.lookup_append]
    rfl
  rw [deviceFields, lookup_reverse_append, lookup_optionalEntry, lookup_reverse_append,
    lookup_optionalEntry, lookup_reverse_append, lookup_optionalEntry, ids]

/-- What a server reads under a key that the extra metadata do not use: the user, else what the
metadata of the device say, else the field. -/
theorem metadataString_buildConnectMetadata (registries : Registries) {key : String}
    (free : config.metadata.lookup key = none) (notToken : key ≠ "token") :
    metadataString (config.buildConnectMetadata registries) key =
      (if key = "user_id" then config.userId else none).or ((config.deviceText key).or
        ((config.fieldText key).or ((config.profileEntries registries).reverse.lookup key))) := by
  rw [buildConnectMetadata_eq, metadataString_insertStrings, lookup_reverse_append,
    lookup_stringEntries, free, Option.none_or, lookup_reverse_append, lookup_optionalEntry,
    if_neg notToken, Option.none_or, lookup_reverse_append, lookup_optionalEntry,
    lookup_reverse_append, lookup_deviceEntries, Option.or_assoc]

end ClientConfig

/-! ## What is read -/

/-- `parse_serialization_format`, of the text under `format`. -/
def formatOf (text : Option String) : SerializationFormat × Bool :=
  text.elim (.json, false) fun text =>
    (if eqIgnoreAsciiCase text "protobuf" || eqIgnoreAsciiCase text "proto" then .protobuf
      else .json, true)

theorem parseSerializationFormat_eq (metadata : StringMap Bytes) :
    parseSerializationFormat metadata = formatOf (metadataString metadata "format") := by
  unfold parseSerializationFormat formatOf
  cases metadataString metadata "format" with
  | none => rfl
  | some text => exact (apply_ite (·, true) ..).symm

theorem formatOf_formatName (format : SerializationFormat) :
    formatOf (some (ClientConfig.formatName format)) = (format, true) := by
  cases format <;> decide

/-- A value read off the metadata of the device, else off the field, is the configured one if
the former says nothing or says the same. -/
theorem read_or_iff {α : Type} (read : Option String → α) {field : Option String} {expected : α}
    (configured : read field = expected) (text : Option String) :
    read (text.or field) = expected ↔ ∀ value ∈ text, read (some value) = expected := by
  cases text with
  | none =>
      rw [Option.none_or]
      exact ⟨fun _ value member => absurd member (Option.not_mem_none value),
        fun _ => configured⟩
  | some text =>
      rw [Option.some_or]
      constructor
      · rintro reads value member
        rwa [← Option.some.inj member]
      · exact fun reads => reads text rfl

section Reading

variable [RustText]

/-- `parse_accepted_compressions`, of the text under `accept_compression`. -/
def acceptedOf (text : Option String) : List CompressionAlgorithm :=
  text.elim [] fun text =>
    ((((splitCommas text).map Server.trim).filter fun name => name ≠ "").map
      CompressionAlgorithm.fromStr).foldl (fun accepted algorithm =>
        if algorithm ≠ .none ∧ algorithm ∉ accepted then accepted ++ [algorithm] else accepted) []

theorem parseAcceptedCompressions_eq (metadata : StringMap Bytes) :
    parseAcceptedCompressions metadata =
      acceptedOf (metadataString metadata "accept_compression") := by
  unfold parseAcceptedCompressions acceptedOf
  cases metadataString metadata "accept_compression" <;> rfl

/-- `parse_compression`, of the text under `compression`. -/
def compressionOf (text : Option String) : CompressionAlgorithm :=
  (text.map .fromStr).getD .none

theorem fromStr_gzip : CompressionAlgorithm.fromStr "gzip" = .gzip := by
  have lowered : RustText.toLowercase "gzip" = "gzip" := toLowercase_eq (by decide) (by decide)
  rw [CompressionAlgorithm.fromStr, lowered]
  decide

theorem fromStr_zstd : CompressionAlgorithm.fromStr "zstd" = .zstd := by
  have lowered : RustText.toLowercase "zstd" = "zstd" := toLowercase_eq (by decide) (by decide)
  rw [CompressionAlgorithm.fromStr, lowered]
  decide

omit [RustText] in
/-- The built-in compressions that are registered. -/
def registeredCompressions (registries : Registries) : List CompressionAlgorithm :=
  [CompressionAlgorithm.gzip, .zstd].filter fun algorithm =>
    registries.compressorRegistered algorithm.asStr

/-- The list of the registered compressions reads back. -/
theorem acceptedOf_acceptedCompressions (registries : Registries) :
    acceptedOf (if ClientConfig.acceptedCompressions registries ≠ [] then
        some (",".intercalate (ClientConfig.acceptedCompressions registries)) else none) =
      registeredCompressions registries := by
  have gzip : ((splitCommas "gzip").map Server.trim).filter (fun name => name ≠ "") = ["gzip"] := by
    decide
  have zstd : ((splitCommas "zstd").map Server.trim).filter (fun name => name ≠ "") = ["zstd"] := by
    decide
  have both : ((splitCommas "gzip,zstd").map Server.trim).filter (fun name => name ≠ "") =
      ["gzip", "zstd"] := by
    decide
  have joined : ",".intercalate ["gzip", "zstd"] = "gzip,zstd" := by
    decide
  simp only [ClientConfig.acceptedCompressions, registeredCompressions, List.map_cons,
    List.map_nil, CompressionAlgorithm.asStr, List.filter_cons, List.filter_nil]
  cases registries.compressorRegistered "gzip" <;> cases registries.compressorRegistered "zstd"
  · rfl
  · show acceptedOf (some "zstd") = [CompressionAlgorithm.zstd]
    rw [acceptedOf, Option.elim_some, zstd, List.map_singleton, fromStr_zstd]
    rfl
  · show acceptedOf (some "gzip") = [CompressionAlgorithm.gzip]
    rw [acceptedOf, Option.elim_some, gzip, List.map_singleton, fromStr_gzip]
    rfl
  · show acceptedOf (some (",".intercalate ["gzip", "zstd"])) = [CompressionAlgorithm.gzip, .zstd]
    rw [joined, acceptedOf, Option.elim_some, both, List.map_cons, List.map_singleton,
      fromStr_gzip, fromStr_zstd]
    rfl

/-! ## Reading the configuration back -/

omit [RustText] in
/-- A device as the server reads it; the platform goes through its name. -/
structure SameDevice (device parsed : DeviceInfo) : Prop where
  deviceId : parsed.deviceId = device.deviceId
  platform : parsed.platform = .fromStr device.platform.asStr
  model : parsed.model = device.model
  appVersion : parsed.appVersion = device.appVersion
  systemVersion : parsed.systemVersion = device.systemVersion

/-- What the server reads is what the client is configured with. -/
structure ReadsBack (registries : Registries) (config : ClientConfig)
    (negotiation : NegotiationResult) : Prop where
  userId : negotiation.userId = config.userId
  isForced : negotiation.isForced = config.isForceFormat
  compression : CompressionAlgorithm.fromStr config.getCompression.asStr = config.getCompression →
    negotiation.compression = config.getCompression
  format : negotiation.serializationFormat = config.getSerializationFormat
  specified : negotiation.serializationFormatSpecified =
    (config.isForceFormat || config.getSerializationFormat ≠ .json)
  accepted : negotiation.acceptedCompressions = registeredCompressions registries
  device : ∀ device, config.deviceInfo = some device →
    ∃ parsed, negotiation.deviceInfo = some parsed ∧ SameDevice device parsed

omit [RustText] in
/-- The metadata of a device say nothing about its fields but what the fields say. -/
structure FieldsKept (device : DeviceInfo) : Prop where
  deviceId : ∀ text ∈ device.metadata.lookup "device_id", text = device.deviceId
  platform : ∀ text ∈ device.metadata.lookup "platform",
    DevicePlatform.fromStr text = .fromStr device.platform.asStr
  model : ∀ text ∈ device.metadata.lookup "model", some text = device.model
  appVersion : ∀ text ∈ device.metadata.lookup "app_version", some text = device.appVersion
  systemVersion : ∀ text ∈ device.metadata.lookup "system_version",
    some text = device.systemVersion

/-- The metadata of the device say nothing about the fields of CONNECT but what the configuration
says: no user if none is configured, nothing about the format if CONNECT does not send one, and
no text that reads differently. -/
structure DeviceMetadataKeepsFields (registries : Registries) (config : ClientConfig) : Prop where
  userId : config.userId = none → config.deviceText "user_id" = none
  isForced : ∀ text ∈ config.deviceText "force_format",
    decide (text = "true") = config.isForceFormat
  compression : CompressionAlgorithm.fromStr config.getCompression.asStr = config.getCompression →
    ∀ text ∈ config.deviceText "compression",
      CompressionAlgorithm.fromStr text = config.getCompression
  format : ∀ text ∈ config.deviceText "format",
    formatOf (some text) = (config.getSerializationFormat, config.sendsFormat)
  accepted : ∀ text ∈ config.deviceText "accept_compression",
    acceptedOf (some text) = registeredCompressions registries
  device : ∀ device, config.deviceInfo = some device → FieldsKept device

omit [RustText] in
/-- The extra metadata of the configuration use none of the keys of CONNECT. -/
def ClientConfig.ExtraMetadataFree (config : ClientConfig) : Prop :=
  ∀ key ∈ deviceReservedMetadataKeys, config.metadata.lookup key = none

section Fields

variable (registries : Registries) {config : ClientConfig}

omit [RustText] in
theorem text_userId (free : config.ExtraMetadataFree) :
    metadataString (config.buildConnectMetadata registries) "user_id" =
      config.userId.or (config.deviceText "user_id") := by
  have fields : config.fieldText "user_id" = none := by
    simp [ClientConfig.fieldText, ClientConfig.lookup_deviceFields]
  rw [config.metadataString_buildConnectMetadata registries (free _ (by decide)) (by decide),
    if_pos rfl, fields, config.lookup_profileEntries]
  simp

omit [RustText] in
/-- A field of the profile is read unless the metadata of the device have an entry in its
place. -/
theorem text_profile (free : config.ExtraMetadataFree) {key : String}
    (isField : key ∈ ["format", "compression", "accept_compression", "force_format"]) :
    metadataString (config.buildConnectMetadata registries) key =
      (config.deviceText key).or ((config.profileEntries registries).reverse.lookup key) := by
  have reserved : ∀ key ∈ ["format", "compression", "accept_compression", "force_format"],
      key ∈ deviceReservedMetadataKeys ∧ key ≠ "token" ∧ key ≠ "user_id" ∧
        key ∉ ["device_id", "platform", "model", "app_version", "system_version"] := by
    decide
  obtain ⟨isReserved, notToken, notUser, noDevice⟩ := reserved key isField
  have fields : config.fieldText key = none := by
    simp only [List.mem_cons, List.not_mem_nil, or_false, not_or] at noDevice
    simp [ClientConfig.fieldText, ClientConfig.lookup_deviceFields, noDevice]
  rw [config.metadataString_buildConnectMetadata registries (free _ isReserved) notToken,
    if_neg notUser, Option.none_or, fields, Option.none_or]

omit [RustText] in
/-- A field of the device is read unless its metadata have an entry in its place. -/
theorem text_device (free : config.ExtraMetadataFree) {device : DeviceInfo}
    (isDevice : config.deviceInfo = some device) {key : String}
    (isField : key ∈ ["device_id", "platform", "model", "app_version", "system_version"]) :
    metadataString (config.buildConnectMetadata registries) key =
      (device.metadata.lookup key).or ((ClientConfig.deviceFields device).reverse.lookup key) := by
  have reserved : ∀ key ∈ ["device_id", "platform", "model", "app_version", "system_version"],
      key ∈ deviceReservedMetadataKeys ∧ key ≠ "token" ∧ key ≠ "user_id" ∧
        key ∉ ["format", "compression", "accept_compression", "force_format"] := by
    decide
  obtain ⟨isReserved, notToken, notUser, noProfile⟩ := reserved key isField
  have profile : (config.profileEntries registries).reverse.lookup key = none := by
    simp only [List.mem_cons, List.not_mem_nil, or_false, not_or] at noProfile
    simp [ClientConfig.lookup_profileEntries, noProfile]
  rw [config.metadataString_buildConnectMetadata registries (free _ isReserved) notToken,
    if_neg notUser, Option.none_or, profile, Option.or_none, ClientConfig.deviceText,
    ClientConfig.fieldText, isDevice, Option.bind_some, Option.bind_some]

omit [RustText] in
theorem isForced_iff (free : config.ExtraMetadataFree) :
    decide (metadataString (config.buildConnectMetadata registries) "force_format" =
        some "true") = config.isForceFormat ↔
      ∀ text ∈ config.deviceText "force_format", decide (text = "true") = config.isForceFormat := by
  have field : decide ((config.profileEntries registries).reverse.lookup "force_format" =
      some "true") = config.isForceFormat := by
    rw [config.lookup_profileEntries]
    cases config.isForceFormat <;> simp
  rw [text_profile registries free (by decide),
    read_or_iff (fun text => decide (text = some "true")) field (config.deviceText "force_format")]
  simp only [Option.some.injEq]

theorem compression_iff (free : config.ExtraMetadataFree)
    (named : CompressionAlgorithm.fromStr config.getCompression.asStr = config.getCompression) :
    parseCompression (config.buildConnectMetadata registries) = config.getCompression ↔
      ∀ text ∈ config.deviceText "compression",
        CompressionAlgorithm.fromStr text = config.getCompression := by
  have field : compressionOf ((config.profileEntries registries).reverse.lookup "compression") =
      config.getCompression := by
    rw [config.lookup_profileEntries]
    by_cases none : config.getCompression = .none
    · simp [none, compressionOf]
    · simp [none, compressionOf, named]
  show compressionOf _ = _ ↔ _
  rw [text_profile registries free (by decide), read_or_iff compressionOf field]
  rfl

omit [RustText] in
theorem format_iff (free : config.ExtraMetadataFree) :
    parseSerializationFormat (config.buildConnectMetadata registries) =
        (config.getSerializationFormat, config.sendsFormat) ↔
      ∀ text ∈ config.deviceText "format",
        formatOf (some text) = (config.getSerializationFormat, config.sendsFormat) := by
  have field : formatOf ((config.profileEntries registries).reverse.lookup "format") =
      (config.getSerializationFormat, config.sendsFormat) := by
    rw [config.lookup_profileEntries]
    cases sends : config.sendsFormat with
    | true => simp [formatOf_formatName]
    | false =>
        have json : config.getSerializationFormat = .json := by
          simpa using (Bool.or_eq_false_iff.mp sends).2
        simp [json, formatOf]
  rw [parseSerializationFormat_eq, text_profile registries free (by decide),
    read_or_iff formatOf field]

theorem accepted_iff (free : config.ExtraMetadataFree) :
    parseAcceptedCompressions (config.buildConnectMetadata registries) =
        registeredCompressions registries ↔
      ∀ text ∈ config.deviceText "accept_compression",
        acceptedOf (some text) = registeredCompressions registries := by
  have field : acceptedOf ((config.profileEntries registries).reverse.lookup
      "accept_compression") = registeredCompressions registries := by
    rw [config.lookup_profileEntries, ← acceptedOf_acceptedCompressions]
    simp
  rw [parseAcceptedCompressions_eq, text_profile registries free (by decide),
    read_or_iff acceptedOf field]

omit [RustText] in
theorem userId_iff (free : config.ExtraMetadataFree) :
    metadataString (config.buildConnectMetadata registries) "user_id" = config.userId ↔
      (config.userId = none → config.deviceText "user_id" = none) := by
  rw [text_userId registries free]
  cases config.userId <;> simp

omit [RustText] in
theorem device_iff (free : config.ExtraMetadataFree) {device : DeviceInfo}
    (isDevice : config.deviceInfo = some device) :
    (∃ parsed, parseDeviceInfo (config.buildConnectMetadata registries) = some parsed ∧
      SameDevice device parsed) ↔ FieldsKept device := by
  have text : ∀ key, key ∈ ["device_id", "platform", "model", "app_version", "system_version"] →
      metadataString (config.buildConnectMetadata registries) key =
        (device.metadata.lookup key).or
          ((ClientConfig.deviceFields device).reverse.lookup key) :=
    fun _ => text_device registries free isDevice
  have deviceId : (ClientConfig.deviceFields device).reverse.lookup "device_id" =
      some device.deviceId := by
    simp [ClientConfig.lookup_deviceFields]
  have platform : (ClientConfig.deviceFields device).reverse.lookup "platform" =
      some device.platform.asStr := by
    simp [ClientConfig.lookup_deviceFields]
  have model : (ClientConfig.deviceFields device).reverse.lookup "model" = device.model := by
    simp [ClientConfig.lookup_deviceFields]
  have appVersion : (ClientConfig.deviceFields device).reverse.lookup "app_version" =
      device.appVersion := by
    simp [ClientConfig.lookup_deviceFields]
  have systemVersion : (ClientConfig.deviceFields device).reverse.lookup "system_version" =
      device.systemVersion := by
    simp [ClientConfig.lookup_deviceFields]
  unfold parseDeviceInfo
  rw [text "device_id" (by decide), text "platform" (by decide), text "model" (by decide),
    text "app_version" (by decide), text "system_version" (by decide), deviceId, platform, model,
    appVersion, systemVersion]
  have texts : ∀ (text field : Option String),
      text.or field = field ↔ ∀ value ∈ text, some value = field :=
    fun text field => read_or_iff (fun text => text) rfl text
  have platforms := read_or_iff
    (fun text : Option String => (text.map DevicePlatform.fromStr).getD (.other "unknown"))
    (by rw [Option.map_some, Option.getD_some] :
      ((some device.platform.asStr).map DevicePlatform.fromStr).getD (.other "unknown") = _)
    (device.metadata.lookup "platform")
  simp only [Option.map_some, Option.getD_some] at platforms
  obtain ⟨deviceId, isId⟩ : ∃ deviceId,
      (device.metadata.lookup "device_id").or (some device.deviceId) = some deviceId := by
    cases device.metadata.lookup "device_id" <;> exact ⟨_, rfl⟩
  have ids := texts (device.metadata.lookup "device_id") (some device.deviceId)
  simp only [isId, Option.some.injEq] at ids
  rw [isId, Option.map_some]
  constructor
  · rintro ⟨parsed, isParsed, same⟩
    obtain rfl := Option.some.inj isParsed
    obtain ⟨deviceId, platform, model, appVersion, systemVersion⟩ := same
    dsimp only at deviceId platform model appVersion systemVersion
    exact ⟨ids.mp deviceId, platforms.mp platform, (texts _ _).mp model,
      (texts _ _).mp appVersion, (texts _ _).mp systemVersion⟩
  · intro kept
    refine ⟨_, rfl, ?_⟩
    constructor <;> dsimp only
    · exact ids.mpr kept.deviceId
    · exact platforms.mpr kept.platform
    · exact (texts _ _).mpr kept.model
    · exact (texts _ _).mpr kept.appVersion
    · exact (texts _ _).mpr kept.systemVersion

/-- **A server reads off CONNECT what the client is configured with exactly if the metadata of
the device leave the fields of CONNECT alone**, whatever else they and the configuration
contain. -/
theorem reads_back_iff (free : config.ExtraMetadataFree) (stamp : Stamp) :
    ReadsBack registries config (parseConnectMessage (config.connectFrame registries stamp)) ↔
      DeviceMetadataKeepsFields registries config := by
  have isSystem : systemCommand (config.connectFrame registries stamp) =
      some (.connect .json (config.buildConnectMetadata registries)) := rfl
  have formats := format_iff registries free
  rw [Prod.ext_iff] at formats
  have carried : (SystemCommand.connect .json (config.buildConnectMetadata registries)).metadata =
      config.buildConnectMetadata registries := rfl
  rw [parseConnectMessage_of_connect isSystem rfl, carried]
  constructor
  · rintro ⟨userId, isForced, compression, format, specified, accepted, device⟩
    dsimp only at userId isForced compression format specified accepted device
    exact {
      userId := (userId_iff registries free).mp userId
      isForced := (isForced_iff registries free).mp isForced
      compression := fun named => (compression_iff registries free named).mp (compression named)
      format := formats.mp ⟨format, specified⟩
      accepted := (accepted_iff registries free).mp accepted
      device := fun _ isDevice => (device_iff registries free isDevice).mp (device _ isDevice) }
  · rintro ⟨userId, isForced, compression, format, accepted, device⟩
    constructor <;> dsimp only
    · exact (userId_iff registries free).mpr userId
    · exact (isForced_iff registries free).mpr isForced
    · exact fun named => (compression_iff registries free named).mpr (compression named)
    · exact (formats.mpr format).1
    · exact (formats.mpr format).2
    · exact (accepted_iff registries free).mpr accepted
    · exact fun _ isDevice => (device_iff registries free isDevice).mpr (device _ isDevice)

/-- Metadata that use none of the keys of CONNECT leave its fields alone. -/
theorem keepsFields_of_free
    (free : ∀ key ∈ deviceReservedMetadataKeys, config.deviceText key = none) :
    DeviceMetadataKeepsFields registries config := by
  have absent : ∀ {key : String} {property : String → Prop}, key ∈ deviceReservedMetadataKeys →
      ∀ text ∈ config.deviceText key, property text := by
    intro key property reserved text member
    rw [free key reserved] at member
    exact absurd member (Option.not_mem_none text)
  have absentOf : ∀ {device : DeviceInfo} {key : String} {property : String → Prop},
      config.deviceInfo = some device → key ∈ deviceReservedMetadataKeys →
        ∀ text ∈ device.metadata.lookup key, property text := by
    intro device key property isDevice reserved text member
    have said : config.deviceText key = device.metadata.lookup key := by
      rw [ClientConfig.deviceText, isDevice, Option.bind_some]
    exact absent reserved text (said ▸ member)
  exact {
    userId := fun _ => free _ (by decide)
    isForced := absent (by decide)
    compression := fun _ => absent (by decide)
    format := absent (by decide)
    accepted := absent (by decide)
    device := fun _ isDevice => ⟨absentOf isDevice (by decide), absentOf isDevice (by decide),
      absentOf isDevice (by decide), absentOf isDevice (by decide),
      absentOf isDevice (by decide)⟩ }

end Fields

end Reading

section Tablet

open scoped AsciiText

/-- A client that prefers protobuf, on a device with one entry of metadata. -/
def tabletConfig (key value : String) : ClientConfig where
  serializationFormat := .protobuf
  compression := .none
  forceSerializationFormat := none
  forceCompression := none
  deviceInfo := some ⟨"device-1", .android, some "Pad", some "1.0", none,
    (∅ : StringMap String).insert key value⟩
  userId := some "alice"
  token := none
  metadata := ∅

/-- An entry under a key of its own is harmless. -/
theorem reads_back_iff_color :
    (tabletConfig "color" "red").ExtraMetadataFree ∧
      ReadsBack (builtinRegistries []) (tabletConfig "color" "red") (parseConnectMessage
        ((tabletConfig "color" "red").connectFrame (builtinRegistries []) ⟨"connect", 0⟩)) :=
  ⟨fun _ _ => rfl, (reads_back_iff (builtinRegistries []) (fun _ _ => rfl) ⟨"connect", 0⟩).mpr
    (keepsFields_of_free _ (by decide))⟩

/-- **An entry under `format` makes the server read JSON off the CONNECT of a client that is
configured for protobuf.** -/
theorem device_metadata_replaces_format :
    (tabletConfig "format" "tablet").ExtraMetadataFree ∧
      ¬ReadsBack (builtinRegistries []) (tabletConfig "format" "tablet") (parseConnectMessage
        ((tabletConfig "format" "tablet").connectFrame (builtinRegistries [])
          ⟨"connect", 0⟩)) := by
  refine ⟨fun _ _ => rfl, fun read => ?_⟩
  have json : (parseConnectMessage ((tabletConfig "format" "tablet").connectFrame
      (builtinRegistries []) ⟨"connect", 0⟩)).serializationFormat = .json := by
    decide +kernel
  exact absurd (json.symm.trans read.format) (by decide)

end Tablet

end FlareCore.Client
