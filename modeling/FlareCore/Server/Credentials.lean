import FlareCore.Server.Identity

/-!
# Where the token of a CONNECT goes

The token is one of the entries of CONNECT's metadata, beside those that name the format, the
user and the device.  Parsing the device keeps every readable entry that is not on a list of
reserved keys, and the token is not on that list.  It becomes part of the device, and the device
is written into the connection's information and into the device registry.

Two CONNECT frames that differ in nothing but the token, and get the same answer from the
authenticator, therefore leave the same records behind exactly if no record of the device is
written, or the two tokens read the same (`same_records_iff`).
-/

namespace FlareCore.Server

open FlareCore.Common FlareCore.Foundations

set_option autoImplicit false

/-! ## Metadata with and without a token -/

/-- The entries of some metadata, with a token or without one. -/
def entriesWith (before after : List (Sigma fun _ : String => Bytes)) (token : Option Bytes) :
    List (Sigma fun _ : String => Bytes) :=
  before ++ ((token.toList.map fun token => ⟨"token", token⟩) ++ after)

/-- The same entries but for the token, which each of the two may have or not. -/
def SameEntriesButToken (metadata metadata' : StringMap Bytes) : Prop :=
  ∃ before after token token', "token" ∉ List.keys before ∧ "token" ∉ List.keys after ∧
    metadata.entries = entriesWith before after token ∧
    metadata'.entries = entriesWith before after token'

/-- Two CONNECT frames that differ in nothing but the token in their metadata. -/
structure SameButToken (first second : Frame) (command : SystemCommand)
    (metadata : StringMap Bytes) : Prop where
  isConnect : command.type = SystemType.connect.toInt32
  first_command : first.command = some ⟨some (.system command)⟩
  second_eq : second =
    { first with command := some ⟨some (.system { command with metadata := metadata })⟩ }
  same : SameEntriesButToken command.metadata metadata

theorem dlookup_entriesWith_of_ne (before after : List (Sigma fun _ : String => Bytes))
    (token : Option Bytes) {key : String} (other : key ≠ "token") :
    (entriesWith before after token).dlookup key =
      (before.dlookup key).or (after.dlookup key) := by
  cases token with
  | none => exact List.dlookup_append before after key
  | some token =>
      rw [entriesWith, List.dlookup_append]
      exact congrArg _ (List.dlookup_cons_ne _ _ other)

theorem dlookup_entriesWith_token {before after : List (Sigma fun _ : String => Bytes)}
    (notBefore : "token" ∉ List.keys before) (notAfter : "token" ∉ List.keys after)
    (token : Option Bytes) : (entriesWith before after token).dlookup "token" = token := by
  rw [entriesWith, List.dlookup_append, List.dlookup_eq_none.mpr notBefore, Option.none_or]
  cases token with
  | none => exact List.dlookup_eq_none.mpr notAfter
  | some token => exact List.dlookup_cons_eq ..

/-! ## The device of a CONNECT -/

/-- What an entry of CONNECT's metadata adds to the metadata of the device. -/
def keepReadable (device : StringMap String) (entry : Sigma fun _ : String => Bytes) :
    StringMap String :=
  match fromUtf8 entry.2 with
  | some value => device.insert entry.1 value
  | none => device

theorem deviceMetadata_eq (metadata : StringMap Bytes) :
    deviceMetadata metadata = (metadata.entries.filter fun entry =>
      entry.1 ∉ deviceReservedMetadataKeys).foldl keepReadable ∅ :=
  rfl

theorem lookup_keepReadable_of_ne {key : String} {entry : Sigma fun _ : String => Bytes}
    (other : key ≠ entry.1) (device : StringMap String) :
    (keepReadable device entry).lookup key = device.lookup key := by
  unfold keepReadable
  split
  · exact AList.lookup_insert_ne other
  · rfl

theorem lookup_foldl_keepReadable (entries : List (Sigma fun _ : String => Bytes))
    (distinct : entries.NodupKeys) (device : StringMap String) (key : String) :
    (entries.foldl keepReadable device).lookup key =
      ((entries.dlookup key).bind fromUtf8).or (device.lookup key) := by
  induction entries generalizing device with
  | nil => rfl
  | cons entry entries inductionHypothesis =>
      obtain ⟨fresh, rest⟩ := List.nodupKeys_cons.mp distinct
      rw [List.foldl_cons, inductionHypothesis rest]
      by_cases same : key = entry.1
      · subst same
        rw [List.dlookup_cons_eq, List.dlookup_eq_none.mpr fresh, Option.bind_none,
          Option.none_or, Option.bind_some, keepReadable]
        cases fromUtf8 entry.2 with
        | none => rfl
        | some value => exact AList.lookup_insert _
      · rw [List.dlookup_cons_ne _ _ same, lookup_keepReadable_of_ne same]

theorem dlookup_filter {key : String} (keep : String → Bool) (kept : keep key = true)
    (entries : List (Sigma fun _ : String => Bytes)) :
    (entries.filter fun entry => keep entry.1).dlookup key = entries.dlookup key := by
  induction entries with
  | nil => rfl
  | cons entry entries inductionHypothesis =>
      by_cases same : key = entry.1
      · subst same
        rw [List.filter_cons, if_pos kept, List.dlookup_cons_eq, List.dlookup_cons_eq]
      · rw [List.dlookup_cons_ne _ _ same, ← inductionHypothesis, List.filter_cons]
        split_ifs
        · rw [List.dlookup_cons_ne _ _ same]
        · rfl

/-- The device keeps every readable entry that is not reserved. -/
theorem lookup_deviceMetadata (metadata : StringMap Bytes) {key : String}
    (free : key ∉ deviceReservedMetadataKeys) :
    (deviceMetadata metadata).lookup key = metadataString metadata key := by
  have distinct : (metadata.entries.filter fun entry =>
      entry.1 ∉ deviceReservedMetadataKeys).NodupKeys :=
    List.NodupKeys.sublist List.filter_sublist metadata.nodupKeys
  rw [deviceMetadata_eq, lookup_foldl_keepReadable _ distinct, AList.lookup_empty, Option.or_none,
    dlookup_filter (fun key => decide (key ∉ deviceReservedMetadataKeys)) (decide_eq_true free)]
  rfl

section Parsing

variable {metadata metadata' : StringMap Bytes}

theorem SameEntriesButToken.metadataString_eq (same : SameEntriesButToken metadata metadata')
    {key : String} (other : key ≠ "token") :
    metadataString metadata key = metadataString metadata' key := by
  obtain ⟨before, after, token, token', -, -, first, second⟩ := same
  have found : metadata.lookup key = metadata'.lookup key := by
    rw [AList.lookup, AList.lookup, first, second, dlookup_entriesWith_of_ne _ _ _ other,
      dlookup_entriesWith_of_ne _ _ _ other]
  rw [metadataString, metadataString, found]

/-- Tokens that read the same leave the same device. -/
theorem SameEntriesButToken.deviceMetadata_eq_of_text
    (same : SameEntriesButToken metadata metadata')
    (text : metadataString metadata "token" = metadataString metadata' "token") :
    deviceMetadata metadata = deviceMetadata metadata' := by
  obtain ⟨before, after, token, token', notBefore, notAfter, first, second⟩ := same
  have tokens : token.bind fromUtf8 = token'.bind fromUtf8 := by
    have lookup := dlookup_entriesWith_token notBefore notAfter
    rwa [metadataString, metadataString, AList.lookup, AList.lookup, first, second, lookup,
      lookup] at text
  have kept : ∀ (device : StringMap String) (token : Option Bytes),
      ((token.toList.map fun token => (⟨"token", token⟩ : Sigma fun _ : String => Bytes)).filter
        fun entry => entry.1 ∉ deviceReservedMetadataKeys).foldl keepReadable device =
      ((token.bind fromUtf8).elim device fun value => device.insert "token" value) := by
    intro device token
    cases token with
    | none => rfl
    | some token =>
        show keepReadable device ⟨"token", token⟩ = _
        unfold keepReadable
        rw [Option.bind_some]
        cases fromUtf8 token <;> rfl
  rw [deviceMetadata_eq, deviceMetadata_eq, first, second, entriesWith, entriesWith]
  simp only [List.filter_append, List.foldl_append]
  rw [kept, kept, tokens]

variable {first second : Frame} {command : SystemCommand}

theorem SameButToken.systemCommand_first (related : SameButToken first second command metadata) :
    systemCommand first = some command := by
  rw [systemCommand, Frame.commandType, related.first_command]
  rfl

theorem SameButToken.systemCommand_second (related : SameButToken first second command metadata) :
    systemCommand second = some { command with metadata := metadata } := by
  rw [related.second_eq]
  rfl

theorem SameEntriesButToken.parseDeviceInfo_eq (same : SameEntriesButToken metadata metadata') :
    parseDeviceInfo metadata' = (parseDeviceInfo metadata).map fun device =>
      { device with metadata := deviceMetadata metadata' } := by
  have text : ∀ key, key ≠ "token" →
      metadataString metadata' key = metadataString metadata key :=
    fun _ other => (same.metadataString_eq other).symm
  unfold parseDeviceInfo
  rw [text "device_id" (by decide), text "platform" (by decide), text "model" (by decide),
    text "app_version" (by decide), text "system_version" (by decide), Option.map_map]
  rfl

/-- The devices of the two are the same exactly if there is none or the tokens read the same. -/
theorem SameEntriesButToken.parseDeviceInfo_eq_iff
    (same : SameEntriesButToken metadata metadata') :
    parseDeviceInfo metadata' = parseDeviceInfo metadata ↔
      ((parseDeviceInfo metadata).isSome →
        metadataString metadata "token" = metadataString metadata' "token") := by
  rw [same.parseDeviceInfo_eq]
  constructor
  · intro devices named
    obtain ⟨device, isDevice⟩ := Option.isSome_iff_exists.mp named
    obtain ⟨deviceId, -, rfl⟩ := Option.map_eq_some_iff.mp isDevice
    rw [isDevice, Option.map_some] at devices
    have kept : deviceMetadata metadata' = deviceMetadata metadata :=
      congrArg DeviceInfo.metadata (Option.some.inj devices)
    rw [← lookup_deviceMetadata metadata (by decide), ← kept, lookup_deviceMetadata _ (by decide)]
  · intro text
    cases isDevice : parseDeviceInfo metadata with
    | none => rfl
    | some device =>
        have kept := same.deviceMetadata_eq_of_text (text (by rw [isDevice, Option.isSome_some]))
        obtain ⟨deviceId, -, rfl⟩ := Option.map_eq_some_iff.mp isDevice
        rw [Option.map_some, ← kept]

theorem SameButToken.extractTokenFromFrame_first
    (related : SameButToken first second command metadata) :
    ServerCore.extractTokenFromFrame first = metadataString command.metadata "token" := by
  rw [ServerCore.extractTokenFromFrame, related.systemCommand_first, Option.bind_some]

theorem SameButToken.extractTokenFromFrame_second
    (related : SameButToken first second command metadata) :
    ServerCore.extractTokenFromFrame second = metadataString metadata "token" := by
  rw [ServerCore.extractTokenFromFrame, related.systemCommand_second, Option.bind_some]

variable [RustText]

/-- The token shows in nothing but the device. -/
theorem SameButToken.parseConnectMessage_eq
    (related : SameButToken first second command metadata) :
    parseConnectMessage second =
      { parseConnectMessage first with deviceInfo := parseDeviceInfo metadata } := by
  have text : ∀ key, key ≠ "token" →
      metadataString metadata key = metadataString command.metadata key :=
    fun _ other => (related.same.metadataString_eq other).symm
  rw [parseConnectMessage_of_connect related.systemCommand_first related.isConnect,
    parseConnectMessage_of_connect related.systemCommand_second related.isConnect]
  simp only [parseSerializationFormat, parseCompression, parseAcceptedCompressions,
    parseEncryption, text "format" (by decide), text "compression" (by decide),
    text "accept_compression" (by decide), text "encryption" (by decide),
    text "force_format" (by decide), text "user_id" (by decide), text "tenant_id" (by decide)]

end Parsing

/-! ## The same records -/

section Records

variable [RustText] {core : ServerCore} {connectionId : String} {now : Instant}
  {first second : Frame} {command : SystemCommand} {metadata : StringMap Bytes}

/-- The authenticator says the same to both frames, if it is asked at all. -/
def ServerCore.SameAnswer (core : ServerCore) (first second : Frame) (connectionId : String)
    (now : Instant) : Prop :=
  core.authEnabled = true →
    core.answerTo first connectionId now = core.answerTo second connectionId now

theorem SameButToken.authenticateConnection_eq
    (related : SameButToken first second command metadata)
    (sameAnswer : core.SameAnswer first second connectionId now) :
    core.authenticateConnection second connectionId (parseConnectMessage second) now =
      core.authenticateConnection first connectionId (parseConnectMessage first) now := by
  by_cases enabled : core.authEnabled = true
  · rw [ServerCore.authenticateConnection_eq enabled, ServerCore.authenticateConnection_eq enabled,
      sameAnswer enabled]
  · rw [ServerCore.authenticateConnection, if_neg enabled, ServerCore.authenticateConnection,
      if_neg enabled, related.parseConnectMessage_eq]
    rfl

variable [Hashing] {registries : Registries} {stamps : String → Stamp}

/-- The same connections, the same devices and the same answer. -/
structure SameRecords (first second : ServerState × Result (Frame × MessageParser)) : Prop where
  connections : ∀ id,
    first.1.manager.connections.get id = second.1.manager.connections.get id
  devices : first.1.devices = second.1.devices
  answer : first.2 = second.2

omit [RustText] in
theorem ConnectionManager.updateConnection_of_absent {manager : ConnectionManager} {id : String}
    (absent : manager.connections.get id = none) (update : InfoUpdate) (now : Instant) :
    (manager.updateConnection id update now).1 = manager := by
  unfold updateConnection
  rw [absent]

omit [RustText] in
/-- A connection that is not there has no identity to write. -/
theorem ConnectionManager.identified_of_absent {manager : ConnectionManager}
    (absent : manager.connections.get connectionId = none) (negotiation : NegotiationResult)
    (profile : Profile) (identity : ConnectionIdentity) :
    manager.identified connectionId negotiation profile identity now = manager := by
  have informed : manager.updateConnectionInfo connectionId negotiation profile identity now =
      manager := updateConnection_of_absent absent _ now
  rw [identified, informed]
  exact updateConnection_of_absent absent _ now

omit [RustText] in
/-- The device of the CONNECT is in the connection's information. -/
theorem ConnectionManager.deviceInfo_identified {manager : ConnectionManager}
    {entry : ConnectionEntry} (found : manager.connections.get connectionId = some entry)
    (negotiation : NegotiationResult) (profile : Profile) (identity : ConnectionIdentity) :
    ((manager.identified connectionId negotiation profile identity now).connections.get
      connectionId).bind (fun entry => entry.info.deviceInfo) = negotiation.deviceInfo := by
  have informed := get_updateConnection found (.negotiation
    ⟨negotiation.deviceInfo, profile.format, profile.compression, profile.encryption,
      identity.userId⟩ identity.connectionMetadata) now
  have marked := get_updateConnection informed (.setAuthenticated identity.userId) now
  exact congrArg (Option.bind · fun entry => entry.info.deviceInfo) marked

namespace ServerState

/-- What an accepted CONNECT leads to. -/
def accept (registries : Registries) (core : ServerCore) (stamps : String → Stamp)
    (state : ServerState) (connectionId : String) (negotiation : NegotiationResult)
    (identity : ConnectionIdentity) (now : Instant) :
    ServerState × Result (Frame × MessageParser) :=
  let profile := core.determineNegotiationResult negotiation
  let (state, conflicts) := handleDeviceConflict registries stamps
    { state with
      manager := state.manager.identified connectionId negotiation profile identity now }
    connectionId negotiation identity.deviceOwner
  (state, .ok (ServerCore.createConnectAckFrame registries (stamps connectionId) profile
    conflicts, profile.parser))

theorem handleConnectMessage_eq_accept (state : ServerState) (frame : Frame) :
    state.handleConnectMessage registries core stamps frame connectionId now =
      match core.authenticateConnection frame connectionId (parseConnectMessage frame) now with
      | .error error => (state, .error error)
      | .ok identity =>
          state.accept registries core stamps connectionId (parseConnectMessage frame) identity
            now :=
  rfl

/-- The registry's record of the device on a connection. -/
def deviceRecord (state : ServerState) (owner : DeviceOwner) (connectionId : String) :
    Option UserDevice :=
  state.devices.bind fun devices => devices.registration owner connectionId

theorem deviceRecord_kickConflict (owner : DeviceOwner) (device : DeviceInfo)
    (state : ServerState) (victim : String) :
    (kickConflict registries stamps owner device connectionId state victim).deviceRecord owner
      connectionId = state.deviceRecord owner connectionId := by
  unfold kickConflict
  split_ifs with same
  · rfl
  · split
    · rfl
    · dsimp only [deviceRecord]
      cases state.devices with
      | none => rfl
      | some devices =>
          rw [Option.map_some, Option.bind_some, Option.bind_some, DeviceManager.removeDevice_eq]
          split_ifs
          · rw [DeviceManager.registration_unregister, if_neg fun both => same both.2.symm]
          · rfl

theorem deviceRecord_kicks (owner : DeviceOwner) (device : DeviceInfo) (victims : List String)
    (state : ServerState) :
    (victims.foldl (kickConflict registries stamps owner device connectionId)
      state).deviceRecord owner connectionId = state.deviceRecord owner connectionId := by
  induction victims generalizing state with
  | nil => rfl
  | cons victim victims inductionHypothesis =>
      rw [List.foldl_cons, inductionHypothesis, deviceRecord_kickConflict]

/-- The device of the CONNECT is in the registry. -/
theorem deviceRecord_handleDeviceConflict {state : ServerState} (devices : state.devices.isSome)
    {negotiation : NegotiationResult} {device : DeviceInfo}
    (named : negotiation.deviceInfo = some device) (owner : DeviceOwner) :
    (handleDeviceConflict registries stamps state connectionId negotiation
      (some owner)).1.deviceRecord owner connectionId = some ⟨connectionId, device⟩ := by
  obtain ⟨devices, configured⟩ := Option.isSome_iff_exists.mp devices
  unfold handleDeviceConflict
  rw [configured, named]
  dsimp only
  rw [deviceRecord_kicks]
  exact (DeviceManager.registration_addDevice ..).trans (if_pos rfl)

/-- CONNECT writes a record of the device: into the connection's information if the connection
is in the table, and into the device registry if there is one and the device has an owner. -/
def WritesDevice (state : ServerState) (connectionId : String) (identity : ConnectionIdentity) :
    Prop :=
  (state.manager.connections.get connectionId).isSome ∨
    state.devices.isSome ∧ identity.userId.isSome

/-- Without a record to write, the device makes no difference. -/
theorem accept_of_not_writesDevice {state : ServerState} {identity : ConnectionIdentity}
    (unwritten : ¬state.WritesDevice connectionId identity) (negotiation : NegotiationResult)
    (device : Option DeviceInfo) :
    state.accept registries core stamps connectionId { negotiation with deviceInfo := device }
        identity now =
      state.accept registries core stamps connectionId negotiation identity now := by
  obtain ⟨absent, unregistered⟩ := not_or.mp unwritten
  have unregarded : ∀ negotiation : NegotiationResult,
      handleDeviceConflict registries stamps state connectionId negotiation identity.deviceOwner =
        (state, []) := by
    intro negotiation
    unfold handleDeviceConflict
    split
    · next devices device owner configured named owned =>
        refine absurd ⟨by rw [configured, Option.isSome_some], ?_⟩ unregistered
        rw [← Option.isSome_map, ← ConnectionIdentity.deviceOwner, owned, Option.isSome_some]
    · rfl
  have unchanged : ∀ negotiation profile,
      state.manager.identified connectionId negotiation profile identity now = state.manager :=
    fun negotiation profile => ConnectionManager.identified_of_absent
      (Option.not_isSome_iff_eq_none.mp absent) negotiation profile identity
  simp only [accept, unchanged, unregarded]
  rfl

/-- Two devices leave the same records only if none is written or they are the same. -/
theorem device_eq_of_sameRecords {state : ServerState} {identity : ConnectionIdentity}
    {negotiation : NegotiationResult} {device device' : DeviceInfo}
    (written : state.WritesDevice connectionId identity)
    (named : negotiation.deviceInfo = some device)
    (same : SameRecords
      (state.accept registries core stamps connectionId negotiation identity now)
      (state.accept registries core stamps connectionId
        { negotiation with deviceInfo := some device' } identity now)) : device = device' := by
  obtain present | ⟨configured, user⟩ := written
  · obtain ⟨entry, found⟩ := Option.isSome_iff_exists.mp present
    have stored := congrArg (Option.bind · fun entry : ConnectionEntry => entry.info.deviceInfo)
      (same.connections connectionId)
    simp only [accept, get_handleDeviceConflict, ConnectionManager.deviceInfo_identified found,
      named] at stored
    exact Option.some.inj stored
  · obtain ⟨userId, isUser⟩ := Option.isSome_iff_exists.mp user
    have owned : identity.deviceOwner = some (DeviceOwner.new identity.tenantId userId) := by
      rw [ConnectionIdentity.deviceOwner, isUser, Option.map_some]
    have recorded : ∀ {negotiation : NegotiationResult} {device : DeviceInfo},
        negotiation.deviceInfo = some device →
          (state.accept registries core stamps connectionId negotiation identity
            now).1.deviceRecord (DeviceOwner.new identity.tenantId userId) connectionId =
              some ⟨connectionId, device⟩ := by
      intro negotiation device named
      rw [accept, owned]
      refine deviceRecord_handleDeviceConflict ?_ named _
      exact configured
    have stored := congrArg (fun devices : Option DeviceManager => devices.bind fun devices =>
      devices.registration (DeviceOwner.new identity.tenantId userId) connectionId) same.devices
    have same := (recorded named).symm.trans (stored.trans (recorded rfl))
    exact (UserDevice.mk.inj (Option.some.inj same)).2

/-- CONNECT leaves the token in a record: it is accepted, names a device, writes a record of it,
and the token can be read off the record because the two texts differ. -/
structure KeepsToken (core : ServerCore) (state : ServerState) (first second : Frame)
    (connectionId : String) (now : Instant) (identity : ConnectionIdentity) : Prop where
  accepted : core.authenticateConnection first connectionId (parseConnectMessage first) now =
    .ok identity
  named : (parseConnectMessage first).deviceInfo.isSome
  written : state.WritesDevice connectionId identity
  different : ServerCore.extractTokenFromFrame first ≠ ServerCore.extractTokenFromFrame second

end ServerState

/-- **Two CONNECT frames that differ only in their token, and get the same answer from the
authenticator, leave the same records behind exactly if the token is kept in none**: CONNECT is
rejected, names no device or has no record to write it to, or the two tokens read the same. -/
theorem same_records_iff (state : ServerState)
    (related : SameButToken first second command metadata)
    (sameAnswer : core.SameAnswer first second connectionId now) :
    SameRecords (state.handleConnectMessage registries core stamps first connectionId now)
        (state.handleConnectMessage registries core stamps second connectionId now) ↔
      ∀ identity, ¬state.KeepsToken core first second connectionId now identity := by
  rw [ServerState.handleConnectMessage_eq_accept, ServerState.handleConnectMessage_eq_accept,
    related.authenticateConnection_eq sameAnswer, related.parseConnectMessage_eq]
  have named : (parseConnectMessage first).deviceInfo = parseDeviceInfo command.metadata := by
    rw [parseConnectMessage_of_connect related.systemCommand_first related.isConnect]
  have device_iff := related.same.parseDeviceInfo_eq_iff
  rw [← related.extractTokenFromFrame_first, ← related.extractTokenFromFrame_second] at device_iff
  constructor
  · rintro same identity ⟨accepted, hasDevice, written, different⟩
    rw [accepted] at same
    obtain ⟨device, isDevice⟩ := Option.isSome_iff_exists.mp (named ▸ hasDevice)
    have devices := related.same.parseDeviceInfo_eq
    rw [isDevice, Option.map_some] at devices
    rw [devices] at same
    have kept := ServerState.device_eq_of_sameRecords written (named.trans isDevice) same
    have unchanged : parseDeviceInfo metadata = parseDeviceInfo command.metadata := by
      rw [devices, ← kept, isDevice]
    exact different (device_iff.mp unchanged (named ▸ hasDevice))
  · intro unkept
    cases accepted : core.authenticateConnection first connectionId (parseConnectMessage first)
        now with
    | error error => exact ⟨fun _ => rfl, rfl, rfl⟩
    | ok identity =>
        dsimp only
        suffices same : state.accept registries core stamps connectionId
            { parseConnectMessage first with deviceInfo := parseDeviceInfo metadata } identity
              now = state.accept registries core stamps connectionId (parseConnectMessage first)
                identity now by
          rw [same]
          exact ⟨fun _ => rfl, rfl, rfl⟩
        by_cases written : state.WritesDevice connectionId identity
        · have unchanged : parseDeviceInfo metadata = parseDeviceInfo command.metadata := by
            refine device_iff.mpr fun hasDevice => ?_
            by_contra different
            exact unkept identity ⟨accepted, named ▸ hasDevice, written, different⟩
          rw [unchanged, ← named]
        · exact ServerState.accept_of_not_writesDevice written _ _

end Records

section Tokens

open scoped SingleShard AsciiText

/-- A server that takes any token for one of `alice`. -/
def tolerantCore : ServerCore :=
  { guardedCore with
    authenticator := some fun _ _ _ _ _ => .ok ⟨true, some "alice", none, none, false⟩ }

/-- A CONNECT with a token, which names a device or does not. -/
def connectWith (token : String) (device : Option String) : SystemCommand :=
  let metadata := (∅ : StringMap Bytes).insert "token" (utf8 token)
  .connect .json (device.elim metadata fun device => metadata.insert "device_id" (utf8 device))

def connectFrameWith (token : String) (device : Option String) : Frame :=
  .withSystemCommand ⟨"connect", 0⟩ (connectWith token device) .atLeastOnce

theorem sameButToken_connectFrameWith (token token' : String) (device : Option String) :
    SameButToken (connectFrameWith token device) (connectFrameWith token' device)
      (connectWith token device) (connectWith token' device).metadata where
  isConnect := rfl
  first_command := rfl
  second_eq := rfl
  same := by
    cases device with
    | none => exact ⟨[], [], utf8 token, utf8 token', by decide, by decide, rfl, rfl⟩
    | some device =>
        exact ⟨[⟨"device_id", utf8 device⟩], [], utf8 token, utf8 token', by simp [List.keys],
          by decide, rfl, rfl⟩

/-- A CONNECT that names no device leaves nothing of its token behind. -/
theorem same_records_iff_without_device :
    ServerCore.extractTokenFromFrame (connectFrameWith "red" none) ≠
        ServerCore.extractTokenFromFrame (connectFrameWith "blue" none) ∧
      SameRecords
        (newcomer.handleConnectMessage (builtinRegistries []) tolerantCore
          (fun _ => ⟨"frame", 0⟩) (connectFrameWith "red" none) "a" 1)
        (newcomer.handleConnectMessage (builtinRegistries []) tolerantCore
          (fun _ => ⟨"frame", 0⟩) (connectFrameWith "blue" none) "a" 1) := by
  refine ⟨by decide +kernel, (same_records_iff newcomer
    (sameButToken_connectFrameWith "red" "blue" none) (fun _ => rfl)).mpr ?_⟩
  rintro identity ⟨-, named, -, -⟩
  exact absurd named (by decide +kernel)

/-- **The token of a CONNECT that names a device is in the connection's information
afterwards.** -/
theorem token_kept_in_records :
    SameButToken (connectFrameWith "red" (some "phone")) (connectFrameWith "blue" (some "phone"))
        (connectWith "red" (some "phone")) (connectWith "blue" (some "phone")).metadata ∧
      tolerantCore.SameAnswer (connectFrameWith "red" (some "phone"))
        (connectFrameWith "blue" (some "phone")) "a" 1 ∧
      ¬SameRecords
        (newcomer.handleConnectMessage (builtinRegistries []) tolerantCore
          (fun _ => ⟨"frame", 0⟩) (connectFrameWith "red" (some "phone")) "a" 1)
        (newcomer.handleConnectMessage (builtinRegistries []) tolerantCore
          (fun _ => ⟨"frame", 0⟩) (connectFrameWith "blue" (some "phone")) "a" 1) := by
  refine ⟨sameButToken_connectFrameWith .., fun _ => rfl, fun same => ?_⟩
  have kept := congrArg (fun entry => entry.bind fun entry : ConnectionEntry =>
    entry.info.deviceInfo.bind fun device => device.metadata.lookup "token")
    (same.connections "a")
  revert kept
  decide +kernel

end Tokens

end FlareCore.Server
