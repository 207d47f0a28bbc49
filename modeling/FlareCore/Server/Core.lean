import FlareCore.Server.Connection.Sending
import FlareCore.Server.Negotiation

/-!
# The server core

`ServerCore` answers CONNECT.  It settles on a profile from what the client asks for and its
own defaults, has the token checked, writes identity and profile into the connection's
information, marks the connection authenticated, registers the device, kicks the connections
that the device displaces, and builds the acknowledgement.  Only after the acknowledgement has
been sent is the profile stored a second time and the negotiation marked as completed.

The authenticator belongs to the application, and its answer may depend on the moment.  The
parts are stated one by one; `handleConnectMessage` is their composition when nothing else
happens in between, and the runtime performs them one at a time.
-/

namespace FlareCore.Server

open FlareCore.Common FlareCore.Foundations

set_option autoImplicit false

/-! ## Configuration -/

structure AuthResult where
  authenticated : Bool
  userId : Option String
  errorMessage : Option String
  userMetadata : Option (StringMap String)
  retryable : Bool

def AuthResult.tenantId (result : AuthResult) : Option String :=
  result.userMetadata.bind fun metadata => metadata.lookup "tenant_id"

/-- What the application's authenticator says, at a moment, to a token, the connection id, the
device and the metadata of CONNECT. -/
abbrev Authenticator :=
  Instant → String → String → Option DeviceInfo → Option (StringMap Bytes) → Result AuthResult

structure ServerCore where
  defaultSerializationFormat : SerializationFormat
  defaultCompression : CompressionAlgorithm
  defaultEncryption : EncryptionAlgorithm
  authConfigured : Bool
  authenticator : Option Authenticator
  /-- `pipeline_for_negotiation_profile`: pipelines are cached by profile. -/
  pipelineForNegotiationProfile : Profile → Option Pipeline

/-- Who is behind a connection. -/
structure ConnectionIdentity where
  userId : Option String
  tenantId : Option String
  metadata : Option (StringMap String)

namespace ConnectionIdentity

/-- What the client says about itself. -/
def declared (negotiation : NegotiationResult) : ConnectionIdentity where
  userId := negotiation.userId
  tenantId := negotiation.tenantId
  metadata := some ∅

/-- The tenant is part of the connection's metadata. -/
def connectionMetadata (identity : ConnectionIdentity) : Option (StringMap String) :=
  match identity.tenantId with
  | none => identity.metadata
  | some tenantId => some ((identity.metadata.getD ∅).insert "tenant_id" tenantId)

/-- The owner devices are registered under. -/
def deviceOwner (identity : ConnectionIdentity) : Option DeviceOwner :=
  identity.userId.map (DeviceOwner.new identity.tenantId)

end ConnectionIdentity

namespace ServerCore

variable (core : ServerCore)

def authEnabled : Bool :=
  core.authConfigured && core.authenticator.isSome

/-- `determine_negotiation_result`. -/
def determineNegotiationResult (negotiation : NegotiationResult) : Profile where
  format :=
    if negotiation.isForced || negotiation.serializationFormatSpecified then
      negotiation.serializationFormat
    else core.defaultSerializationFormat
  compression :=
    if negotiation.isForced || negotiation.compression ≠ .none then negotiation.compression
    else if core.defaultCompression ≠ .none ∧
        core.defaultCompression ∈ negotiation.acceptedCompressions then core.defaultCompression
    else .none
  encryption :=
    if negotiation.encryption ≠ .none then negotiation.encryption else core.defaultEncryption

/-! ## Authentication -/

/-- `extract_token_from_frame`. -/
def extractTokenFromFrame (frame : Frame) : Option String :=
  (systemCommand frame).bind fun command => metadataString command.metadata "token"

/-- What `authenticate_connection` makes of the authenticator's answer. -/
def identityOfAnswer : Result AuthResult → Result ConnectionIdentity
  | .error error => .error (.localized .serviceUnavailable ("认证过程出错: " ++ error.text))
  | .ok result =>
      if result.authenticated then
        if (result.userId.filter fun userId => !isBlank userId).isNone then
          .error (.authenticationFailed "认证结果缺少用户")
        else .ok ⟨result.userId, result.tenantId, result.userMetadata⟩
      else if result.retryable then
        .error (.localized .serviceUnavailable (result.errorMessage.getD "认证暂不可用"))
      else .error (.authenticationFailed (result.errorMessage.getD "Token 验证失败"))

/-- `authenticate_connection`. -/
def authenticateConnection (frame : Frame) (connectionId : String)
    (negotiation : NegotiationResult) (now : Instant) : Result ConnectionIdentity :=
  if core.authEnabled then
    match core.authenticator with
    | none => .ok (.declared negotiation)
    | some authenticator =>
        match extractTokenFromFrame frame with
        | none => .error (.authenticationFailed "未提供 token")
        | some token => identityOfAnswer (authenticator now token connectionId
            negotiation.deviceInfo ((systemCommand frame).map SystemCommand.metadata))
  else .ok (.declared negotiation)

/-! ## Frames -/

/-- The acknowledgement, with the connections it displaced. -/
def createConnectAckFrame (registries : Registries) (stamp : Stamp) (profile : Profile)
    (conflictConnections : List String) : Frame :=
  let metadata : StringMap Bytes :=
    if conflictConnections = [] then ∅
    else (∅ : StringMap Bytes).insert "conflict_connections" (utf8 (jsonStrings conflictConnections))
  .withSystemCommand stamp
    (createConnectAck registries profile.format profile.compression profile.encryption metadata)
    .atLeastOnce

/-- `is_typed_reason`. -/
def isTypedReason (reason : String) : Bool :=
  (reason.toList.head?.any fun c => c.isUpper) && decide (reason.utf8ByteSize ≤ 64) &&
    reason.toList.tail.all fun c => c.isUpper || c.isDigit || c = '_'

/-- The text a client is told for an error: a typed reason as it is, else the code. -/
def clientReason (code : ErrorCode) (reason : String) : String :=
  if isTypedReason reason then reason else code.asStr

/-- The ERROR frame of `send_connect_rejection`. -/
def connectRejectionFrame (stamp : Stamp) (code : ErrorCode) (reason : String) : Frame :=
  .withSystemCommand stamp
    (.error (clientReason code reason) ((∅ : StringMap Bytes).insert "code" (utf8 code.asStr)))
    .bestEffort

/-- The rejections of CONNECT that are explained to the client. -/
def explainedCode (error : FlareError) : Option ErrorCode :=
  error.code.filter fun code => code = .authenticationFailed || code = .serviceUnavailable

/-- The KICKED frame of `send_post_ack_rejection`. -/
def postAckRejectionFrame (stamp : Stamp) (error : FlareError) : Frame :=
  let code := error.code.getD .connectionFailed
  let reason := clientReason code error.reason
  .withSystemCommand stamp
    (.kicked reason (((∅ : StringMap Bytes).insert "reason" (utf8 reason)).insert "code"
      (utf8 code.asStr)))
    .bestEffort

end ServerCore

/-- The parser for a device-conflict KICKED: the connection's format and compression, and
no encryption. -/
def ConnectionInfo.kickParser (info : ConnectionInfo) : MessageParser :=
  .new info.serializationFormat info.compression .none

section Core

variable [RustText]

/-- The KICKED frame of a device conflict. -/
def kickFrame (stamp : Stamp) (device : DeviceInfo) : Frame :=
  .withSystemCommand stamp (deviceConflictKicked device.platform device.deviceId) .atLeastOnce

variable [Hashing]

/-! ## The connection's information -/

namespace ConnectionManager

/-- `update_connection_info`: before the acknowledgement, without completing anything. -/
def updateConnectionInfo (manager : ConnectionManager) (connectionId : String)
    (negotiation : NegotiationResult) (profile : Profile) (identity : ConnectionIdentity)
    (now : Instant) : ConnectionManager :=
  (manager.updateConnectionNegotiation connectionId
    ⟨negotiation.deviceInfo, profile.format, profile.compression, profile.encryption,
      identity.userId⟩ identity.connectionMetadata now).1

/-- `mark_connection_authenticated`. -/
def markConnectionAuthenticated (manager : ConnectionManager) (connectionId : String)
    (identity : ConnectionIdentity) (now : Instant) : ConnectionManager :=
  (manager.setConnectionAuthenticated connectionId identity.userId now).1

/-- The write of `finalize_negotiation_after_ack`, with the device and the user that it has
read from the connection's information before. -/
def completeNegotiation (core : ServerCore) (manager : ConnectionManager) (connectionId : String)
    (device : Option DeviceInfo) (userId : Option String) (profile : Profile) (now : Instant) :
    ConnectionManager :=
  (manager.updateConnectionNegotiationWithPipeline connectionId
    ⟨device, profile.format, profile.compression, profile.encryption, userId⟩ profile.parser
    (core.pipelineForNegotiationProfile profile) now).1

/-- `finalize_negotiation_after_ack`. -/
def finalizeNegotiationAfterAck (core : ServerCore) (manager : ConnectionManager)
    (connectionId : String) (profile : Profile) (now : Instant) : ConnectionManager :=
  match manager.connections.get connectionId with
  | none => manager
  | some entry =>
      manager.completeNegotiation core connectionId entry.info.deviceInfo entry.info.userId profile
        now

end ConnectionManager

/-! ## The table -/

namespace ConnectionManager

variable {manager : ConnectionManager} {id other : String} {entry : ConnectionEntry}

omit [RustText] in
/-- An update leaves the connection in the table. -/
theorem get_updateConnection (found : manager.connections.get id = some entry)
    (update : InfoUpdate) (now : Instant) :
    (manager.updateConnection id update now).1.connections.get id =
      some { entry with info := update.apply now entry.info } := by
  simp only [updateConnection, found, reindexUserConnection, insertOwnerConnection_connections,
    removeOwnerConnection_connections, writeInfo, ShardedMap.get_insert_self]

omit [RustText] in
/-- An update leaves the other connections alone. -/
theorem get_updateConnection_of_ne (distinct : other ≠ id) (update : InfoUpdate) (now : Instant) :
    (manager.updateConnection id update now).1.connections.get other =
      manager.connections.get other := by
  unfold updateConnection
  cases manager.connections.get id with
  | none => rfl
  | some entry =>
      simp only [reindexUserConnection, insertOwnerConnection_connections,
        removeOwnerConnection_connections, writeInfo, ShardedMap.get_insert_of_ne _ _ distinct]

omit [RustText] in
/-- A removal takes one connection out of the table. -/
theorem get_removeConnection (manager : ConnectionManager) (id other : String) :
    (manager.removeConnection id).1.connections.get other =
      if other = id then none else manager.connections.get other := by
  unfold removeConnection
  cases found : manager.connections.get id with
  | none =>
      split_ifs with same
      · rw [same, found]
      · rfl
  | some entry =>
      simp only [removeOwnerConnection_connections, releaseConnectionSlots_connections,
        closeQueue_connections, eraseEntry, ShardedMap.get_erase]

omit [RustText] in
/-- The completed negotiation is in the table. -/
theorem get_finalizeNegotiationAfterAck (core : ServerCore)
    (found : manager.connections.get id = some entry) (profile : Profile) (now : Instant) :
    ∃ stored, (manager.finalizeNegotiationAfterAck core id profile now).connections.get id =
        some stored ∧
      stored.info.serializationFormat = profile.format ∧
      stored.info.compression = profile.compression ∧
      stored.info.encryption = profile.encryption ∧
      stored.info.cachedParser = some profile.parser := by
  rw [finalizeNegotiationAfterAck, found]
  exact ⟨_, get_updateConnection found _ now, rfl, rfl, rfl, rfl⟩

end ConnectionManager

/-! ## CONNECT without interruption -/

/-- What CONNECT works on: connections, devices, and the frames written past the queues.  At
most one frame is built for each connection, so its stamp is given by the connection. -/
structure ServerState where
  manager : ConnectionManager
  devices : Option DeviceManager
  sent : List (String × Wire)

namespace ServerState

variable (registries : Registries) (core : ServerCore)

/-- What `handle_device_conflict` does to one displaced connection. -/
def kickConflict (stamps : String → Stamp) (owner : DeviceOwner) (device : DeviceInfo)
    (connectionId : String) (state : ServerState) (victim : String) : ServerState :=
  if victim = connectionId then state
  else
    match state.manager.connections.get victim with
    | none => { state with manager := (state.manager.removeConnection victim).1 }
    | some entry =>
        { manager := (state.manager.removeConnection victim).1
          devices := state.devices.map fun devices => devices.removeDevice owner victim
          sent :=
            match entry.info.kickParser.serialize registries (kickFrame (stamps victim) device) with
            | .ok data => state.sent ++ [(victim, data)]
            | .error _ => state.sent }

/-- `handle_device_conflict`, with the displaced connections. -/
def handleDeviceConflict (stamps : String → Stamp) (state : ServerState) (connectionId : String)
    (negotiation : NegotiationResult) (owner : Option DeviceOwner) :
    ServerState × List String :=
  match state.devices, negotiation.deviceInfo, owner with
  | some devices, some device, some owner =>
      let (devices, conflicts) := devices.addDevice owner connectionId device
      (conflicts.foldl (kickConflict registries stamps owner device connectionId)
        { state with devices := some devices }, conflicts.filter (· ≠ connectionId))
  | _, _, _ => (state, [])

/-- `handle_connect_message`. -/
def handleConnectMessage (stamps : String → Stamp) (state : ServerState) (frame : Frame)
    (connectionId : String) (now : Instant) : ServerState × Result (Frame × MessageParser) :=
  let negotiation := parseConnectMessage frame
  let profile := core.determineNegotiationResult negotiation
  match core.authenticateConnection frame connectionId negotiation now with
  | .error error => (state, .error error)
  | .ok identity =>
      let manager := (state.manager.updateConnectionInfo connectionId negotiation profile identity
        now).markConnectionAuthenticated connectionId identity now
      let (state, conflicts) := handleDeviceConflict registries stamps
        { state with manager := manager } connectionId negotiation identity.deviceOwner
      (state, .ok (ServerCore.createConnectAckFrame registries (stamps connectionId) profile
        conflicts, profile.parser))

variable {registries : Registries} {core : ServerCore} {stamps : String → Stamp}

/-- A conflict never touches the connection that caused it. -/
theorem get_kickConflict (owner : DeviceOwner) (device : DeviceInfo) (connectionId : String)
    (state : ServerState) (victim : String) :
    (kickConflict registries stamps owner device connectionId state victim).manager.connections.get
      connectionId = state.manager.connections.get connectionId := by
  unfold kickConflict
  split_ifs with same
  · rfl
  · have distinct : connectionId ≠ victim := fun eq => same eq.symm
    split <;> rw [ConnectionManager.get_removeConnection, if_neg distinct]

theorem get_handleDeviceConflict (state : ServerState) (connectionId : String)
    (negotiation : NegotiationResult) (owner : Option DeviceOwner) :
    (handleDeviceConflict registries stamps state connectionId negotiation
      owner).1.manager.connections.get connectionId = state.manager.connections.get connectionId := by
  have kicks : ∀ (owner : DeviceOwner) (device : DeviceInfo) (victims : List String)
      (state : ServerState),
      (victims.foldl (kickConflict registries stamps owner device connectionId)
        state).manager.connections.get connectionId = state.manager.connections.get connectionId := by
    intro owner device victims
    induction victims with
    | nil => exact fun _ => rfl
    | cons victim victims inductionHypothesis =>
        intro state
        rw [List.foldl_cons, inductionHypothesis, get_kickConflict]
  unfold handleDeviceConflict
  split
  · exact kicks ..
  · rfl

/-- What an accepted CONNECT leaves behind: the connection is still there, and the
acknowledgement and the parser are those of the profile that was settled on. -/
theorem accepted_of_handleConnectMessage {state state' : ServerState} {frame ack : Frame}
    {parser : MessageParser} {connectionId : String} {now : Instant}
    (present : (state.manager.connections.get connectionId).isSome)
    (accepted : state.handleConnectMessage registries core stamps frame connectionId now =
      (state', .ok (ack, parser))) :
    ∃ entry conflicts, state'.manager.connections.get connectionId = some entry ∧
      ack = ServerCore.createConnectAckFrame registries (stamps connectionId)
        (core.determineNegotiationResult (parseConnectMessage frame)) conflicts ∧
      parser = (core.determineNegotiationResult (parseConnectMessage frame)).parser := by
  obtain ⟨entry, found⟩ := Option.isSome_iff_exists.mp present
  unfold handleConnectMessage at accepted
  dsimp only at accepted
  split at accepted
  · cases (Prod.mk.inj accepted).2
  · next identity _ =>
      obtain ⟨rfl, answer⟩ := Prod.mk.inj accepted
      obtain ⟨rfl, rfl⟩ := Prod.mk.inj (Except.ok.inj answer)
      obtain ⟨informed, isInformed⟩ : ∃ entry, (state.manager.updateConnectionInfo connectionId
          (parseConnectMessage frame) (core.determineNegotiationResult (parseConnectMessage frame))
          identity now).connections.get connectionId = some entry :=
        ⟨_, ConnectionManager.get_updateConnection found _ now⟩
      have authenticated :=
        ConnectionManager.get_updateConnection isInformed (.setAuthenticated identity.userId) now
      exact ⟨_, _, (get_handleDeviceConflict ..).trans authenticated, rfl, rfl⟩

end ServerState

end Core

end FlareCore.Server
