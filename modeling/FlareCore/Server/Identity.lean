import FlareCore.Server.Core
import FlareCore.Server.DeviceRegistry
import FlareCore.Common.Formats

/-!
# Who a connection belongs to

A client names a user and a tenant in its CONNECT, and the authenticator of the application
names a user and a tenant of its own.  With authentication enabled nothing of what the client
says about the two is used: CONNECT leads to the same state, the same displaced connections and
the same acknowledgement whatever it says (`outcome_independent_of_claimed_identity`).

The owner of a connection is derived twice.  The device is registered under the owner that the
identity of this CONNECT gives, and the connection itself belongs to the owner that its metadata
give, into which the metadata of the identity have been merged.  An identity without a tenant
does not remove the tenant that an earlier CONNECT has left in the metadata, so the two owners
may differ; `owner_agrees_iff` says when they do not.
-/

namespace FlareCore.Server

open FlareCore.Common FlareCore.Foundations

set_option autoImplicit false

/-! ## CONNECT without the claimed identity -/

/-- The metadata of CONNECT without what the client says about its user and tenant. -/
def withoutIdentity (metadata : StringMap Bytes) : StringMap Bytes :=
  (metadata.erase "user_id").erase "tenant_id"

theorem lookup_withoutIdentity (metadata : StringMap Bytes) {key : String}
    (notUser : key ≠ "user_id") (notTenant : key ≠ "tenant_id") :
    (withoutIdentity metadata).lookup key = metadata.lookup key := by
  rw [withoutIdentity, AList.lookup_erase_ne notTenant, AList.lookup_erase_ne notUser]

/-- Taking an entry out does not show in a selection that leaves its key out. -/
theorem filter_entries_erase (metadata : StringMap Bytes) {key : String} (keep : String → Bool)
    (left : keep key = false) :
    (metadata.erase key).entries.filter (fun entry => keep entry.1) =
      metadata.entries.filter fun entry => keep entry.1 := by
  show (metadata.entries.kerase key).filter _ = _
  induction metadata.entries with
  | nil => rfl
  | cons entry entries inductionHypothesis =>
      by_cases same : key = entry.1
      · rw [List.kerase_cons_eq same, List.filter_cons, ← same, left]
        rfl
      · rw [List.kerase_cons_ne same, List.filter_cons, List.filter_cons, inductionHypothesis]

/-- Two CONNECT frames that differ in nothing but the user and the tenant in their metadata. -/
structure SameButIdentity (first second : Frame) (command : SystemCommand)
    (metadata : StringMap Bytes) : Prop where
  isConnect : command.type = SystemType.connect.toInt32
  first_command : first.command = some ⟨some (.system command)⟩
  second_eq : second =
    { first with command := some ⟨some (.system { command with metadata := metadata })⟩ }
  same : withoutIdentity command.metadata = withoutIdentity metadata

section Parsing

variable {metadata metadata' : StringMap Bytes}

theorem metadataString_congr (same : withoutIdentity metadata = withoutIdentity metadata')
    {key : String} (notUser : key ≠ "user_id") (notTenant : key ≠ "tenant_id") :
    metadataString metadata key = metadataString metadata' key := by
  rw [metadataString, metadataString, ← lookup_withoutIdentity metadata notUser notTenant, same,
    lookup_withoutIdentity metadata' notUser notTenant]

/-- The metadata of a device leave the reserved keys out. -/
theorem deviceMetadata_withoutIdentity (metadata : StringMap Bytes) :
    deviceMetadata (withoutIdentity metadata) = deviceMetadata metadata := by
  have erased : (withoutIdentity metadata).entries.filter
      (fun entry => decide (entry.1 ∉ deviceReservedMetadataKeys)) =
        metadata.entries.filter fun entry => decide (entry.1 ∉ deviceReservedMetadataKeys) := by
    rw [withoutIdentity,
      filter_entries_erase _ (fun key => decide (key ∉ deviceReservedMetadataKeys)) (by decide),
      filter_entries_erase _ (fun key => decide (key ∉ deviceReservedMetadataKeys)) (by decide)]
  rw [deviceMetadata, erased, deviceMetadata]

theorem parseDeviceInfo_congr (same : withoutIdentity metadata = withoutIdentity metadata') :
    parseDeviceInfo metadata = parseDeviceInfo metadata' := by
  have device : deviceMetadata metadata = deviceMetadata metadata' := by
    rw [← deviceMetadata_withoutIdentity metadata, same, deviceMetadata_withoutIdentity]
  have text : ∀ key, key ≠ "user_id" → key ≠ "tenant_id" →
      metadataString metadata key = metadataString metadata' key :=
    fun _ => metadataString_congr same
  unfold parseDeviceInfo
  rw [device, text "device_id" (by decide) (by decide), text "platform" (by decide) (by decide),
    text "model" (by decide) (by decide), text "app_version" (by decide) (by decide),
    text "system_version" (by decide) (by decide)]

/-- What a client asks for, without who it says it is. -/
def NegotiationResult.anonymous (negotiation : NegotiationResult) : NegotiationResult :=
  { negotiation with userId := none, tenantId := none }

theorem anonymous_parseConnectMessage [RustText] {first second : Frame} {command : SystemCommand}
    (related : SameButIdentity first second command metadata) :
    (parseConnectMessage first).anonymous = (parseConnectMessage second).anonymous := by
  obtain ⟨isConnect, isFirst, rfl, same⟩ := related
  have text : ∀ key, key ≠ "user_id" → key ≠ "tenant_id" →
      metadataString command.metadata key = metadataString metadata key :=
    fun _ => metadataString_congr same
  have firstCommand : systemCommand first = some command := by
    rw [systemCommand, Frame.commandType, isFirst]
    rfl
  have secondCommand : systemCommand { first with
      command := some ⟨some (.system { command with metadata := metadata })⟩ } =
        some { command with metadata := metadata } := rfl
  unfold parseConnectMessage
  rw [firstCommand, secondCommand]
  dsimp only
  rw [if_neg (not_not.mpr isConnect), if_neg (not_not.mpr isConnect)]
  simp only [NegotiationResult.anonymous, parseSerializationFormat, parseCompression,
    parseAcceptedCompressions, parseEncryption, parseDeviceInfo_congr same,
    text "format" (by decide) (by decide), text "compression" (by decide) (by decide),
    text "accept_compression" (by decide) (by decide), text "encryption" (by decide) (by decide),
    text "force_format" (by decide) (by decide)]

end Parsing

/-! ## The same outcome -/

section Outcome

variable [RustText] {core : ServerCore} {connectionId : String} {now : Instant}

/-- What the authenticator answers to a CONNECT, if it is asked. -/
def ServerCore.answerTo (core : ServerCore) (frame : Frame) (connectionId : String)
    (now : Instant) : Option (Result AuthResult) :=
  core.authenticator.bind fun authenticator =>
    (ServerCore.extractTokenFromFrame frame).map fun token =>
      authenticator now token connectionId (parseConnectMessage frame).deviceInfo
        ((systemCommand frame).map SystemCommand.metadata)

/-- With authentication enabled the identity is what the answer gives. -/
theorem ServerCore.authenticateConnection_eq (enabled : core.authEnabled = true) (frame : Frame) :
    core.authenticateConnection frame connectionId (parseConnectMessage frame) now =
      (core.answerTo frame connectionId now).elim
        (.error (.authenticationFailed "未提供 token")) identityOfAnswer := by
  have configured : core.authenticator.isSome := (Bool.and_eq_true _ _ ▸ enabled).2
  obtain ⟨authenticator, isAuthenticator⟩ := Option.isSome_iff_exists.mp configured
  rw [authenticateConnection, if_pos enabled, answerTo, isAuthenticator]
  cases extractTokenFromFrame frame <;> rfl

variable [Hashing] {registries : Registries} {stamps : String → Stamp}

/-- CONNECT beyond authentication does not look at the claimed identity. -/
theorem ServerState.handleConnectMessage_eq (state : ServerState) (frame : Frame) :
    state.handleConnectMessage registries core stamps frame connectionId now =
      match core.authenticateConnection frame connectionId (parseConnectMessage frame) now with
      | .error error => (state, .error error)
      | .ok identity =>
          let negotiation := (parseConnectMessage frame).anonymous
          let profile := core.determineNegotiationResult negotiation
          let manager := (state.manager.updateConnectionInfo connectionId negotiation profile
            identity now).markConnectionAuthenticated connectionId identity now
          let (state, conflicts) := handleDeviceConflict registries stamps
            { state with manager := manager } connectionId negotiation identity.deviceOwner
          (state, .ok (ServerCore.createConnectAckFrame registries (stamps connectionId) profile
            conflicts, profile.parser)) :=
  rfl

/-- **With authentication enabled, the identity that a client claims changes nothing**: two
CONNECT frames that differ in nothing else and get the same answer from the authenticator lead
to the same connections, devices and frames, and to the same answer. -/
theorem outcome_independent_of_claimed_identity (enabled : core.authEnabled = true)
    (state : ServerState) {first second : Frame} {command : SystemCommand}
    {metadata : StringMap Bytes} (related : SameButIdentity first second command metadata)
    (sameAnswer : core.answerTo first connectionId now = core.answerTo second connectionId now) :
    state.handleConnectMessage registries core stamps first connectionId now =
      state.handleConnectMessage registries core stamps second connectionId now := by
  rw [ServerState.handleConnectMessage_eq, ServerState.handleConnectMessage_eq,
    ServerCore.authenticateConnection_eq enabled, ServerCore.authenticateConnection_eq enabled,
    sameAnswer, anonymous_parseConnectMessage related]

end Outcome

section Impostor

open scoped SingleShard AsciiText

/-- A server that takes the token for the user. -/
def guardedCore : ServerCore where
  defaultSerializationFormat := .json
  defaultCompression := .none
  defaultEncryption := .none
  authConfigured := true
  authenticator := some fun _ token _ _ _ => .ok ⟨true, some token, none, none, false⟩
  pipelineForNegotiationProfile := fun _ => none

/-- A server with one connection that has not sent its CONNECT. -/
def newcomer : ServerState where
  manager := ((ConnectionManager.new 8).addConnectionWithLimit "a" 0 none true 10 0).1
  devices := some (.new .fullyExclusive)
  sent := []

/-- A CONNECT from a device, with the token of `alice`, under the name of some user. -/
def connectAs (userId : String) : SystemCommand :=
  .connect .json ((((∅ : StringMap Bytes).insert "user_id" (utf8 userId)).insert "token"
    (utf8 "alice")).insert "device_id" (utf8 "phone"))

/-- It makes no difference whether `alice` says that she is `alice` or `bob`. -/
theorem outcome_independent_of_claimed_identity_impostor :
    connectAs "alice" ≠ connectAs "bob" ∧
      newcomer.handleConnectMessage (builtinRegistries []) guardedCore (fun _ => ⟨"frame", 0⟩)
          (.withSystemCommand ⟨"connect", 0⟩ (connectAs "alice") .atLeastOnce) "a" 1 =
        newcomer.handleConnectMessage (builtinRegistries []) guardedCore (fun _ => ⟨"frame", 0⟩)
          (.withSystemCommand ⟨"connect", 0⟩ (connectAs "bob") .atLeastOnce) "a" 1 := by
  have related : SameButIdentity
      (.withSystemCommand ⟨"connect", 0⟩ (connectAs "alice") .atLeastOnce)
      (.withSystemCommand ⟨"connect", 0⟩ (connectAs "bob") .atLeastOnce) (connectAs "alice")
      (connectAs "bob").metadata := ⟨rfl, rfl, rfl, AList.ext (by decide +kernel)⟩
  have different : (connectAs "alice").metadata.lookup "user_id" ≠
      (connectAs "bob").metadata.lookup "user_id" := by
    decide +kernel
  exact ⟨fun same => different (congrArg (fun command => command.metadata.lookup "user_id") same),
    outcome_independent_of_claimed_identity rfl newcomer related rfl⟩

end Impostor

/-! ## The two owners -/

theorem lookup_foldl_insert (entries : List (Sigma fun _ : String => String))
    (distinct : entries.NodupKeys) (metadata : StringMap String) (key : String) :
    (entries.foldl (fun merged entry => merged.insert entry.1 entry.2) metadata).lookup key =
      (entries.dlookup key).or (metadata.lookup key) := by
  induction entries generalizing metadata with
  | nil => rfl
  | cons entry entries inductionHypothesis =>
      obtain ⟨fresh, rest⟩ := List.nodupKeys_cons.mp distinct
      rw [List.foldl_cons, inductionHypothesis rest]
      by_cases same : key = entry.1
      · subst same
        rw [List.dlookup_cons_eq, List.dlookup_eq_none.mpr fresh, AList.lookup_insert]
        rfl
      · rw [List.dlookup_cons_ne _ _ same, AList.lookup_insert_ne same]

/-- A merged entry is the incoming one, else the old one. -/
theorem lookup_mergeMetadata (metadata : StringMap String)
    (incoming : Option (StringMap String)) (key : String) :
    (mergeMetadata metadata incoming).lookup key =
      (incoming.bind fun incoming => incoming.lookup key).or (metadata.lookup key) := by
  cases incoming with
  | none => rfl
  | some incoming => exact lookup_foldl_insert incoming.entries incoming.nodupKeys metadata key

namespace ConnectionIdentity

/-- The metadata of an identity name no tenant but its own. -/
def Coherent (identity : ConnectionIdentity) : Prop :=
  identity.tenantId = none →
    (identity.metadata.bind fun metadata => metadata.lookup "tenant_id") = none

theorem Coherent.lookup_connectionMetadata {identity : ConnectionIdentity}
    (coherent : identity.Coherent) :
    (identity.connectionMetadata.bind fun metadata => metadata.lookup "tenant_id") =
      identity.tenantId := by
  unfold connectionMetadata
  cases named : identity.tenantId with
  | none => exact coherent named
  | some tenantId => exact AList.lookup_insert _

end ConnectionIdentity

theorem coherent_identityOfAnswer {answer : Result AuthResult} {identity : ConnectionIdentity}
    (accepted : ServerCore.identityOfAnswer answer = .ok identity) : identity.Coherent := by
  unfold ServerCore.identityOfAnswer at accepted
  cases answer with
  | error error => cases accepted
  | ok result =>
      dsimp only at accepted
      split_ifs at accepted
      obtain rfl := Except.ok.inj accepted
      exact id

/-- Whoever is accepted, from the authenticator or on its own word, is coherent. -/
theorem coherent_authenticateConnection {core : ServerCore} {frame : Frame}
    {connectionId : String} {negotiation : NegotiationResult} {now : Instant}
    {identity : ConnectionIdentity}
    (accepted : core.authenticateConnection frame connectionId negotiation now = .ok identity) :
    identity.Coherent := by
  have declared : (ConnectionIdentity.declared negotiation).Coherent := fun _ => rfl
  unfold ServerCore.authenticateConnection at accepted
  split_ifs at accepted
  · split at accepted
    · obtain rfl := Except.ok.inj accepted
      exact declared
    · split at accepted
      · cases accepted
      · exact coherent_identityOfAnswer accepted
  · obtain rfl := Except.ok.inj accepted
    exact declared

/-- No tenant, or one that stands for the default tenant. -/
def isDefaultTenant (tenantId : Option String) : Bool :=
  tenantId.all fun tenantId => isBlank tenantId || tenantId = "0"

theorem deviceOwner_eq_default_iff (tenantId : Option String) (userId : String) :
    DeviceOwner.new tenantId userId = DeviceOwner.new none userId ↔ isDefaultTenant tenantId := by
  cases tenantId with
  | none => simp [isDefaultTenant]
  | some tenantId =>
      by_cases blank : isBlank tenantId = true <;>
        simp [DeviceOwner.new, isDefaultTenant, Option.filter, blank]

/-- The tenant of the connection after CONNECT is that of the identity, else the one it had. -/
def tenantAfter (info : ConnectionInfo) (identity : ConnectionIdentity) : Option String :=
  identity.tenantId.or (info.metadata.lookup "tenant_id")

theorem deviceOwner_tenantAfter_iff (info : ConnectionInfo) (identity : ConnectionIdentity)
    (userId : String) :
    DeviceOwner.new (tenantAfter info identity) userId = DeviceOwner.new identity.tenantId userId ↔
      identity.tenantId.isSome ∨ isDefaultTenant (info.metadata.lookup "tenant_id") := by
  unfold tenantAfter
  cases identity.tenantId with
  | none => simp [deviceOwner_eq_default_iff]
  | some tenantId => simp

section Owners

variable [Hashing] {connectionId : String}

/-- CONNECT has written the identity into the connection's information. -/
def ConnectionManager.identified (manager : ConnectionManager) (connectionId : String)
    (negotiation : NegotiationResult) (profile : Profile) (identity : ConnectionIdentity)
    (now : Instant) : ConnectionManager :=
  (manager.updateConnectionInfo connectionId negotiation profile identity
    now).markConnectionAuthenticated connectionId identity now

theorem ConnectionManager.ownerOf_identified {manager : ConnectionManager}
    {entry : ConnectionEntry} {identity : ConnectionIdentity} {userId : String}
    (found : manager.connections.get connectionId = some entry) (coherent : identity.Coherent)
    (user : identity.userId = some userId) (negotiation : NegotiationResult) (profile : Profile)
    (now : Instant) :
    (manager.identified connectionId negotiation profile identity now).ownerOf connectionId =
      some (DeviceOwner.new (tenantAfter entry.info identity) userId) := by
  have informed := get_updateConnection found (.negotiation
    ⟨negotiation.deviceInfo, profile.format, profile.compression, profile.encryption,
      identity.userId⟩ identity.connectionMetadata) now
  have marked := get_updateConnection informed (.setAuthenticated identity.userId) now
  have tenant : (mergeMetadata entry.info.metadata identity.connectionMetadata).lookup "tenant_id" =
      tenantAfter entry.info identity := by
    rw [lookup_mergeMetadata, coherent.lookup_connectionMetadata, tenantAfter]
  rw [← tenant]
  refine (ownerOf_eq_of_get marked).trans ?_
  simp only [InfoUpdate.apply, ConnectionInfo.setAuthenticated, ConnectionInfo.keepUser,
    ConnectionInfo.owner, ConnectionInfo.negotiate, user, Option.some_or, Option.map_some]

namespace ServerState

variable [RustText] {registries : Registries} {core : ServerCore} {stamps : String → Stamp}
  {now : Instant}

/-- The owner that the device of a connection is registered under. -/
def registeredOwner (state : ServerState) (connectionId : String) : Option DeviceOwner :=
  state.devices.bind fun devices => devices.owners.lookup connectionId

/-- A connection belongs to the owner that its device is registered under. -/
def OwnerAgrees (state : ServerState) (connectionId : String) : Prop :=
  ∀ owner, state.registeredOwner connectionId = some owner →
    state.manager.ownerOf connectionId = some owner

theorem handleConnectMessage_of_accepted {state : ServerState} {frame : Frame}
    {identity : ConnectionIdentity}
    (accepted : core.authenticateConnection frame connectionId (parseConnectMessage frame) now =
      .ok identity) :
    (state.handleConnectMessage registries core stamps frame connectionId now).1 =
      (handleDeviceConflict registries stamps
        { state with
          manager := state.manager.identified connectionId (parseConnectMessage frame)
            (core.determineNegotiationResult (parseConnectMessage frame)) identity now }
        connectionId (parseConnectMessage frame) identity.deviceOwner).1 := by
  simp only [handleConnectMessage, accepted]
  rfl

/-- A kick unregisters nobody but its victim. -/
theorem registeredOwner_kickConflict (owner : DeviceOwner) (device : DeviceInfo)
    (state : ServerState) (victim : String) :
    (kickConflict registries stamps owner device connectionId state victim).registeredOwner
      connectionId = state.registeredOwner connectionId := by
  unfold kickConflict
  split_ifs with same
  · rfl
  · split
    · rfl
    · dsimp only [registeredOwner]
      cases state.devices with
      | none => rfl
      | some devices =>
          rw [Option.map_some, Option.bind_some, Option.bind_some, DeviceManager.removeDevice_eq]
          split_ifs
          · rw [DeviceManager.owners_unregister, AList.lookup_erase_ne (Ne.symm same)]
          · rfl

theorem registeredOwner_kicks (owner : DeviceOwner) (device : DeviceInfo) (victims : List String)
    (state : ServerState) :
    (victims.foldl (kickConflict registries stamps owner device connectionId)
      state).registeredOwner connectionId = state.registeredOwner connectionId := by
  induction victims generalizing state with
  | nil => rfl
  | cons victim victims inductionHypothesis =>
      rw [List.foldl_cons, inductionHypothesis, registeredOwner_kickConflict]

/-- A device is registered under the owner that the identity gives; without a device nothing
changes. -/
theorem registeredOwner_handleDeviceConflict (state : ServerState)
    (negotiation : NegotiationResult) (owner : DeviceOwner) :
    (handleDeviceConflict registries stamps state connectionId negotiation
      (some owner)).1.registeredOwner connectionId =
        if state.devices.isSome ∧ negotiation.deviceInfo.isSome then some owner
        else state.registeredOwner connectionId := by
  unfold handleDeviceConflict
  cases configured : state.devices with
  | none => simp [registeredOwner, configured]
  | some devices =>
      cases named : negotiation.deviceInfo with
      | none => simp
      | some device =>
          dsimp only
          rw [registeredOwner_kicks, if_pos ⟨rfl, rfl⟩]
          exact (DeviceManager.lookup_owners_addDevice ..).trans (if_pos rfl)

/-- What a CONNECT must find for the two owners to agree: if it registers a device, that its
identity names a tenant or that the connection has none but the default one; if it does not,
that the connection is not registered under another owner by an earlier CONNECT. -/
def OwnersMeet (state : ServerState) (connectionId : String) (info : ConnectionInfo)
    (device : Option DeviceInfo) (identity : ConnectionIdentity) (userId : String) : Prop :=
  if state.devices.isSome ∧ device.isSome then
    identity.tenantId.isSome ∨ isDefaultTenant (info.metadata.lookup "tenant_id")
  else
    ∀ owner, state.registeredOwner connectionId = some owner →
      owner = DeviceOwner.new (tenantAfter info identity) userId

/-- **After an accepted CONNECT the connection belongs to the owner that its device is registered
under exactly if** the identity brings a tenant or the connection has none from before, or, where
no device is registered, if no earlier registration says otherwise. -/
theorem owner_agrees_iff {state : ServerState} {frame : Frame} {entry : ConnectionEntry}
    {identity : ConnectionIdentity} {userId : String}
    (found : state.manager.connections.get connectionId = some entry)
    (accepted : core.authenticateConnection frame connectionId (parseConnectMessage frame) now =
      .ok identity)
    (user : identity.userId = some userId) :
    (state.handleConnectMessage registries core stamps frame connectionId now).1.OwnerAgrees
        connectionId ↔
      state.OwnersMeet connectionId entry.info (parseConnectMessage frame).deviceInfo identity
        userId := by
  have owner : identity.deviceOwner = some (DeviceOwner.new identity.tenantId userId) := by
    rw [ConnectionIdentity.deviceOwner, user, Option.map_some]
  have bound := ConnectionManager.ownerOf_identified found
    (coherent_authenticateConnection accepted) user (parseConnectMessage frame)
    (core.determineNegotiationResult (parseConnectMessage frame)) now
  rw [OwnerAgrees, handleConnectMessage_of_accepted accepted, ConnectionManager.ownerOf,
    get_handleDeviceConflict, ← ConnectionManager.ownerOf, bound, owner,
    registeredOwner_handleDeviceConflict, OwnersMeet]
  split_ifs
  · rw [← deviceOwner_tenantAfter_iff entry.info identity userId]
    constructor
    · exact fun agrees => Option.some.inj (agrees _ rfl)
    · rintro same owner registered
      rw [same, registered]
  · constructor
    · exact fun agrees owner registered => (Option.some.inj (agrees owner registered)).symm
    · exact fun met owner registered => congrArg some (met owner registered).symm

end ServerState

end Owners

section Tenants

open scoped SingleShard AsciiText

/-- A server without authentication. -/
def trustingCore : ServerCore :=
  { guardedCore with authConfigured := false }

/-- A CONNECT of `alice` from a device, in a tenant or in none. -/
def connectIn (tenantId : Option String) : Frame :=
  let metadata := ((∅ : StringMap Bytes).insert "user_id" (utf8 "alice")).insert "device_id"
    (utf8 "phone")
  .withSystemCommand ⟨"connect", 0⟩ (.connect .json
    (tenantId.elim metadata fun tenantId => metadata.insert "tenant_id" (utf8 tenantId)))
    .atLeastOnce

/-- The newcomer has connected in a tenant. -/
def tenantMember : ServerState :=
  (newcomer.handleConnectMessage (builtinRegistries []) trustingCore (fun _ => ⟨"frame", 0⟩)
    (connectIn (some "blue")) "a" 1).1

/-- On its first CONNECT a connection gets the owner of its device. -/
theorem owner_agrees_iff_newcomer :
    ∃ entry identity, newcomer.manager.connections.get "a" = some entry ∧
      trustingCore.authenticateConnection (connectIn (some "blue")) "a"
        (parseConnectMessage (connectIn (some "blue"))) 1 = .ok identity ∧
      identity.userId = some "alice" ∧ tenantMember.OwnerAgrees "a" := by
  have user : (ConnectionIdentity.declared (parseConnectMessage (connectIn (some "blue")))).userId =
      some "alice" := by
    decide +kernel
  refine ⟨_, _, rfl, rfl, user, (ServerState.owner_agrees_iff rfl rfl user).mpr ?_⟩
  rw [ServerState.OwnersMeet, if_pos (by decide +kernel)]
  exact Or.inl (by decide +kernel)

/-- **A second CONNECT without a tenant registers the device in the default tenant, and the
connection stays in the tenant of the first.** -/
theorem tenant_kept_from_earlier_connect :
    (∃ identity, trustingCore.authenticateConnection (connectIn none) "a"
      (parseConnectMessage (connectIn none)) 2 = .ok identity ∧ identity.userId = some "alice") ∧
    ¬(tenantMember.handleConnectMessage (builtinRegistries []) trustingCore
      (fun _ => ⟨"frame", 0⟩) (connectIn none) "a" 2).1.OwnerAgrees "a" := by
  refine ⟨⟨_, rfl, by decide⟩, fun agrees => ?_⟩
  have belongs := agrees ⟨"0", "alice"⟩ (by decide +kernel)
  revert belongs
  decide +kernel

end Tenants

end FlareCore.Server
