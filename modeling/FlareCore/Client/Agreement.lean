import FlareCore.Client.Negotiation
import FlareCore.Server.Core

/-!
# Whether the two ends agree

After CONNECT and CONNECT_ACK there are three opinions about the profile of a connection: what
the acknowledgement announced, what the server stored, and what the client's parser uses.

They can differ.  The acknowledgement replaces an algorithm that is not registered by `none`,
the server stores the algorithm nevertheless.  A custom algorithm is announced by its name,
which the client reads in lower case.  And a client that forces its profile does not look at
the acknowledgement at all, while the server may add its default encryption.
`profiles_agree_iff` says exactly when the three coincide.
-/

namespace FlareCore.Client

open FlareCore.Common FlareCore.Foundations FlareCore.Server

set_option autoImplicit false

/-- The profile in a connection's information. -/
def storedProfile (info : ConnectionInfo) : Profile :=
  ⟨info.serializationFormat, info.compression, info.encryption⟩

/-! ## Conditions on what is asked for and configured -/

section Conditions

variable [RustText]

/-- The algorithms that a request and the server's defaults lead to can be announced. -/
structure RequestAnnounceable (registries : Registries) (core : ServerCore)
    (request : NegotiationResult) : Prop where
  compression :
    if request.isForced || request.compression ≠ .none then
      CompressionAnnounceable registries request.compression
    else core.defaultCompression ∈ request.acceptedCompressions →
      CompressionAnnounceable registries core.defaultCompression
  encryption :
    if request.encryption ≠ .none then EncryptionAnnounceable registries request.encryption
    else EncryptionAnnounceable registries core.defaultEncryption

omit [RustText] in
/-- The request asks for what the client forces, nothing is left to a default that differs,
and nobody asks for encryption. -/
structure ForcedProfileMet (core : ServerCore) (request : NegotiationResult)
    (config : ClientConfig) : Prop where
  format :
    if request.isForced || request.serializationFormatSpecified then
      request.serializationFormat = config.getSerializationFormat
    else core.defaultSerializationFormat = config.getSerializationFormat
  compression :
    if request.isForced || request.compression ≠ .none then
      request.compression = config.getCompression
    else if core.defaultCompression ∈ request.acceptedCompressions then
      core.defaultCompression = config.getCompression
    else config.getCompression = .none
  encryption : request.encryption = .none ∧ core.defaultEncryption = .none

variable (registries : Registries) (core : ServerCore) (request : NegotiationResult)

/-- What the acknowledgement of a profile announces. -/
def announcedProfile (profile : Profile) : Profile :=
  ⟨profile.format, .fromStr (announcedCompression registries profile.compression),
    .fromStr (announcedEncryption registries profile.encryption)⟩

/-- A profile is announced as it is exactly if both of its algorithms can be announced. -/
theorem announcedProfile_eq_iff (profile : Profile) :
    announcedProfile registries profile = profile ↔
      CompressionAnnounceable registries profile.compression ∧
        EncryptionAnnounceable registries profile.encryption := by
  rw [← fromStr_announcedCompression, ← fromStr_announcedEncryption]
  obtain ⟨format, compression, encryption⟩ := profile
  simp only [announcedProfile, Profile.mk.injEq, true_and]

omit [RustText] in
/-- A default that is `none` makes no difference to the choice of a compression. -/
theorem determined_compression :
    (core.determineNegotiationResult request).compression =
      if request.isForced || request.compression ≠ .none then request.compression
      else if core.defaultCompression ∈ request.acceptedCompressions then core.defaultCompression
      else .none := by
  simp only [ServerCore.determineNegotiationResult]
  by_cases none : core.defaultCompression = .none
  · simp only [none, ne_eq, not_true, false_and, ite_self]
  · simp only [ne_eq, none, not_false_eq_true, true_and]

/-- The condition on the request is the condition on the profile that the server settles on. -/
theorem announcedProfile_determined_iff :
    announcedProfile registries (core.determineNegotiationResult request) =
        core.determineNegotiationResult request ↔
      RequestAnnounceable registries core request := by
  have noCompression : CompressionAnnounceable registries .none := Or.inl rfl
  have compressions :
      CompressionAnnounceable registries (core.determineNegotiationResult request).compression ↔
        if request.isForced || request.compression ≠ .none then
          CompressionAnnounceable registries request.compression
        else core.defaultCompression ∈ request.acceptedCompressions →
          CompressionAnnounceable registries core.defaultCompression := by
    rw [determined_compression]
    split_ifs with asked accepted
    · rfl
    · exact ⟨fun announceable _ => announceable, fun announceable => announceable accepted⟩
    · exact ⟨fun _ member => absurd member accepted, fun _ => noCompression⟩
  have encryptions :
      EncryptionAnnounceable registries (core.determineNegotiationResult request).encryption ↔
        if request.encryption ≠ .none then EncryptionAnnounceable registries request.encryption
        else EncryptionAnnounceable registries core.defaultEncryption := by
    simp only [ServerCore.determineNegotiationResult]
    split_ifs <;> rfl
  rw [announcedProfile_eq_iff, compressions, encryptions]
  exact ⟨fun ⟨compression, encryption⟩ => ⟨compression, encryption⟩,
    fun ⟨compression, encryption⟩ => ⟨compression, encryption⟩⟩

omit [RustText] in
/-- The server settles on the forced profile exactly if the request leads there. -/
theorem determined_eq_forced_iff (config : ClientConfig) :
    core.determineNegotiationResult request =
        ⟨config.getSerializationFormat, config.getCompression, .none⟩ ↔
      ForcedProfileMet core request config := by
  have formats : (core.determineNegotiationResult request).format =
        config.getSerializationFormat ↔
      if request.isForced || request.serializationFormatSpecified then
        request.serializationFormat = config.getSerializationFormat
      else core.defaultSerializationFormat = config.getSerializationFormat := by
    simp only [ServerCore.determineNegotiationResult]
    split_ifs <;> rfl
  have compressions : (core.determineNegotiationResult request).compression =
        config.getCompression ↔
      if request.isForced || request.compression ≠ .none then
        request.compression = config.getCompression
      else if core.defaultCompression ∈ request.acceptedCompressions then
        core.defaultCompression = config.getCompression
      else config.getCompression = .none := by
    rw [determined_compression]
    split_ifs
    · rfl
    · rfl
    · exact eq_comm
  have encryptions : (core.determineNegotiationResult request).encryption = .none ↔
      request.encryption = .none ∧ core.defaultEncryption = .none := by
    simp only [ServerCore.determineNegotiationResult]
    split_ifs with asked
    · exact ⟨fun same => absurd same asked, fun same => same.1⟩
    · exact ⟨fun same => ⟨not_not.mp asked, same⟩, fun same => same.2⟩
  constructor
  · intro same
    refine ⟨formats.mp ?_, compressions.mp ?_, encryptions.mp ?_⟩ <;> rw [same]
  · rintro ⟨format, compression, encryption⟩
    have sameFormat := formats.mpr format
    have sameCompression := compressions.mpr compression
    have sameEncryption := encryptions.mpr encryption
    rw [← sameFormat, ← sameCompression, ← sameEncryption]

end Conditions

/-! ## The three profiles -/

section Agreement

variable [Hashing] [RustText]

/-- What the acknowledgement announces, what the server stores after it, and what the client's
parser uses after it, are one profile. -/
def ProfilesAgree (core : ServerCore) (config : ClientConfig) (ack : Frame)
    (manager : ConnectionManager) (connectionId : String) (selected : Profile) (now : Instant) :
    Prop :=
  ∃ announced stored, handleConnectAck ack = .ok announced ∧
    (manager.finalizeNegotiationAfterAck core connectionId selected now).connections.get
      connectionId = some stored ∧
    storedProfile stored.info = announced ∧
    stored.info.cachedParser.map MessageParser.profile = some announced ∧
    (config.parserAfterAck config.initialParser ack).profile = announced

omit [Hashing] in
/-- The profile of a client that has processed the acknowledgement. -/
theorem parserAfterAck_profile {config : ClientConfig} {ack : Frame} {announced : Profile}
    (reads : handleConnectAck ack = .ok announced) :
    (config.parserAfterAck config.initialParser ack).profile =
      if config.isForceFormat then
        ⟨config.getSerializationFormat, config.getCompression, .none⟩
      else announced := by
  rw [ClientConfig.parserAfterAck, reads]
  dsimp only
  split_ifs with forced
  · rw [ClientConfig.initialParser, if_pos forced]
    rfl
  · rfl

section Accepted

variable {registries : Registries} {core : ServerCore} {config : ClientConfig}
  {stamps : String → Stamp} {state state' : ServerState} {connect ack : Frame}
  {parser : MessageParser} {connectionId : String} {now : Instant}
  (present : (state.manager.connections.get connectionId).isSome)
  (accepted : state.handleConnectMessage registries core stamps connect connectionId now =
    (state', .ok (ack, parser)))

include present accepted

/-- The profiles agree if the one that the server settles on is announced as it is, and is the
one that a forcing client uses. -/
theorem profilesAgree_iff_announced (later : Instant) :
    ProfilesAgree core config ack state'.manager connectionId parser.profile later ↔
      announcedProfile registries (core.determineNegotiationResult (parseConnectMessage connect)) =
          core.determineNegotiationResult (parseConnectMessage connect) ∧
        (config.isForceFormat = true →
          core.determineNegotiationResult (parseConnectMessage connect) =
            ⟨config.getSerializationFormat, config.getCompression, .none⟩) := by
  obtain ⟨entry, conflicts, present', rfl, rfl⟩ :=
    ServerState.accepted_of_handleConnectMessage present accepted
  generalize core.determineNegotiationResult (parseConnectMessage connect) = selected
  have reads : handleConnectAck (ServerCore.createConnectAckFrame registries (stamps connectionId)
      selected conflicts) = .ok (announcedProfile registries selected) :=
    handleConnectAck_createConnectAck ..
  have client : (config.parserAfterAck config.initialParser _).profile = _ :=
    parserAfterAck_profile reads
  obtain ⟨stored, found, format, compression, encryption, cached⟩ :=
    ConnectionManager.get_finalizeNegotiationAfterAck core present' selected later
  have stores : storedProfile stored.info = selected := by
    rw [storedProfile, format, compression, encryption]
  constructor
  · rintro ⟨announced, other, announces, isOther, same, -, uses⟩
    obtain rfl := Except.ok.inj (reads.symm.trans announces)
    obtain rfl := Option.some.inj (found.symm.trans isOther)
    rw [stores] at same
    refine ⟨same.symm, ?_⟩
    intro forced
    rw [client, if_pos forced] at uses
    exact same.trans uses.symm
  · rintro ⟨same, forces⟩
    refine ⟨selected, stored, reads.trans (congrArg _ same), found, stores, ?_, ?_⟩
    · rw [cached]
      rfl
    · rw [client]
      split_ifs with forced
      · exact (forces forced).symm
      · exact same

end Accepted

/-- **The three profiles agree exactly if what is asked for can be announced, and a client that
forces its profile gets it.**  This holds for every CONNECT that the server accepts and for
every content of the registries. -/
theorem profiles_agree_iff (registries : Registries) (core : ServerCore) (config : ClientConfig)
    (stamps : String → Stamp) (state state' : ServerState) (connect ack : Frame)
    (parser : MessageParser) (connectionId : String) (now later : Instant)
    (present : (state.manager.connections.get connectionId).isSome)
    (accepted : state.handleConnectMessage registries core stamps connect connectionId now =
      (state', .ok (ack, parser))) :
    ProfilesAgree core config ack state'.manager connectionId parser.profile later ↔
      RequestAnnounceable registries core (parseConnectMessage connect) ∧
        (config.isForceFormat = true →
          ForcedProfileMet core (parseConnectMessage connect) config) := by
  rw [profilesAgree_iff_announced present accepted, announcedProfile_determined_iff,
    determined_eq_forced_iff]

end Agreement

/-! ## Concrete handshakes -/

section Handshake

open scoped SingleShard AsciiText

/-- A server that knows gzip, without authentication and devices. -/
def gzipRegistries : Registries where
  serializers := ∅
  compressors := (∅ : StringMap Compressor).insert "gzip" ⟨.ok, .ok, .gzip, fun _ => false⟩
  encryptors := ∅

def plainCore : ServerCore where
  defaultSerializationFormat := .protobuf
  defaultCompression := .none
  defaultEncryption := .none
  authConfigured := false
  authenticator := none
  pipelineForNegotiationProfile := fun _ => none

/-- A client with a preferred compression. -/
def preferring (compression : CompressionAlgorithm) : ClientConfig where
  serializationFormat := .json
  compression := compression
  forceSerializationFormat := none
  forceCompression := none
  deviceInfo := none
  userId := some "alice"
  token := none
  metadata := ∅

def stampOf (connectionId : String) : Stamp := ⟨connectionId, 0⟩

/-- A server with one connection that has not said anything yet. -/
def greeted : ServerState :=
  ⟨((ConnectionManager.new 8).addConnection "c" 0 none false 0).1, none, []⟩

/-- CONNECT of a client as it is sent. -/
def connectOf (config : ClientConfig) : Frame :=
  config.connectFrame gzipRegistries (stampOf "client")

/-- The preferred gzip is registered: announced, stored and used. -/
theorem profiles_agree_iff_gzip :
    ∃ state' ack parser, greeted.handleConnectMessage gzipRegistries plainCore stampOf
        (connectOf (preferring .gzip)) "c" 0 = (state', .ok (ack, parser)) ∧
      parser.defaultCompression = .gzip ∧
      ProfilesAgree plainCore (preferring .gzip) ack state'.manager "c" parser.profile 0 := by
  have accepted : greeted.handleConnectMessage gzipRegistries plainCore stampOf
      (connectOf (preferring .gzip)) "c" 0 = (_, .ok (_, _)) := rfl
  refine ⟨_, _, _, accepted, by decide +kernel, ?_⟩
  refine (profiles_agree_iff gzipRegistries plainCore (preferring .gzip) stampOf greeted _ _ _ _ "c"
    0 0 (by decide +kernel) accepted).mpr ⟨⟨?_, ?_⟩, ?_⟩
  · decide +kernel
  · decide +kernel
  · intro forced
    cases forced

/-- The preferred zstd is not registered: the acknowledgement says `none`, the server stores
zstd. -/
theorem acknowledgement_hides_unregistered_compression :
    ∃ state' ack parser, greeted.handleConnectMessage gzipRegistries plainCore stampOf
        (connectOf (preferring .zstd)) "c" 0 = (state', .ok (ack, parser)) ∧
      ¬ProfilesAgree plainCore (preferring .zstd) ack state'.manager "c" parser.profile 0 := by
  have accepted : greeted.handleConnectMessage gzipRegistries plainCore stampOf
      (connectOf (preferring .zstd)) "c" 0 = (_, .ok (_, _)) := rfl
  refine ⟨_, _, _, accepted, ?_⟩
  rw [profilesAgree_iff_announced (by decide +kernel) accepted]
  rintro ⟨same, -⟩
  revert same
  decide +kernel

end Handshake

end FlareCore.Client
