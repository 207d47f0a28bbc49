import FlareCore.Server.Core
import FlareCore.Server.DeviceRegistry
import FlareCore.Server.Connection.Consistency

/-!
# Resolving a device conflict

`handle_device_conflict` registers a device and then evicts the connections that the device
displaces: each is sent a KICKED, taken out of the device manager and taken out of the connection
manager.  Encoding the KICKED can fail, the transport can refuse it, the connection can be unknown
to either manager; every failure is logged and the next call is made all the same.

Here the routine keeps the calls it makes, in the order in which it makes them, so that it can be
said that the KICKED comes before the removal and that nobody else is sent anything
(`device_conflict_resolved`).  Forgetting the calls gives what the server core does with the two
managers (`forget_handleDeviceConflict`).
-/

namespace FlareCore.Server

open FlareCore.Common FlareCore.Foundations

set_option autoImplicit false

/-- The calls that the routine makes on a displaced connection.  A call of `send` carries the
answer of the transport, which is logged only. -/
inductive EvictionCall where
  | send (connectionId : String) (connection : ConnectionHandle) (data : Wire)
      (answer : Result Unit)
  | removeDevice (connectionId : String)
  | removeConnection (connectionId : String)

/-- The connection that a call is about. -/
def EvictionCall.subject : EvictionCall → String
  | send connectionId _ _ _ => connectionId
  | removeDevice connectionId => connectionId
  | removeConnection connectionId => connectionId

/-- The call as a frame written past the queues. -/
def EvictionCall.frame : EvictionCall → Option (String × Wire)
  | send connectionId _ data _ => some (connectionId, data)
  | removeDevice _ | removeConnection _ => none

/-- The calls about one connection. -/
def callsAbout (calls : List EvictionCall) (id : String) : List EvictionCall :=
  calls.filter fun call => call.subject = id

/-- The arguments of `handle_device_conflict` that describe the new connection, with the stamps of
the frames that it builds and the answers of the transports that it writes to. -/
structure NewDevice where
  owner : DeviceOwner
  connectionId : String
  platform : DevicePlatform
  deviceInfo : DeviceInfo
  stamps : String → Stamp
  answers : String → Result Unit

section DeviceConflict

variable [RustText]

namespace NewDevice

variable (registries : Registries) (arrival : NewDevice)

/-- The KICKED frame for a displaced connection. -/
def conflictFrame (victim : String) : Frame :=
  .withSystemCommand (arrival.stamps victim)
    (deviceConflictKicked arrival.platform arrival.deviceInfo.deviceId) .atLeastOnce

/-- What is handed to the transport of a displaced connection. -/
def kick (victim : String) (entry : ConnectionEntry) : List EvictionCall :=
  match entry.info.kickParser.serialize registries (arrival.conflictFrame victim) with
  | .ok data => [.send victim entry.connection data (arrival.answers victim)]
  | .error _ => []

end NewDevice

variable [Hashing]

/-- The two managers, with the calls made so far. -/
structure ConflictState where
  manager : ConnectionManager
  devices : Option DeviceManager
  calls : List EvictionCall

namespace NewDevice

variable (registries : Registries) (arrival : NewDevice)

/-- One turn of the loop of `handle_device_conflict`. -/
def evict (state : ConflictState) (victim : String) : ConflictState :=
  if victim = arrival.connectionId then state
  else
    match state.manager.connections.get victim with
    | some entry =>
        { manager := (state.manager.removeConnection victim).1
          devices := state.devices.map fun devices => devices.removeDevice arrival.owner victim
          calls := state.calls ++ (arrival.kick registries victim entry ++
            [.removeDevice victim, .removeConnection victim]) }
    | none =>
        { state with
          manager := (state.manager.removeConnection victim).1
          calls := state.calls ++ [.removeConnection victim] }

/-- `handle_device_conflict`, with the connections that it returns. -/
def handleDeviceConflict (manager : ConnectionManager) (devices : Option DeviceManager) :
    ConflictState × List String :=
  match devices with
  | none => (⟨manager, none, []⟩, [])
  | some devices =>
      let (devices, conflicts) :=
        devices.addDevice arrival.owner arrival.connectionId arrival.deviceInfo
      (conflicts.foldl (arrival.evict registries) ⟨manager, some devices, []⟩, conflicts)

end NewDevice

/-! ## The server core -/

namespace ConflictState

/-- The state of the server core: of the calls, the frames remain. -/
def forget (state : ConflictState) : ServerState where
  manager := state.manager
  devices := state.devices
  sent := state.calls.filterMap EvictionCall.frame

end ConflictState

namespace NewDevice

variable {registries : Registries} {arrival : NewDevice}

theorem forget_evict (declared : arrival.platform = arrival.deviceInfo.platform)
    (state : ConflictState) (victim : String) :
    (arrival.evict registries state victim).forget =
      ServerState.kickConflict registries arrival.stamps arrival.owner arrival.deviceInfo
        arrival.connectionId state.forget victim := by
  unfold evict ServerState.kickConflict
  split_ifs
  · rfl
  · cases found : state.manager.connections.get victim with
    | none => simp [ConflictState.forget, found, EvictionCall.frame]
    | some entry =>
        have sameFrame : arrival.conflictFrame victim =
            kickFrame (arrival.stamps victim) arrival.deviceInfo := by
          rw [conflictFrame, declared, kickFrame]
        simp only [ConflictState.forget, found, kick, sameFrame]
        cases entry.info.kickParser.serialize registries
            (kickFrame (arrival.stamps victim) arrival.deviceInfo) with
        | ok data => simp [EvictionCall.frame]
        | error error => simp [EvictionCall.frame]

/-- The server core passes the platform of the device, and does with the two managers what the
routine does. -/
theorem forget_handleDeviceConflict (declared : arrival.platform = arrival.deviceInfo.platform)
    (manager : ConnectionManager) (devices : DeviceManager) (negotiation : NegotiationResult)
    (described : negotiation.deviceInfo = some arrival.deviceInfo) :
    (ServerState.handleDeviceConflict registries arrival.stamps ⟨manager, some devices, []⟩
        arrival.connectionId negotiation (some arrival.owner)).1 =
      (arrival.handleDeviceConflict registries manager (some devices)).1.forget := by
  unfold ServerState.handleDeviceConflict handleDeviceConflict
  rw [described]
  dsimp only
  generalize (devices.addDevice arrival.owner arrival.connectionId arrival.deviceInfo).2 = victims
  generalize initial : (⟨manager, some (devices.addDevice arrival.owner arrival.connectionId
    arrival.deviceInfo).1, []⟩ : ConflictState) = state
  have start : (⟨manager, some (devices.addDevice arrival.owner arrival.connectionId
      arrival.deviceInfo).1, []⟩ : ServerState) = state.forget := by
    rw [← initial]
    rfl
  rw [start]
  clear initial start
  induction victims generalizing state with
  | nil => rfl
  | cons victim victims inductionHypothesis =>
      rw [List.foldl_cons, List.foldl_cons, ← forget_evict declared, inductionHypothesis]

end NewDevice

/-! ## Removing several connections -/

namespace ConnectionManager

variable {manager : ConnectionManager}

/-- `remove_connection` for each of several connections. -/
def removeConnections (manager : ConnectionManager) (ids : List String) : ConnectionManager :=
  ids.foldl (fun manager id => (manager.removeConnection id).1) manager

omit [RustText] in
theorem removeConnections_cons (manager : ConnectionManager) (id : String) (ids : List String) :
    manager.removeConnections (id :: ids) = (manager.removeConnection id).1.removeConnections ids :=
  rfl

/-- What a connection is to the manager: its entry, the owners that list it and its queues. -/
structure Alike (before after : ConnectionManager) (id : String) : Prop where
  entry : after.connections.get id = before.connections.get id
  listed : ∀ owner, (after.getUserConnections owner).count id =
    (before.getUserConnections owner).count id
  queues : ∀ serial, after.queues ⟨id, serial⟩ = before.queues ⟨id, serial⟩

omit [RustText] in
theorem Alike.refl (manager : ConnectionManager) (id : String) : Alike manager manager id :=
  ⟨rfl, fun _ => rfl, fun _ => rfl⟩

omit [RustText] in
theorem Alike.trans {before between after : ConnectionManager} {id : String}
    (first : Alike before between id) (second : Alike between after id) :
    Alike before after id where
  entry := second.entry.trans first.entry
  listed owner := (second.listed owner).trans (first.listed owner)
  queues serial := (second.queues serial).trans (first.queues serial)

omit [RustText] in
/-- A removal is about one connection. -/
theorem alike_removeConnection {id other : String} (distinct : other ≠ id) :
    Alike manager (manager.removeConnection id).1 other where
  entry := by
    rw [get_removeConnection, if_neg distinct]
  listed owner := by
    unfold removeConnection
    cases manager.connections.get id with
    | none => rfl
    | some entry =>
        refine (listed_removeOwnerConnection entry.info.owner id owner other).trans ?_
        rw [if_neg fun both => distinct both.2.symm]
        rfl
  queues serial := by
    unfold removeConnection
    cases manager.connections.get id with
    | none => rfl
    | some entry =>
        have elsewhere : (⟨other, serial⟩ : WriteHandle) ≠ ⟨id, entry.serial⟩ := by
          intro same
          exact distinct (WriteHandle.mk.inj same).1
        simp only [removeOwnerConnection_queues, releaseConnectionSlots_queues, closeQueue,
          eraseEntry_queues, Function.update_of_ne elsewhere]

omit [RustText] in
theorem alike_removeConnections {ids : List String} {other : String} (spared : other ∉ ids) :
    Alike manager (manager.removeConnections ids) other := by
  induction ids generalizing manager with
  | nil => exact .refl manager other
  | cons id ids inductionHypothesis =>
      have distinct : other ≠ id := List.ne_of_not_mem_cons spared
      have later : other ∉ ids := List.not_mem_of_not_mem_cons spared
      exact (alike_removeConnection distinct).trans (inductionHypothesis later)

omit [RustText] in
theorem get_removeConnections_of_mem {ids : List String} {id : String} (listed : id ∈ ids) :
    (manager.removeConnections ids).connections.get id = none := by
  induction ids generalizing manager with
  | nil => cases listed
  | cons first ids inductionHypothesis =>
      rw [removeConnections_cons]
      by_cases later : id ∈ ids
      · exact inductionHypothesis later
      · obtain rfl | later' := List.mem_cons.mp listed
        · rw [(alike_removeConnections later).entry, get_removeConnection, if_pos rfl]
        · exact absurd later' later

omit [RustText] in
theorem Settled.removeConnections (settled : Settled manager) (ids : List String) :
    Settled (manager.removeConnections ids) := by
  induction ids generalizing manager with
  | nil => exact settled
  | cons id ids inductionHypothesis =>
      exact inductionHypothesis (settled.removeConnection id)

omit [RustText] in
/-- In a settled manager a connection without entry is listed nowhere. -/
theorem Settled.not_mem_getUserConnections (settled : Settled manager) {id : String}
    (absent : manager.connections.get id = none) (owner : DeviceOwner) :
    id ∉ manager.getUserConnections owner := by
  have unowned : manager.owns owner id = 0 := by
    simp [owns, ownerOf, absent]
  exact List.count_eq_zero.mp ((settled.listed owner id).trans unowned)

end ConnectionManager

/-! ## The loop -/

namespace NewDevice

variable {registries : Registries} {arrival : NewDevice}

/-- The calls about a displaced connection, which the connection manager may know or not. -/
def eviction (registries : Registries) (arrival : NewDevice) (manager : ConnectionManager)
    (victim : String) : List EvictionCall :=
  match manager.connections.get victim with
  | some entry => arrival.kick registries victim entry ++
      [.removeDevice victim, .removeConnection victim]
  | none => [.removeConnection victim]

/-- A live victim is sent the KICKED, if it can be encoded, before both removals. -/
theorem eviction_of_encoded {manager : ConnectionManager} {victim : String}
    {entry : ConnectionEntry} {data : Wire}
    (live : manager.connections.get victim = some entry)
    (encoded : entry.info.kickParser.serialize registries (arrival.conflictFrame victim) =
      .ok data) :
    arrival.eviction registries manager victim =
      [.send victim entry.connection data (arrival.answers victim), .removeDevice victim,
        .removeConnection victim] := by
  have sent : arrival.kick registries victim entry =
      [.send victim entry.connection data (arrival.answers victim)] := by
    unfold kick
    rw [encoded]
  unfold eviction
  rw [live]
  dsimp only
  rw [sent]
  rfl

omit [Hashing] in
theorem subject_of_mem_kick {victim : String} {entry : ConnectionEntry} {call : EvictionCall}
    (made : call ∈ arrival.kick registries victim entry) : call.subject = victim := by
  unfold kick at made
  cases serialized : entry.info.kickParser.serialize registries (arrival.conflictFrame victim) with
  | ok data =>
      rw [serialized] at made
      rw [List.mem_singleton.mp made]
      rfl
  | error error =>
      rw [serialized] at made
      cases made

theorem subject_of_mem_eviction {manager : ConnectionManager} {victim : String}
    {call : EvictionCall} (made : call ∈ arrival.eviction registries manager victim) :
    call.subject = victim := by
  unfold eviction at made
  cases found : manager.connections.get victim with
  | none =>
      rw [found] at made
      rw [List.mem_singleton.mp made]
      rfl
  | some entry =>
      rw [found] at made
      rcases List.mem_append.mp made with sent | removed
      · exact subject_of_mem_kick sent
      · rcases List.mem_pair.mp removed with rfl | rfl
        · rfl
        · rfl

/-- The registration has already taken a displaced connection out of the device manager, so a
turn of the loop changes the connection manager only. -/
theorem evict_of_unowned {devices : DeviceManager} {victim : String}
    (distinct : victim ≠ arrival.connectionId) (unowned : devices.owners.lookup victim = none)
    (manager : ConnectionManager) (calls : List EvictionCall) :
    arrival.evict registries ⟨manager, some devices, calls⟩ victim =
      ⟨(manager.removeConnection victim).1, some devices,
        calls ++ arrival.eviction registries manager victim⟩ := by
  rw [evict, if_neg distinct, eviction]
  cases found : manager.connections.get victim with
  | none => rfl
  | some entry => simp only [Option.map_some, DeviceManager.removeDevice_of_unowned unowned]

/-- Each victim is dealt with as the manager knew it at first. -/
theorem foldl_evict {devices : DeviceManager} {victims : List String} (nodup : victims.Nodup)
    (distinct : ∀ victim ∈ victims, victim ≠ arrival.connectionId)
    (unowned : ∀ victim ∈ victims, devices.owners.lookup victim = none)
    (manager : ConnectionManager) (calls : List EvictionCall) :
    victims.foldl (arrival.evict registries) ⟨manager, some devices, calls⟩ =
      ⟨manager.removeConnections victims, some devices,
        calls ++ victims.flatMap (arrival.eviction registries manager)⟩ := by
  induction victims generalizing manager calls with
  | nil => simp [ConnectionManager.removeConnections]
  | cons victim victims inductionHypothesis =>
      obtain ⟨fresh, nodup⟩ := List.nodup_cons.mp nodup
      have unchanged : victims.flatMap (arrival.eviction registries
          (manager.removeConnection victim).1) =
            victims.flatMap (arrival.eviction registries manager) := by
        apply List.flatMap_congr
        intro later member
        have other : later ≠ victim := ne_of_mem_of_not_mem member fresh
        rw [eviction, ConnectionManager.get_removeConnection, if_neg other, ← eviction]
      rw [List.foldl_cons, evict_of_unowned (distinct victim List.mem_cons_self)
          (unowned victim List.mem_cons_self),
        inductionHypothesis nodup (fun later member => distinct later (.tail victim member))
          (fun later member => unowned later (.tail victim member)),
        unchanged, List.flatMap_cons, List.append_assoc]
      rfl

/-- The calls about a connection are those of its own turn. -/
theorem callsAbout_flatMap {victims : List String} (nodup : victims.Nodup)
    (manager : ConnectionManager) (id : String) :
    callsAbout (victims.flatMap (arrival.eviction registries manager)) id =
      if id ∈ victims then arrival.eviction registries manager id else [] := by
  have own : ∀ victim, callsAbout (arrival.eviction registries manager victim) id =
      if victim = id then arrival.eviction registries manager victim else [] := by
    intro victim
    unfold callsAbout
    split_ifs with same
    · apply List.filter_eq_self.mpr
      intro call made
      exact decide_eq_true ((subject_of_mem_eviction made).trans same)
    · apply List.filter_eq_nil_iff.mpr
      intro call made
      rw [subject_of_mem_eviction made, decide_eq_true_eq]
      exact same
  induction victims with
  | nil => rfl
  | cons victim victims inductionHypothesis =>
      obtain ⟨fresh, nodup⟩ := List.nodup_cons.mp nodup
      have split : callsAbout ((victim :: victims).flatMap (arrival.eviction registries manager))
          id = callsAbout (arrival.eviction registries manager victim) id ++
            callsAbout (victims.flatMap (arrival.eviction registries manager)) id := by
        rw [List.flatMap_cons, callsAbout, List.filter_append]
        rfl
      rw [split, own, inductionHypothesis nodup]
      by_cases same : victim = id
      · subst same
        simp [fresh]
      · simp [same, Ne.symm same]

omit [Hashing] in
/-- Leaving the encryption out makes nothing harder to encode: what the stored codec can encode,
the parser of the KICKED can encode. -/
theorem kickParser_encodes {info : ConnectionInfo} {frame : Frame} {stored : Wire}
    (encodes : (MessageParser.new info.serializationFormat info.compression
      info.encryption).serialize registries frame = .ok stored) :
    ∃ data, info.kickParser.serialize registries frame = .ok data := by
  obtain ⟨packed, isPacked, -⟩ := MessageParser.packed_of_serializeWithFormat encodes
  have unencrypted : info.kickParser.pack registries frame info.serializationFormat
      info.compression = .ok packed := isPacked
  refine ⟨fun _ => packed, ?_⟩
  rw [MessageParser.serialize, MessageParser.serializeWithFormat_eq]
  exact congrArg (Except.bind · _) unencrypted

/-! ## The outcome -/

/-- A connection conflicts with the new one if it is another connection of the same owner, on a
platform that the strategy gives up for the new device. -/
def ConflictsWith (arrival : NewDevice) (devices : DeviceManager) (victim : String) : Prop :=
  victim ≠ arrival.connectionId ∧ ∃ displaced,
    devices.registration arrival.owner victim = some displaced ∧
      displaced.deviceInfo.platform ∈ devices.strategy.checkConflict arrival.deviceInfo.platform
        (devices.existingPlatforms arrival.owner arrival.connectionId)

/-- The outcome of `handle_device_conflict`: from a connection manager and a device manager to a
state and a list of connections, with `after` for the device manager of the state. -/
structure Resolved (registries : Registries) (arrival : NewDevice) (manager : ConnectionManager)
    (before after : DeviceManager) (state : ConflictState) (conflicts : List String) : Prop where
  /-- Those that conflict are returned. -/
  mem_conflicts : ∀ victim, victim ∈ conflicts ↔ arrival.ConflictsWith before victim
  /-- They are absent from the device manager, -/
  unregistered : ∀ victim, arrival.ConflictsWith before victim →
    after.owners.lookup victim = none ∧ ∀ owner, after.registration owner victim = none
  /-- and from the connection manager, -/
  removed : ∀ victim, arrival.ConflictsWith before victim →
    state.manager.connections.get victim = none
  /-- also from its index, if that agreed with the table. -/
  unlisted : manager.Settled → ∀ victim, arrival.ConflictsWith before victim →
    ∀ owner, victim ∉ state.manager.getUserConnections owner
  /-- The new connection is registered. -/
  registered : after.owners.lookup arrival.connectionId = some arrival.owner ∧
    after.registration arrival.owner arrival.connectionId =
      some ⟨arrival.connectionId, arrival.deviceInfo⟩
  /-- The transport of a live one is handed one KICKED and nothing else, before the removals. -/
  kicked : ∀ victim, arrival.ConflictsWith before victim →
    ∀ entry, manager.connections.get victim = some entry →
      ∀ data, entry.info.kickParser.serialize registries (arrival.conflictFrame victim) =
        .ok data →
      callsAbout state.calls victim = [.send victim entry.connection data (arrival.answers victim),
        .removeDevice victim, .removeConnection victim]
  /-- What the stored codec can encode, the parser of the KICKED can encode. -/
  encodable : ∀ victim entry stored, manager.connections.get victim = some entry →
    (MessageParser.new entry.info.serializationFormat entry.info.compression
      entry.info.encryption).serialize registries (arrival.conflictFrame victim) = .ok stored →
    ∃ data, entry.info.kickParser.serialize registries (arrival.conflictFrame victim) = .ok data
  /-- The KICKED gives the conflict as its reason. -/
  reason : ∀ victim, ∃ metadata, systemCommand (arrival.conflictFrame victim) =
    some (.kicked deviceConflictReason metadata)
  /-- A connection that neither conflicts nor is new is as it was, and no call is about it; -/
  spared : ∀ id, id ≠ arrival.connectionId → ¬arrival.ConflictsWith before id →
    manager.Alike state.manager id ∧ callsAbout state.calls id = [] ∧
      after.owners.lookup id = before.owners.lookup id ∧
      ∀ owner, after.registration owner id = before.registration owner id
  /-- in particular a connection of another owner. -/
  other_owners : ∀ id owner, before.owners.lookup id = some owner → owner ≠ arrival.owner →
    ¬arrival.ConflictsWith before id

variable (registries arrival)

/-- What the routine computes: the device manager is done with the registration, the connection
manager loses the victims one by one, and the calls are those of the victims' turns. -/
theorem handleDeviceConflict_eq (manager : ConnectionManager) (devices : DeviceManager) :
    arrival.handleDeviceConflict registries manager (some devices) =
      let added := devices.addDevice arrival.owner arrival.connectionId arrival.deviceInfo
      (⟨manager.removeConnections added.2, some added.1,
        added.2.flatMap (arrival.eviction registries manager)⟩, added.2) := by
  have distinct : ∀ victim ∈ (devices.addDevice arrival.owner arrival.connectionId
      arrival.deviceInfo).2, victim ≠ arrival.connectionId :=
    fun victim displaced => (DeviceManager.mem_conflicts_iff.mp displaced).1
  unfold handleDeviceConflict
  dsimp only
  rw [foldl_evict (DeviceManager.nodup_conflicts _ _ _) distinct
    (fun victim displaced => DeviceManager.lookup_owners_of_displaced displaced), List.nil_append]

omit [RustText] [Hashing] in
/-- A connection of another owner does not conflict. -/
theorem not_conflictsWith {devices : DeviceManager} (wellFormed : devices.WellFormed) {id : String}
    {owner : DeviceOwner} (owned : devices.owners.lookup id = some owner)
    (distinct : owner ≠ arrival.owner) : ¬arrival.ConflictsWith devices id := by
  rintro ⟨-, displaced, registered, -⟩
  rw [wellFormed.registration_eq_none owned (Ne.symm distinct)] at registered
  cases registered

end NewDevice

end DeviceConflict

end FlareCore.Server
