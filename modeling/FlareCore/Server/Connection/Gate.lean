import FlareCore.Server.Connection.Grouping

/-!
# The authentication gate

Five public entry points send frames, each of them with or without an explicit parser, and
with two encoding strategies between them.  On all of them a connection that is not
authenticated is sent CONNECT_ACK, PING, PONG, ERROR and CLOSE frames only, and an
authenticated connection is sent what it would be sent without the gate
(`frames_gated_on_every_path`).

Each path is a fan-out of some snapshots with some encoding (`FramePath.queues_send`); the
gate is a matter of the encoding alone.
-/

namespace FlareCore.Server

open FlareCore.Common FlareCore.Foundations

set_option autoImplicit false

/-- The types of system frames that may be sent before authentication. -/
def handshakeTypes : List SystemType :=
  [.connectAck, .ping, .pong, .error, .close]

/-- The gate lets exactly the system frames of these types pass. -/
theorem frameAllowedBeforeAuth_iff (frame : Frame) :
    frameAllowedBeforeAuth frame = true ↔
      ∃ command, frame.commandType = some (.system command) ∧
        ∃ type ∈ handshakeTypes, command.type = type.toInt32 := by
  unfold frameAllowedBeforeAuth handshakeTypes
  split
  · next command found =>
      simp [found, or_assoc]
  · next other =>
      constructor
      · intro allowed
        cases allowed
      · rintro ⟨command, found, -⟩
        exact absurd found (other command)

theorem WriteQueue.foldl_offer_of_none {offers : List (Option Wire)}
    (nothing : ∀ offered ∈ offers, offered = none) (queue : WriteQueue) :
    offers.foldl WriteQueue.offer queue = queue := by
  induction offers with
  | nil => rfl
  | cons offered offers inductionHypothesis =>
      rw [List.foldl_cons, nothing offered List.mem_cons_self]
      exact inductionHypothesis fun later member => nothing later (List.mem_cons_of_mem _ member)

section Gate

variable [Hashing] [RustText]

/-- The public sends of frames. -/
inductive FramePath where
  | sendFrameTo (connectionId : String) (parser : Option MessageParser)
  | sendFrameToUser (owner : DeviceOwner) (parser : Option MessageParser)
  | broadcastFrame (parser : Option MessageParser)
  | broadcastFrameExcept (excluded : String) (parser : Option MessageParser)
  | sendFrameToConnections (ids : List String)

namespace FramePath

open ConnectionManager

/-- The manager after a send, with a given gate. -/
def send (registries : Registries) (gate : Frame → Bool) (enumeration : Enumeration CodecProfile)
    (manager : ConnectionManager) (frame : Frame) (now : Instant) : FramePath → ConnectionManager
  | .sendFrameTo id parser => (manager.sendFrameTo registries gate id frame parser now).1
  | .sendFrameToUser owner parser => manager.sendFrameToUser registries gate owner frame parser now
  | .broadcastFrame parser => manager.broadcastFrame registries gate frame parser now
  | .broadcastFrameExcept excluded parser =>
      manager.broadcastFrameExcept registries gate frame excluded parser now
  | .sendFrameToConnections ids =>
      (fanoutFrameGroupedByEncoding registries gate enumeration manager ids frame now).1

/-- The snapshots a send goes through, in order. -/
def targets (enumeration : Enumeration CodecProfile) (manager : ConnectionManager) :
    FramePath → List ConnectionSnapshot
  | .sendFrameTo id _ => (manager.getConnectionSnapshot id).toList
  | .sendFrameToUser owner _ => manager.connectionSnapshotsForIds (manager.getUserConnections owner)
  | .broadcastFrame _ => manager.connectionSnapshots
  | .broadcastFrameExcept excluded _ => manager.connectionSnapshotsExcept excluded
  | .sendFrameToConnections ids => regrouped enumeration (manager.connectionSnapshotsForIds ids)

/-- What a send puts on the wire for a snapshot. -/
def encode (registries : Registries) (gate : Frame → Bool) (frame : Frame) (path : FramePath)
    (snapshot : ConnectionSnapshot) : Result Wire :=
  match path with
  | .sendFrameTo _ parser | .sendFrameToUser _ parser | .broadcastFrame parser
  | .broadcastFrameExcept _ parser =>
      serializeFrameForConnection registries gate snapshot.connectionId snapshot.info frame parser
  | .sendFrameToConnections _ => groupEncode registries gate frame snapshot

variable {registries : Registries} {gate : Frame → Bool} {enumeration : Enumeration CodecProfile}
  {manager : ConnectionManager} {frame : Frame}

omit [RustText] in
/-- Targets are snapshots of the table. -/
theorem getConnectionSnapshot_of_mem_targets {path : FramePath} {snapshot : ConnectionSnapshot}
    (member : snapshot ∈ path.targets enumeration manager) :
    manager.getConnectionSnapshot snapshot.connectionId = some snapshot := by
  have inTable : snapshot ∈ manager.connectionSnapshots →
      manager.getConnectionSnapshot snapshot.connectionId = some snapshot := by
    intro listed
    obtain ⟨⟨id, entry⟩, bound, rfl⟩ := List.mem_map.mp listed
    rw [getConnectionSnapshot]
    exact Option.map_eq_some_iff.mpr ⟨entry, ShardedMap.mem_bindings.mp bound, rfl⟩
  cases path with
  | sendFrameTo id parser =>
      have found := Option.mem_toList.mp member
      rwa [← getConnectionSnapshot_id found] at found
  | sendFrameToUser owner parser => exact getConnectionSnapshot_of_mem member
  | broadcastFrame parser => exact inTable member
  | broadcastFrameExcept excluded parser => exact inTable (List.mem_filter.mp member).1
  | sendFrameToConnections ids => exact getConnectionSnapshot_of_mem_regrouped enumeration member

/-- An explicit parser serializes first, which makes no difference to what is sent. -/
theorem sendFrameToSnapshots_queues (snapshots : List ConnectionSnapshot)
    (parser : Option MessageParser) (now : Instant) :
    (manager.sendFrameToSnapshots registries gate snapshots frame parser now).queues =
      (fanout (fun snapshot => serializeFrameForConnection registries gate snapshot.connectionId
        snapshot.info frame parser) (manager, []) snapshots).1.queues := by
  cases parser with
  | none => exact updateConnectionsActive_queues _ _ now
  | some parser =>
      unfold sendFrameToSnapshots
      dsimp only
      cases serialized : parser.serialize registries frame with
      | error error =>
          rw [fanout_of_none]
          intro snapshot _
          simp only [serializeFrameForConnection, serialized]
          cases ensureFrameAllowedForConnection gate snapshot.connectionId snapshot.info frame <;> rfl
      | ok data =>
          dsimp only
          rw [updateConnectionsActive_queues, fanoutSerializedFrame]
          refine congrArg (fun sent => sent.1.queues) (fanout_congr ?_ _)
          intro snapshot _
          simp only [serializeFrameForConnection, serialized]
          rfl

/-- A send to one connection is a fan-out of its snapshot. -/
theorem sendFrameTo_queues (id : String) (parser : Option MessageParser) (now : Instant) :
    (manager.sendFrameTo registries gate id frame parser now).1.queues =
      (fanout (fun snapshot => serializeFrameForConnection registries gate snapshot.connectionId
        snapshot.info frame parser) (manager, [])
          (manager.getConnectionSnapshot id).toList).1.queues := by
  unfold ConnectionManager.sendFrameTo
  cases manager.getConnectionSnapshot id with
  | none => rfl
  | some snapshot =>
      rw [Option.toList_some, fanout_cons]
      dsimp only
      cases sent : manager.sendEncoded (fun snapshot => serializeFrameForConnection registries gate
        snapshot.connectionId snapshot.info frame parser) snapshot with
      | mk manager' result =>
          cases result with
          | error error => rfl
          | ok => exact touch_queues manager' id now

/-- **Every path offers each target its encoding, and nothing else.** -/
theorem queues_send (path : FramePath) (now : Instant) (handle : WriteHandle) :
    (path.send registries gate enumeration manager frame now).queues handle =
      (((path.targets enumeration manager).filter fun snapshot => snapshot.handle = handle).map
        fun snapshot => (path.encode registries gate frame snapshot).toOption).foldl
          WriteQueue.offer (manager.queues handle) := by
  have agrees : ∀ snapshot ∈ path.targets enumeration manager, Agrees manager snapshot :=
    fun _ member => agrees_of_getConnectionSnapshot (getConnectionSnapshot_of_mem_targets member)
  have fannedOut : (path.send registries gate enumeration manager frame now).queues =
      (fanout (path.encode registries gate frame) (manager, [])
        (path.targets enumeration manager)).1.queues := by
    cases path with
    | sendFrameTo id parser => exact sendFrameTo_queues id parser now
    | sendFrameToUser owner parser => exact sendFrameToSnapshots_queues _ parser now
    | broadcastFrame parser => exact sendFrameToSnapshots_queues _ parser now
    | broadcastFrameExcept excluded parser => exact sendFrameToSnapshots_queues _ parser now
    | sendFrameToConnections ids =>
        simp only [send, fanoutFrameGroupedByEncoding_eq, updateConnectionsActive_queues]
        rfl
  rw [fannedOut]
  exact queues_fanout agrees handle

omit [Hashing] in
/-- Without authentication nothing is encoded but handshake frames. -/
theorem encode_of_unauthenticated (path : FramePath) {snapshot : ConnectionSnapshot}
    (unauthenticated : snapshot.info.authenticated = false) (refused : gate frame = false) :
    (path.encode registries gate frame snapshot).toOption = none := by
  have blocked : ensureFrameAllowedForConnection gate snapshot.connectionId snapshot.info frame =
      .error (notAuthenticated snapshot.connectionId) := by
    rw [ensureFrameAllowedForConnection, unauthenticated, refused]
    rfl
  cases path with
  | sendFrameToConnections ids =>
      simp only [encode, groupEncode, serializeFrameForConnection, blocked]
      split <;> rfl
  | _ =>
      simp only [encode, serializeFrameForConnection, blocked]
      rfl

omit [Hashing] in
/-- With authentication the gate is not consulted. -/
theorem encode_of_authenticated (path : FramePath) {snapshot : ConnectionSnapshot}
    (authenticated : snapshot.info.authenticated = true) (other : Frame → Bool) :
    path.encode registries gate frame snapshot = path.encode registries other frame snapshot := by
  have passes : ∀ any : Frame → Bool, ensureFrameAllowedForConnection any snapshot.connectionId
      snapshot.info frame = .ok () := by
    intro any
    rw [ensureFrameAllowedForConnection, authenticated]
    rfl
  cases path with
  | sendFrameToConnections ids =>
      simp only [encode, groupEncode, serializeFrameForConnection, passes]
  | _ => simp only [encode, serializeFrameForConnection, passes]

end FramePath

/-- **The gate holds on every path.**  A connection of the table that is not authenticated
gets nothing but CONNECT_ACK, PING, PONG, ERROR and CLOSE frames, and one that is
authenticated gets exactly what it would get if there were no gate. -/
theorem frames_gated_on_every_path (registries : Registries) (enumeration : Enumeration CodecProfile)
    (manager : ConnectionManager) (frame : Frame) (now : Instant) (path : FramePath) (id : String)
    (entry : ConnectionEntry) (found : manager.connections.get id = some entry) :
    (entry.info.authenticated = false →
      ((path.send registries frameAllowedBeforeAuth enumeration manager frame now).queues
        ⟨id, entry.serial⟩).items ≠ (manager.queues ⟨id, entry.serial⟩).items →
      ∃ command, frame.commandType = some (.system command) ∧
        ∃ type ∈ handshakeTypes, command.type = type.toInt32) ∧
    (entry.info.authenticated = true →
      ((path.send registries frameAllowedBeforeAuth enumeration manager frame now).queues
        ⟨id, entry.serial⟩).items =
      ((path.send registries (fun _ => true) enumeration manager frame now).queues
        ⟨id, entry.serial⟩).items) := by
  have own : ∀ snapshot ∈ (path.targets enumeration manager).filter fun snapshot =>
      snapshot.handle = ⟨id, entry.serial⟩, snapshot.info = entry.info := by
    intro snapshot member
    obtain ⟨target, here⟩ := List.mem_filter.mp member
    have sameId : snapshot.connectionId = id :=
      (WriteHandle.mk.inj (of_decide_eq_true here)).1
    have snapped := FramePath.getConnectionSnapshot_of_mem_targets target
    rw [sameId, ConnectionManager.getConnectionSnapshot, found] at snapped
    rw [← Option.some.inj snapped]
  refine ⟨?_, ?_⟩
  · intro unauthenticated changed
    refine (frameAllowedBeforeAuth_iff frame).mp ?_
    by_contra refused
    refine changed ?_
    rw [FramePath.queues_send]
    refine congrArg WriteQueue.items (WriteQueue.foldl_offer_of_none ?_ _)
    intro offered member
    obtain ⟨snapshot, target, rfl⟩ := List.mem_map.mp member
    have same : snapshot.info.authenticated = false := by
      rw [own snapshot target]
      exact unauthenticated
    exact path.encode_of_unauthenticated same (Bool.eq_false_iff.mpr refused)
  · intro authenticated
    rw [FramePath.queues_send, FramePath.queues_send]
    congr 2
    refine List.map_congr_left ?_
    intro snapshot member
    have same : snapshot.info.authenticated = true := by
      rw [own snapshot member]
      exact authenticated
    rw [path.encode_of_authenticated same]

end Gate

/-! ## A concrete state -/

section Run

open scoped SingleShard AsciiText

namespace ConnectionManager

/-- A manager with a connection that waits for authentication and one that does not. -/
def mixedManager : ConnectionManager :=
  (((new 8).addConnection "waiting" 0 none true 0).1.addConnection "ready" 1 none false 0).1

/-- A broadcast of a frame without command reaches the authenticated connection only. -/
theorem frames_gated_on_every_path_mixed :
    ((FramePath.send idRegistries frameAllowedBeforeAuth ⟨id, fun _ => .rfl⟩ mixedManager
        sampleFrame 0 (.broadcastFrame none)).queues ⟨"waiting", 0⟩).items =
      (mixedManager.queues ⟨"waiting", 0⟩).items ∧
    ((FramePath.send idRegistries frameAllowedBeforeAuth ⟨id, fun _ => .rfl⟩ mixedManager
        sampleFrame 0 (.broadcastFrame none)).queues ⟨"ready", 1⟩).items =
      ((FramePath.send idRegistries (fun _ => true) ⟨id, fun _ => .rfl⟩ mixedManager
        sampleFrame 0 (.broadcastFrame none)).queues ⟨"ready", 1⟩).items ∧
    ((FramePath.send idRegistries frameAllowedBeforeAuth ⟨id, fun _ => .rfl⟩ mixedManager
        sampleFrame 0 (.broadcastFrame none)).queues ⟨"ready", 1⟩).items.length = 1 := by
  have waiting : mixedManager.connections.get "waiting" =
      some ⟨0, 0, initialInfo "waiting" none true 0⟩ := rfl
  have ready : mixedManager.connections.get "ready" =
      some ⟨1, 1, initialInfo "ready" none false 0⟩ := rfl
  refine ⟨?_, ?_, by decide +kernel⟩
  · by_contra changed
    obtain ⟨command, isSystem, -⟩ := (frames_gated_on_every_path idRegistries ⟨id, fun _ => .rfl⟩
      mixedManager sampleFrame 0 (.broadcastFrame none) "waiting" _ waiting).1 rfl changed
    cases isSystem
  · exact (frames_gated_on_every_path idRegistries ⟨id, fun _ => .rfl⟩ mixedManager sampleFrame 0
      (.broadcastFrame none) "ready" _ ready).2 rfl

end ConnectionManager

end Run

end FlareCore.Server
