import FlareCore.Server.Connection.Accounting

/-!
# Sending frames

The frame sending paths of the manager.  All of them resolve their targets to snapshots,
decide for each snapshot what to put on the wire, and offer that to the write queue of the
snapshot's handle.  A queue that refuses is closed, and its connection removed.

`fanout` is the common loop; `encode` is where the paths differ.  The frames that may be
sent to a connection before it is authenticated are the parameter `gate`, which the manager
sets to `frameAllowedBeforeAuth`.

`queues_fanout` says that the queue of a handle sees exactly the offers made to that handle,
in order: closing and removing one connection never disturbs the queue of another.
-/

namespace FlareCore.Server

open FlareCore.Common FlareCore.Foundations

set_option autoImplicit false

/-- `frame_allowed_before_auth`. -/
def frameAllowedBeforeAuth (frame : Frame) : Bool :=
  match frame.commandType with
  | some (.system command) =>
      command.type = SystemType.connectAck.toInt32 || command.type = SystemType.ping.toInt32 ||
        command.type = SystemType.pong.toInt32 || command.type = SystemType.error.toInt32 ||
        command.type = SystemType.close.toInt32
  | _ => false

/-- A serialization format and a compression algorithm. -/
abbrev CodecProfile := SerializationFormat × CompressionAlgorithm

/-- A hash map is enumerated in an order of its own. -/
structure Enumeration (K : Type) where
  order : List K → List K
  perm : ∀ keys, (order keys).Perm keys

/-- The order in which the keys are given, for runs on concrete inputs. -/
def Enumeration.given (K : Type) : Enumeration K where
  order := id
  perm := fun _ => .rfl

section Sending

variable [Hashing] [RustText] (registries : Registries) (gate : Frame → Bool)

namespace ConnectionManager

/-! ## What is sent -/

def notAuthenticated (connectionId : String) : FlareError :=
  .authenticationFailed ("连接 " ++ connectionId ++ " 未验证，无法发送消息")

/-- `ensure_frame_allowed_for_connection`. -/
def ensureFrameAllowedForConnection (connectionId : String) (info : ConnectionInfo)
    (frame : Frame) : Result Unit :=
  if info.authenticated || gate frame then .ok () else .error (notAuthenticated connectionId)

/-- `serialize_frame_for_connection`: an explicit parser, else the profile of the connection,
which is the one before negotiation as long as the negotiation is not completed. -/
def serializeFrameForConnection (connectionId : String) (info : ConnectionInfo) (frame : Frame)
    (parser : Option MessageParser) : Result Wire := do
  ensureFrameAllowedForConnection gate connectionId info frame
  match parser with
  | some parser => parser.serialize registries frame
  | none =>
      if !info.negotiationCompleted then MessageParser.preNegotiation.serialize registries frame
      else
        match info.cachedParser with
        | some parser => parser.serialize registries frame
        | none =>
            (MessageParser.new info.serializationFormat info.compression info.encryption).serialize
              registries frame

/-! ## Sending to one connection -/

/-- `send_to_connection_handle`. -/
def sendToConnectionHandle (manager : ConnectionManager) (connectionId : String)
    (handle : WriteHandle) (data : Wire) : ConnectionManager × Result Unit :=
  match (manager.queues handle).tryEnqueue data with
  | (queue, .ok ()) => ({ manager with queues := Function.update manager.queues handle queue }, .ok ())
  | (_, .error error) => (((manager.closeQueue handle).removeConnection connectionId).1, .error error)

/-- Encodes for a snapshot and sends.  With `serializeFrameForConnection` this is
`send_frame_to_snapshot_without_active`; the path for serialized frames differs in `encode`
only. -/
def sendEncoded (encode : ConnectionSnapshot → Result Wire) (manager : ConnectionManager)
    (snapshot : ConnectionSnapshot) : ConnectionManager × Result Unit :=
  match encode snapshot with
  | .error error => (manager, .error error)
  | .ok data => manager.sendToConnectionHandle snapshot.connectionId snapshot.handle data

/-- `send_frame_to`, with the refresh of `send_frame_to_snapshot`. -/
def sendFrameTo (manager : ConnectionManager) (connectionId : String) (frame : Frame)
    (parser : Option MessageParser) (now : Instant) : ConnectionManager × Result Unit :=
  match manager.getConnectionSnapshot connectionId with
  | none => (manager, .error (.connectionFailed ("连接 " ++ connectionId ++ " 不存在")))
  | some snapshot =>
      match manager.sendEncoded (fun snapshot => serializeFrameForConnection registries gate
          snapshot.connectionId snapshot.info frame parser) snapshot with
      | (manager, .ok ()) => manager.updateConnectionActive connectionId now
      | (manager, .error error) => (manager, .error error)

/-! ## Sending to several connections -/

/-- The ids served so far, after one more send. -/
def served (successful : List String) (connectionId : String) : Result Unit → List String
  | .ok () => successful ++ [connectionId]
  | .error _ => successful

/-- The loop of every fan-out, with the ids that were served. -/
def fanout (encode : ConnectionSnapshot → Result Wire) (state : ConnectionManager × List String)
    (snapshots : List ConnectionSnapshot) : ConnectionManager × List String :=
  snapshots.foldl (fun state snapshot =>
    let (manager, result) := state.1.sendEncoded encode snapshot
    (manager, served state.2 snapshot.connectionId result)) state

/-- `fanout_frame_to_snapshots`. -/
def fanoutFrameToSnapshots (state : ConnectionManager × List String)
    (snapshots : List ConnectionSnapshot) (frame : Frame) (parser : Option MessageParser) :
    ConnectionManager × List String :=
  fanout (fun snapshot => serializeFrameForConnection registries gate snapshot.connectionId
    snapshot.info frame parser) state snapshots

/-- `fanout_serialized_frame_to_auth_snapshots`, and the loop over one group of a grouped
fan-out: the frame is serialized already, only the gate is left. -/
def fanoutSerializedFrame (state : ConnectionManager × List String)
    (snapshots : List ConnectionSnapshot) (frame : Frame) (data : Wire) :
    ConnectionManager × List String :=
  fanout (fun snapshot => do
    ensureFrameAllowedForConnection gate snapshot.connectionId snapshot.info frame
    return data) state snapshots

/-- The common body of the sends to a user and of the broadcasts. -/
def sendFrameToSnapshots (manager : ConnectionManager) (snapshots : List ConnectionSnapshot)
    (frame : Frame) (parser : Option MessageParser) (now : Instant) : ConnectionManager :=
  match parser with
  | some parser =>
      match parser.serialize registries frame with
      | .error _ => manager
      | .ok data =>
          let (manager, successful) := fanoutSerializedFrame gate (manager, []) snapshots frame data
          manager.updateConnectionsActive successful now
  | none =>
      let (manager, successful) :=
        fanoutFrameToSnapshots registries gate (manager, []) snapshots frame none
      manager.updateConnectionsActive successful now

/-- `send_to_user`: the data is given, and nothing is refreshed. -/
def sendToUser (manager : ConnectionManager) (owner : DeviceOwner) (data : Wire) :
    ConnectionManager :=
  (fanout (fun _ => .ok data) (manager, [])
    (manager.connectionSnapshotsForIds (manager.getUserConnections owner))).1

def sendFrameToUser (manager : ConnectionManager) (owner : DeviceOwner) (frame : Frame)
    (parser : Option MessageParser) (now : Instant) : ConnectionManager :=
  manager.sendFrameToSnapshots registries gate
    (manager.connectionSnapshotsForIds (manager.getUserConnections owner)) frame parser now

def broadcastFrame (manager : ConnectionManager) (frame : Frame) (parser : Option MessageParser)
    (now : Instant) : ConnectionManager :=
  manager.sendFrameToSnapshots registries gate manager.connectionSnapshots frame parser now

def broadcastFrameExcept (manager : ConnectionManager) (frame : Frame) (excluded : String)
    (parser : Option MessageParser) (now : Instant) : ConnectionManager :=
  manager.sendFrameToSnapshots registries gate (manager.connectionSnapshotsExcept excluded) frame
    parser now

/-! ## Grouped fan-out -/

/-- The codec profile under which an unencrypted connection shares its bytes. -/
def sharedProfile (info : ConnectionInfo) : Option CodecProfile :=
  if !info.negotiationCompleted then some (.json, .none)
  else if info.encryption = .none then some (info.serializationFormat, info.compression)
  else none

/-- One group: the frame is serialized once, and a failure fails the whole group. -/
def fanoutGroup (frame : Frame) (snapshots : List ConnectionSnapshot)
    (state : ConnectionManager × List String)
    (profile : CodecProfile) : ConnectionManager × List String :=
  match (MessageParser.new profile.1 profile.2 .none).serialize registries frame with
  | .error _ => state
  | .ok data =>
      fanoutSerializedFrame gate state
        (snapshots.filter fun snapshot => sharedProfile snapshot.info = some profile) frame data

/-- `i32::saturating_sub`. -/
def saturatingSub (first second : Int32) : Int32 :=
  Int32.ofIntClamp (first.toInt - second.toInt)

/-- `fanout_frame_grouped_by_encoding`, the manager's `send_frame_to_connections`. -/
def fanoutFrameGroupedByEncoding
    (enumeration : Enumeration CodecProfile)
    (manager : ConnectionManager) (ids : List String) (frame : Frame) (now : Instant) :
    ConnectionManager × Int32 × Int32 :=
  let snapshots := manager.connectionSnapshotsForIds ids
  if snapshots.length = 0 then (manager, 0, 0)
  else
    let profiles := enumeration.order (snapshots.filterMap (sharedProfile ·.info)).dedup
    let encrypted := snapshots.filter fun snapshot => sharedProfile snapshot.info = none
    let state := profiles.foldl (fanoutGroup registries gate frame snapshots) (manager, [])
    let (manager, successful) := fanoutFrameToSnapshots registries gate state encrypted frame none
    let success := Int32.ofNat successful.length
    (manager.updateConnectionsActive successful now, success,
      saturatingSub (Int32.ofNat snapshots.length) success)

/-- The counts of successes and failures, after one more send. -/
def tally (counts : Int32 × Int32) : Result Unit → Int32 × Int32
  | .ok () => (counts.1 + 1, counts.2)
  | .error _ => (counts.1, counts.2 + 1)

/-- The default `send_frame_to_connections` of the trait, one id after the other. -/
def sendFrameToEach (manager : ConnectionManager) (ids : List String) (frame : Frame)
    (now : Instant) : ConnectionManager × Int32 × Int32 :=
  ids.foldl (fun state id =>
    let (manager, result) := state.1.sendFrameTo registries gate id frame none now
    (manager, tally state.2 result)) (manager, 0, 0)

end ConnectionManager

end Sending

/-! ## The queue of one handle -/

/-- What a queue becomes when something, or nothing, is sent to it. -/
def WriteQueue.offer (queue : WriteQueue) : Option Wire → WriteQueue
  | none => queue
  | some data =>
      match queue.tryEnqueue data with
      | (queue', .ok ()) => queue'
      | (_, .error _) => queue.close

theorem WriteQueue.close_of_closed {queue : WriteQueue} (closed : queue.closed = true) :
    queue.close = queue := by
  rw [WriteQueue.close, ← closed]

section Queues

variable [Hashing]

namespace ConnectionManager

variable {manager : ConnectionManager} {encode : ConnectionSnapshot → Result Wire}
  {snapshot : ConnectionSnapshot}

/-- The table entry of a snapshot's connection, if there is one, has the snapshot's queue. -/
def Agrees (manager : ConnectionManager) (snapshot : ConnectionSnapshot) : Prop :=
  ∀ entry, manager.connections.get snapshot.connectionId = some entry →
    entry.serial = snapshot.serial

theorem agrees_of_getConnectionSnapshot {connectionId : String}
    (found : manager.getConnectionSnapshot connectionId = some snapshot) :
    Agrees manager snapshot := by
  obtain ⟨entry, present, rfl⟩ := Option.map_eq_some_iff.mp found
  intro other here
  rw [present] at here
  rw [Option.some.inj here]

/-- Removing a connection whose queue is closed leaves all queues as they are. -/
theorem queues_removeConnection (agrees : Agrees manager snapshot)
    (closed : (manager.queues snapshot.handle).closed = true) :
    (manager.removeConnection snapshot.connectionId).1.queues = manager.queues := by
  unfold removeConnection
  cases found : manager.connections.get snapshot.connectionId with
  | none => rfl
  | some entry =>
      have same : (⟨snapshot.connectionId, entry.serial⟩ : WriteHandle) = snapshot.handle := by
        rw [agrees entry found]
        rfl
      simp only [removeOwnerConnection_queues, releaseConnectionSlots_queues, closeQueue,
        eraseEntry_queues, same, WriteQueue.close_of_closed closed, Function.update_eq_self]

/-- Sending changes the queue it is addressed to, and no other. -/
theorem queues_sendEncoded (agrees : Agrees manager snapshot) :
    (manager.sendEncoded encode snapshot).1.queues =
      Function.update manager.queues snapshot.handle
        ((manager.queues snapshot.handle).offer (encode snapshot).toOption) := by
  unfold sendEncoded sendToConnectionHandle WriteQueue.offer
  cases encode snapshot with
  | error error => exact (Function.update_eq_self _ _).symm
  | ok data =>
      dsimp only [Except.toOption]
      split
      · rfl
      · have agrees' : Agrees (manager.closeQueue snapshot.handle) snapshot := agrees
        refine queues_removeConnection agrees' ?_
        simp only [closeQueue, Function.update_self, WriteQueue.close]

/-- Sending removes connections at most. -/
theorem get_of_get_sendEncoded {id : String} {entry : ConnectionEntry}
    (found : (manager.sendEncoded encode snapshot).1.connections.get id = some entry) :
    manager.connections.get id = some entry := by
  unfold sendEncoded sendToConnectionHandle removeConnection at found
  split at found
  · exact found
  · split at found
    · exact found
    · split at found
      · exact found
      · simp only [removeOwnerConnection_connections, releaseConnectionSlots_connections,
          closeQueue_connections, eraseEntry, ShardedMap.get_erase] at found
        split_ifs at found
        exact found

theorem Agrees.sendEncoded {other : ConnectionSnapshot} (agrees : Agrees manager other) :
    Agrees (manager.sendEncoded encode snapshot).1 other :=
  fun entry found => agrees entry (get_of_get_sendEncoded found)

/-- The first send of a fan-out. -/
theorem fanout_cons (state : ConnectionManager × List String) (first : ConnectionSnapshot)
    (rest : List ConnectionSnapshot) :
    fanout encode state (first :: rest) =
      fanout encode ((state.1.sendEncoded encode first).1,
        served state.2 first.connectionId (state.1.sendEncoded encode first).2) rest :=
  rfl

/-- **Each queue sees the offers made to it, in order.** -/
theorem queues_fanout {state : ConnectionManager × List String}
    {snapshots : List ConnectionSnapshot}
    (agrees : ∀ snapshot ∈ snapshots, Agrees state.1 snapshot) (handle : WriteHandle) :
    (fanout encode state snapshots).1.queues handle =
      ((snapshots.filter fun snapshot => snapshot.handle = handle).map fun snapshot =>
        (encode snapshot).toOption).foldl WriteQueue.offer (state.1.queues handle) := by
  induction snapshots generalizing state with
  | nil => rfl
  | cons first rest inductionHypothesis =>
      have sent : (state.1.sendEncoded encode first).1.queues =
          Function.update state.1.queues first.handle
            ((state.1.queues first.handle).offer (encode first).toOption) :=
        queues_sendEncoded (agrees first List.mem_cons_self)
      rw [fanout_cons, inductionHypothesis fun snapshot member =>
        (agrees snapshot (List.mem_cons_of_mem _ member)).sendEncoded, sent]
      by_cases here : first.handle = handle
      · subst here
        rw [Function.update_self, List.filter_cons_of_pos (by simp), List.map_cons, List.foldl_cons]
      · rw [Function.update_of_ne (Ne.symm here), List.filter_cons_of_neg (by simpa using here)]

/-- A fan-out depends on what is encoded, not on why nothing is. -/
theorem fanout_congr {encode' : ConnectionSnapshot → Result Wire}
    {snapshots : List ConnectionSnapshot}
    (same : ∀ snapshot ∈ snapshots, (encode snapshot).toOption = (encode' snapshot).toOption)
    (state : ConnectionManager × List String) :
    fanout encode state snapshots = fanout encode' state snapshots := by
  induction snapshots generalizing state with
  | nil => rfl
  | cons first rest inductionHypothesis =>
      have here := same first List.mem_cons_self
      have later := inductionHypothesis fun snapshot member =>
        same snapshot (List.mem_cons_of_mem _ member)
      rw [fanout_cons, fanout_cons, later]
      unfold sendEncoded
      cases left : encode first <;> cases right : encode' first <;>
        simp only [left, right, Except.toOption, reduceCtorEq, Option.some.injEq] at here
      · rfl
      · rw [here]

theorem fanout_append (state : ConnectionManager × List String)
    (first second : List ConnectionSnapshot) :
    fanout encode state (first ++ second) = fanout encode (fanout encode state first) second :=
  List.foldl_append

/-- Nothing encoded, nothing sent. -/
theorem fanout_of_none {snapshots : List ConnectionSnapshot}
    (nothing : ∀ snapshot ∈ snapshots, (encode snapshot).toOption = none)
    (state : ConnectionManager × List String) : fanout encode state snapshots = state := by
  induction snapshots with
  | nil => rfl
  | cons first rest inductionHypothesis =>
      have here := nothing first List.mem_cons_self
      cases encoded : encode first with
      | ok data => simp [encoded, Except.toOption] at here
      | error error =>
          have idle : state.1.sendEncoded encode first = (state.1, .error error) := by
            rw [sendEncoded, encoded]
          rw [fanout_cons, idle]
          exact inductionHypothesis fun snapshot member =>
            nothing snapshot (List.mem_cons_of_mem _ member)

end ConnectionManager

end Queues

end FlareCore.Server
