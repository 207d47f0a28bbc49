import FlareCore.Foundations.Transition
import FlareCore.Server.Dispatch

/-!
# The server runtime

Each connection has an inbound queue and one task that consumes it, so the frames of a
connection are taken up one after the other; everything else runs in between.  A consumer
stops wherever another task may run: between the check that the connection exists, the refresh
of its activity and the look at its negotiation, and between all the parts of CONNECT.

Connection ids are generated from a counter of the process, so an accepted connection has an
id that none had before; the consumers stay in the state to remember the ids.  The writes of
the manager go through write queues with a writer task each; CONNECT_ACK, KICKED and ERROR are
written past them, and so is the PONG with which a WebSocket transport answers a PING of the
WebSocket protocol.
-/

namespace FlareCore.Server

open FlareCore.Common FlareCore.Foundations

set_option autoImplicit false

/-! ## Consumers -/

/-- A CONNECT that has passed authentication. -/
structure Acceptance where
  negotiation : NegotiationResult
  profile : Profile
  identity : ConnectionIdentity

/-- The device conflict that a CONNECT has found. -/
structure Conflict where
  acceptance : Acceptance
  owner : DeviceOwner
  device : DeviceInfo
  connections : List String

/-- Where the consumer of a connection's inbound queue stands.  `received` is the connection's
`authenticated` flag when the frame at hand was taken off the queue. -/
inductive Consumer where
  | receive
  | taken (data : Bytes) (received : Option Bool)
  | refreshed (data : Bytes) (received : Option Bool)
  | negotiated (data : Bytes) (info : ConnectionInfo) (received : Option Bool)
  | preNegotiation (data : Bytes) (received : Option Bool)
  | handling (frame : Frame) (received : Option Bool)
  | connecting (frame : Frame)
  | authenticating (frame : Frame)
  | informing (acceptance : Acceptance)
  | marking (acceptance : Acceptance)
  | registering (acceptance : Acceptance)
  | kicking (conflict : Conflict) (victims : List String)
  | kickSending (conflict : Conflict) (victim : String) (data : Wire) (victims : List String)
  | kickUnregistering (conflict : Conflict) (victim : String) (victims : List String)
  | kickRemoving (conflict : Conflict) (victim : String) (victims : List String)
  | acknowledging (profile : Profile) (conflicts : List String)
  | completing (profile : Profile)
  | storing (profile : Profile) (device : Option DeviceInfo) (userId : Option String)
  | notifying (profile : Profile)
  | rejectingLate (profile : Profile) (error : FlareError)
  | rejecting (error : FlareError)
  | removing

/-- `is_connect_message` and `is_negotiation_ready_message`. -/
def isSystemMessage (kind : SystemType) (frame : Frame) : Bool :=
  (systemCommand frame).any fun command => command.type = kind.toInt32

/-- What a server is set up with.  `encodeProtobuf` is the encoding of the protobuf library,
which the WebSocket transport calls directly. -/
structure Setting where
  registries : Registries
  core : ServerCore
  maxConnections : UInt64
  stamps : Nat → Stamp
  enumeration : Enumeration CodecProfile
  encodeProtobuf : Frame → Bytes

namespace Setting

variable [RustText] (setting : Setting)

/-- `PRE_NEGOTIATION_PARSER.parse`. -/
def parsePreNegotiation (data : Bytes) : Result Frame :=
  MessageParser.preNegotiation.parse setting.registries data

/-- `PRE_NEGOTIATION_PARSER.serialize`. -/
def serializePreNegotiation (frame : Frame) : Result Wire :=
  MessageParser.preNegotiation.serialize setting.registries frame

/-- A frame of the given kind, in the format used before negotiation. -/
def isPreNegotiation (kind : SystemType) (data : Bytes) : Bool :=
  (setting.parsePreNegotiation data).toOption.any (isSystemMessage kind)

/-- The parser for a negotiated connection. -/
def negotiatedParser (info : ConnectionInfo) : MessageParser :=
  info.cachedParser.getD (.new info.serializationFormat info.compression info.encryption)

/-- How `handle_negotiated_message` decodes what is not NEGOTIATION_READY: an encryptor that is
not registered is an error, and before the client's confirmation the parser is lenient. -/
def parseNegotiated (info : ConnectionInfo) (data : Bytes) : Option Frame :=
  if info.encryption ≠ .none ∧ ¬setting.registries.encryptorRegistered info.encryption.asStr then
    none
  else
    ((negotiatedParser info).parseWithFallback setting.registries data
      (!info.negotiationConfirmed)).toOption

end Setting

section Runtime

variable [Hashing] [RustText] (setting : Setting)

namespace World

variable (world : World) (connectionId : String)

/-- The first part of `handle_message_event`: a frame for a connection that has left the table
is dropped, unless it is a CONNECT. -/
def takeUp : World × Consumer :=
  match world.inbound connectionId with
  | [] => (world, .receive)
  | data :: rest =>
      let after := { world with inbound := Function.update world.inbound connectionId rest }
      if (world.manager.connections.get connectionId).isNone ∧
          ¬setting.isPreNegotiation .connect data then (after, .receive)
      else (after, .taken data (world.authenticated connectionId))

/-- `get_connection_state` and the choice it is made for. -/
def route (data : Bytes) (received : Option Bool) : Consumer :=
  match world.manager.connections.get connectionId with
  | none => .preNegotiation data received
  | some entry =>
      if entry.info.negotiationCompleted then .negotiated data entry.info received
      else .preNegotiation data received

/-- `handle_negotiated_message`; what the message pipeline does is the application's. -/
def handleNegotiatedMessage (data : Bytes) (info : ConnectionInfo) (received : Option Bool) :
    World × Consumer :=
  if setting.isPreNegotiation .negotiationReady data then
    (world.withManager (world.manager.markNegotiationConfirmed connectionId).1, .receive)
  else
    match setting.parseNegotiated info data with
    | some frame => (world, .handling frame received)
    | none => (world, .receive)

/-- `handle_pre_negotiation_message`: what is not CONNECT is handled like any other frame. -/
def handlePreNegotiationMessage (data : Bytes) (received : Option Bool) : Consumer :=
  match setting.parsePreNegotiation data with
  | .error _ => .receive
  | .ok frame =>
      if isSystemMessage .connect frame then .connecting frame else .handling frame received

/-- CONNECT up to the authenticator's answer. -/
def authenticate (frame : Frame) : Consumer :=
  let negotiation := parseConnectMessage frame
  match setting.core.authenticateConnection frame connectionId negotiation world.clock with
  | .error error => .rejecting error
  | .ok identity =>
      .informing ⟨negotiation, setting.core.determineNegotiationResult negotiation, identity⟩

/-- The registration of the device. -/
def register (acceptance : Acceptance) : World × Consumer :=
  match world.devices, acceptance.negotiation.deviceInfo, acceptance.identity.deviceOwner with
  | some devices, some device, some owner =>
      let (devices, conflicts) := devices.addDevice owner connectionId device
      ({ world with devices := some devices },
        .kicking ⟨acceptance, owner, device, conflicts⟩ conflicts)
  | _, _, _ => (world, .acknowledging acceptance.profile [])

/-- The beginning of one kick: KICKED is encoded with the profile in the table. -/
def kick (conflict : Conflict) (victim : String) (victims : List String) : World × Consumer :=
  if victim = connectionId then (world, .kicking conflict victims)
  else
    match world.manager.connections.get victim with
    | none => (world, .kickRemoving conflict victim victims)
    | some entry =>
        match entry.info.kickParser.serialize setting.registries
            (kickFrame (setting.stamps world.frames) conflict.device) with
        | .ok data => (world.stamped, .kickSending conflict victim data victims)
        | .error _ => (world.stamped, .kickUnregistering conflict victim victims)

/-- CONNECT_ACK. -/
def acknowledge (profile : Profile) (conflicts : List String) (answer : Answer) :
    World × Consumer :=
  match setting.serializePreNegotiation (ServerCore.createConnectAckFrame setting.registries
      (setting.stamps world.frames) profile conflicts) with
  | .error _ => (world.stamped, .removing)
  | .ok data =>
      (world.stamped.writes connectionId data answer.writes,
        if answer.writes then .completing profile else .removing)

/-- A frame that explains a rejection, if it can be encoded. -/
def explain (encoded : Result Wire) : World :=
  match encoded with
  | .ok data => world.stamped.writes connectionId data false
  | .error _ => world.stamped

/-- `send_connect_rejection`, for the errors that are explained. -/
def rejectConnect (error : FlareError) : World :=
  match ServerCore.explainedCode error with
  | none => world
  | some code =>
      world.explain connectionId (setting.serializePreNegotiation
        (ServerCore.connectRejectionFrame (setting.stamps world.frames) code error.reason))

/-- `send_post_ack_rejection`. -/
def rejectAfterAck (profile : Profile) (error : FlareError) : World :=
  world.explain connectionId (profile.parser.serialize setting.registries
    (ServerCore.postAckRejectionFrame (setting.stamps world.frames) error))

/-- One step of the consumer of a connection. -/
def consume (answer : Answer) : Consumer → World × Consumer
  | .receive => world.takeUp setting connectionId
  | .taken data received =>
      (world.withManager (world.manager.updateConnectionActive connectionId world.clock).1,
        .refreshed data received)
  | .refreshed data received => (world, world.route connectionId data received)
  | .negotiated data info received =>
      world.handleNegotiatedMessage setting connectionId data info received
  | .preNegotiation data received => (world, handlePreNegotiationMessage setting data received)
  | .handling frame received =>
      (world.handleFrame setting.stamps connectionId frame received answer, .receive)
  | .connecting frame =>
      (world, if (world.manager.connections.get connectionId).isSome then .authenticating frame
        else .receive)
  | .authenticating frame => (world, world.authenticate setting connectionId frame)
  | .informing acceptance =>
      (world.withManager (world.manager.updateConnectionInfo connectionId acceptance.negotiation
        acceptance.profile acceptance.identity world.clock), .marking acceptance)
  | .marking acceptance =>
      (world.withManager (world.manager.markConnectionAuthenticated connectionId
        acceptance.identity world.clock), .registering acceptance)
  | .registering acceptance => world.register connectionId acceptance
  | .kicking conflict [] =>
      (world, .acknowledging conflict.acceptance.profile
        (conflict.connections.filter (· ≠ connectionId)))
  | .kicking conflict (victim :: victims) =>
      world.kick setting connectionId conflict victim victims
  | .kickSending conflict victim data victims =>
      (world.writes victim data false, .kickUnregistering conflict victim victims)
  | .kickUnregistering conflict victim victims =>
      ({ world with devices := world.devices.map fun devices =>
          devices.removeDevice conflict.owner victim }, .kickRemoving conflict victim victims)
  | .kickRemoving conflict victim victims =>
      (world.withManager (world.manager.removeConnection victim).1, .kicking conflict victims)
  | .acknowledging profile conflicts =>
      world.acknowledge setting connectionId profile conflicts answer
  | .completing profile =>
      (world, match world.manager.connections.get connectionId with
        | none => .notifying profile
        | some entry => .storing profile entry.info.deviceInfo entry.info.userId)
  | .storing profile device userId =>
      (world.withManager (world.manager.completeNegotiation setting.core connectionId device userId
        profile world.clock), .notifying profile)
  | .notifying profile =>
      (world.calls (.onConnect connectionId), match answer.response with
        | .ok _ => .receive
        | .error error => .rejectingLate profile error)
  | .rejectingLate profile error =>
      (world.rejectAfterAck setting connectionId profile error, .removing)
  | .rejecting error => (world.rejectConnect setting connectionId error, .removing)
  | .removing => (world.withManager (world.manager.removeConnection connectionId).1, .receive)

end World

/-! ## Moves -/

/-- What the application, the heartbeat detector and the operator ask of the server. -/
inductive ServerCall where
  | sendTo (connectionId : String) (frame : Frame) (parser : Option MessageParser)
  | sendToConnections (ids : List String) (frame : Frame)
  | sendToUser (owner : DeviceOwner) (frame : Frame) (parser : Option MessageParser)
  | broadcast (frame : Frame) (parser : Option MessageParser)
  | broadcastExcept (frame : Frame) (excluded : String) (parser : Option MessageParser)
  | disconnect (connectionId : String)
  | bindUser (connectionId userId : String)
  | setAuthenticated (connectionId : String) (userId : Option String)
  | cleanupTimeoutConnections (timeout : Instant)
  | shutdown

/-- The tasks a call starts. -/
def ServerCall.jobs (stamp : Stamp) : ServerCall → List Job
  | .sendTo connectionId frame parser => [sendFrameToJob connectionId frame parser]
  | .sendToConnections ids frame => [sendFrameToConnectionsJob ids frame]
  | .sendToUser owner frame parser => [sendFrameToUserJob owner frame parser]
  | .broadcast frame parser => [broadcastJob frame parser none]
  | .broadcastExcept frame excluded parser => [broadcastJob frame parser (some excluded)]
  | .disconnect connectionId => [.disconnect connectionId]
  | .bindUser connectionId userId => [.bindUser connectionId userId]
  | .setAuthenticated connectionId userId => [.setAuthenticated connectionId userId]
  | .cleanupTimeoutConnections timeout => [.scan timeout]
  | .shutdown =>
      [broadcastJob (.withSystemCommand stamp .serverShutdownClose .bestEffort) none none,
        .forceClose]

inductive Move where
  | accept (connectionId : String) (connection : ConnectionHandle)
  | arrive (connectionId : String) (data : Bytes)
  | websocketPing (connectionId : String)
  | closed (connectionId : String) (errored : Bool)
  | call (call : ServerCall)
  | consume (connectionId : String) (answer : Answer)
  | work (index : Nat) (answer : Answer)
  | flush (handle : WriteHandle) (succeeds : Bool)
  | tick (duration : Instant)

/-- A server: the shared world, a consumer for each connection that was ever accepted, and for
each write queue the item that its writer task has taken out and not yet sent. -/
structure Runtime where
  world : World
  consumers : String → Option Consumer
  writing : WriteHandle → Option Wire

/-- `INBOUND_QUEUE_CAPACITY`. -/
def inboundQueueCapacity : Nat := 1024

/-- The frame of `build_pong_frame`. -/
def websocketPong (stamp : Stamp) : Frame :=
  .withSystemCommand stamp .pong .bestEffort

namespace Runtime

variable (state : Runtime)

/-- `setup_new_connection`: the connection is added and its consumer started. -/
def accept (connectionId : String) (connection : ConnectionHandle) : Option Runtime :=
  if (state.consumers connectionId).isSome then none
  else
    match state.world.manager.addConnectionWithLimit connectionId connection none
        setting.core.authEnabled setting.maxConnections state.world.clock with
    | (manager, .ok ()) =>
        some { state with
          world := state.world.withManager manager
          consumers := Function.update state.consumers connectionId (some .receive) }
    | (manager, .error _) => some { state with world := state.world.withManager manager }

/-- `on_event` for a message: a full queue drops it. -/
def arrive (connectionId : String) (data : Bytes) : Option Runtime :=
  if (state.consumers connectionId).isNone then none
  else if inboundQueueCapacity ≤ (state.world.inbound connectionId).length then some state
  else some { state with world := { state.world with
    inbound := Function.update state.world.inbound connectionId
      (state.world.inbound connectionId ++ [data]) } }

/-- One step of a writer task: it takes an item out, unless the queue is closed, and then sends
it.  A failure closes the queue and isolates the connection. -/
def flush (handle : WriteHandle) (succeeds : Bool) : Option Runtime :=
  match state.writing handle with
  | some data =>
      let world := state.world.writes handle.connectionId data false
      some { state with
        world :=
          if succeeds then world
          else (world.withManager (world.manager.closeQueue handle)).spawn
            [.isolate handle.connectionId]
        writing := Function.update state.writing handle none }
  | none =>
      let queue := state.world.manager.queues handle
      match queue.items with
      | [] => none
      | data :: rest =>
          if queue.closed then none
          else some { state with
            world := state.world.withManager { state.world.manager with
              queues := Function.update state.world.manager.queues handle
                { queue with items := rest } }
            writing := Function.update state.writing handle (some data) }

/-- One step of the server. -/
def step : Move → Option Runtime
  | .accept connectionId connection => state.accept setting connectionId connection
  | .arrive connectionId data => state.arrive connectionId data
  | .websocketPing connectionId =>
      if (state.consumers connectionId).isNone then none
      else some { state with
        world := state.world.stamped.writes connectionId
          (fun _ => setting.encodeProtobuf (websocketPong (setting.stamps state.world.frames)))
          false }
  | .closed connectionId errored =>
      if (state.consumers connectionId).isNone then none
      else some { state with
        world := state.world.spawn
          [if errored then .transportError connectionId else .disconnected connectionId] }
  | .call call =>
      some { state with
        world := state.world.stamped.spawn (call.jobs (setting.stamps state.world.frames)) }
  | .consume connectionId answer =>
      (state.consumers connectionId).map fun consumer =>
        let (world, consumer) := state.world.consume setting connectionId answer consumer
        { state with
          world := world
          consumers := Function.update state.consumers connectionId (some consumer) }
  | .work index answer =>
      (state.world.jobs[index]?).map fun job =>
        { state with
          world := job.perform setting.registries setting.stamps setting.enumeration
            { state.world with jobs := state.world.jobs.eraseIdx index } answer }
  | .flush handle succeeds => state.flush handle succeeds
  | .tick duration =>
      some { state with world := { state.world with clock := state.world.clock + duration } }

/-- A server without connections. -/
def initial (writeQueueCapacity : Nat) (devices : Option DeviceManager) (clock : Instant) :
    Runtime where
  world :=
    { manager := .new writeQueueCapacity
      devices := devices
      clock := clock
      frames := 0
      inbound := fun _ => []
      jobs := []
      written := []
      callbacks := [] }
  consumers := fun _ => none
  writing := fun _ => none

end Runtime

/-- The server as a transition system. -/
def serverSystem : System Runtime Move where
  step := Runtime.step setting

end Runtime

end FlareCore.Server
