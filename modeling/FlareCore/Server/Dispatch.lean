import FlareCore.Server.Connection.Grouping
import FlareCore.Server.Core

/-!
# Dispatching frames

`ServerMessageWrapper` takes a decoded frame to the application's handler.  Payloads and
notifications are handled in the task that decoded them; system commands and custom commands
are handed to tasks of their own, and so is everything that follows from them: responses,
refreshes of the last activity, the confirmation of a negotiation.

A task is a `Job`.  `Job.perform` runs a job up to the next point where another task may run:
an operation of the connection manager is one step (`Tasks` looks inside them), and so is a
callback of the application together with the spawning of its response, since whatever happens
while the application works may just as well happen after the callback has started and before
the response is taken up.  Timeouts are not modelled; what a timeout cuts short may also go on.
-/

namespace FlareCore.Server

open FlareCore.Common FlareCore.Foundations

set_option autoImplicit false

/-! ## Tasks -/

/-- What the application is told. -/
inductive Callback where
  /-- A frame for a `handle_*` callback.  `received` is the connection's `authenticated` flag
  when the frame was taken off the inbound queue, if the connection was in the table. -/
  | handle (connectionId : String) (frame : Frame) (received : Option Bool)
  | onConnect (connectionId : String)
  | onDisconnect (connectionId : String)
  | onError (connectionId : String)

/-- What the surroundings of a task answer: the application to a callback, the transport to a
write. -/
structure Answer where
  response : Result (Option Frame)
  writes : Bool

/-- A frame on its way to several connections. -/
structure Fanout where
  frame : Frame
  /-- The parser that the sender has given, if any; otherwise each connection's profile counts. -/
  parser : Option MessageParser
  /-- Whether connections with the same profile share their bytes. -/
  grouped : Bool
  remaining : List ConnectionSnapshot
  successful : List String

/-- One read of the connection table under the lock of a shard. -/
inductive TableRead where
  | connections (ids : List String)
  | shard (index : Fin shardCount) (excluded : Option String)

/-- The tasks beside the consumers of the inbound queues. -/
inductive Job where
  | systemCommand (connectionId : String) (frame : Frame) (received : Option Bool)
  | systemEvent (connectionId : String) (frame : Frame) (received : Option Bool)
  | customCommand (connectionId : String) (frame : Frame) (received : Option Bool)
  | updateActive (connectionId : String)
  | confirmNegotiation (connectionId : String)
  | readUser (owner : DeviceOwner) (fanout : Fanout)
  | read (reads : List TableRead) (fanout : Fanout)
  | deliver (fanout : Fanout)
  | activate (now : Instant) (groups : List (List String))
  | bindUser (connectionId userId : String)
  | setAuthenticated (connectionId : String) (userId : Option String)
  | transportError (connectionId : String)
  | disconnected (connectionId : String)
  | removeDisconnected (connectionId : String)
  | disconnect (connectionId : String)
  | unregister (connectionId : String)
  | isolate (connectionId : String)
  | scan (timeout : Instant)
  | evict (ids : List String)
  | forceClose

/-- A write handed to the transport of a connection; `ack` marks a CONNECT_ACK that the transport
has accepted. -/
structure Written where
  connectionId : String
  data : Wire
  ack : Bool

section Dispatch

variable [Hashing]

/-- What the tasks of a server share. -/
structure World where
  manager : ConnectionManager
  devices : Option DeviceManager
  clock : Instant
  /-- How many frames have been stamped. -/
  frames : Nat
  inbound : String → List Bytes
  jobs : List Job
  written : List Written
  callbacks : List Callback

namespace World

variable (world : World)

def spawn (jobs : List Job) : World :=
  { world with jobs := world.jobs ++ jobs }

def calls (callback : Callback) : World :=
  { world with callbacks := world.callbacks ++ [callback] }

def writes (connectionId : String) (data : Wire) (ack : Bool) : World :=
  { world with written := world.written ++ [⟨connectionId, data, ack⟩] }

/-- One more frame is stamped. -/
def stamped : World :=
  { world with frames := world.frames + 1 }

def withManager (manager : ConnectionManager) : World :=
  { world with manager := manager }

/-- The `authenticated` flag of a connection in the table. -/
def authenticated (connectionId : String) : Option Bool :=
  (world.manager.connections.get connectionId).map fun entry => entry.info.authenticated

end World

/-! ## Sending -/

def Fanout.new (frame : Frame) (parser : Option MessageParser) (grouped : Bool) : Fanout :=
  ⟨frame, parser, grouped, [], []⟩

/-- `send_frame_to`. -/
def sendFrameToJob (connectionId : String) (frame : Frame) (parser : Option MessageParser) : Job :=
  .read [.connections [connectionId]] (.new frame parser false)

/-- `send_frame_to_user`. -/
def sendFrameToUserJob (owner : DeviceOwner) (frame : Frame) (parser : Option MessageParser) :
    Job :=
  .readUser owner (.new frame parser false)

/-- `broadcast_frame` and `broadcast_frame_except`. -/
def broadcastJob (frame : Frame) (parser : Option MessageParser) (excluded : Option String) : Job :=
  .read ((List.finRange shardCount).map fun shard => .shard shard excluded)
    (.new frame parser false)

/-- `send_frame_to_connections`, which takes no parser. -/
def sendFrameToConnectionsJob (ids : List String) (frame : Frame) : Job :=
  .read ((ConnectionManager.connectionGroups ids).map .connections) (.new frame none true)

/-- The snapshots that a read takes out of the table. -/
def TableRead.snapshots (manager : ConnectionManager) : TableRead → List ConnectionSnapshot
  | .connections ids => ids.filterMap manager.getConnectionSnapshot
  | .shard index excluded =>
      ((manager.connections.shards index).entries.map fun entry =>
        ConnectionSnapshot.ofEntry (entry.1, entry.2)).filter fun snapshot =>
          some snapshot.connectionId ≠ excluded

section Responses

variable [RustText] (registries : Registries) (stamps : Nat → Stamp)
  (enumeration : Enumeration CodecProfile)

/-- What is put on the wire for a snapshot.  A parser that is given encodes for all alike, so it
makes no difference that the source lets it encode only once. -/
def Fanout.encode (fanout : Fanout) (snapshot : ConnectionSnapshot) : Result Wire :=
  if fanout.grouped then
    ConnectionManager.groupEncode registries frameAllowedBeforeAuth fanout.frame snapshot
  else
    ConnectionManager.serializeFrameForConnection registries frameAllowedBeforeAuth
      snapshot.connectionId snapshot.info fanout.frame fanout.parser

/-- The order in which the gathered snapshots are served. -/
def Fanout.arranged (fanout : Fanout) : Fanout :=
  if fanout.grouped then
    { fanout with remaining := ConnectionManager.regrouped enumeration fanout.remaining }
  else fanout

/-- One send of a fan-out, and what is left of it. -/
def World.deliver (world : World) (fanout : Fanout) : World :=
  match fanout.remaining with
  | [] =>
      world.spawn [.activate world.clock (ConnectionManager.connectionGroups fanout.successful)]
  | snapshot :: remaining =>
      let (manager, result) := world.manager.sendEncoded (fanout.encode registries) snapshot
      (world.withManager manager).spawn [.deliver
        { fanout with
          remaining := remaining
          successful := ConnectionManager.served fanout.successful snapshot.connectionId result }]

/-- The response of `handle_and_send_response`: the application's own, or an acknowledgement,
which says so when the application has failed. -/
def responseFrame (stamp : Stamp) (messageId : String) : Result (Option Frame) → Frame
  | .ok (some response) => response
  | .ok none => .withPayloadCommand stamp (.ackMessage messageId ∅) .atLeastOnce
  | .error error =>
      .withPayloadCommand stamp
        (.ackMessage messageId (((∅ : StringMap Bytes).insert "error" (utf8 "true")).insert
          "error_message" (utf8 error.text))) .atLeastOnce

/-- The response to a PING. -/
def pingResponse (stamp : Stamp) : Result (Option Frame) → Frame
  | .ok (some response) => response
  | _ => .withSystemCommand stamp .pong .atLeastOnce

/-- `handle_and_send_response` around a callback. -/
def World.handleAndSendResponse (world : World) (connectionId : String) (frame : Frame)
    (received : Option Bool) (messageId : String) (answer : Answer) : World :=
  (world.calls (.handle connectionId frame received)).stamped.spawn
    [sendFrameToJob connectionId (responseFrame (stamps world.frames) messageId answer.response)
      none]

/-! ## Commands -/

/-- The payloads that have a callback; an unknown type is logged only. -/
def isHandledPayload (command : PayloadCommand) : Bool :=
  (PayloadType.ofInt32 command.type).any fun kind => kind ≠ .unspecified

/-- `handle_frame`.  The parser hands out a frame without a command as it is, and CONNECT is
the server core's. -/
def World.handleFrame (world : World) (connectionId : String) (frame : Frame)
    (received : Option Bool) (answer : Answer) : World :=
  match frame.commandType with
  | some (.system command) =>
      if command.type = SystemType.connect.toInt32 then world
      else world.spawn [.systemCommand connectionId frame received]
  | some (.payload command) =>
      if isHandledPayload command then
        world.handleAndSendResponse stamps connectionId frame received command.messageId answer
      else world
  | some (.notification _) =>
      world.handleAndSendResponse stamps connectionId frame received frame.messageId answer
  | some (.custom _) => world.spawn [.customCommand connectionId frame received]
  | none => world

/-- `handle_system_command`. -/
def World.handleSystemCommand (world : World) (connectionId : String) (frame : Frame)
    (received : Option Bool) (answer : Answer) : World :=
  match (systemCommand frame).bind fun command => SystemType.ofInt32 command.type with
  | some .ping =>
      (world.calls (.handle connectionId frame received)).stamped.spawn
        [.updateActive connectionId,
          sendFrameToJob connectionId (pingResponse (stamps world.frames) answer.response) none]
  | some .pong =>
      (world.calls (.handle connectionId frame received)).spawn [.updateActive connectionId]
  | some .event =>
      world.spawn [.updateActive connectionId, .systemEvent connectionId frame received]
  | some .negotiationReady =>
      world.spawn [.updateActive connectionId, .confirmNegotiation connectionId]
  | _ => world

/-- One step of a task that has been taken off the list of jobs. -/
def Job.perform (world : World) (answer : Answer) : Job → World
  | .systemCommand connectionId frame received =>
      world.handleSystemCommand stamps connectionId frame received answer
  | .systemEvent connectionId frame received =>
      world.handleAndSendResponse stamps connectionId frame received frame.messageId answer
  | .customCommand connectionId frame received =>
      (world.handleAndSendResponse stamps connectionId frame received frame.messageId answer).spawn
        [.updateActive connectionId]
  | .updateActive connectionId =>
      world.withManager (world.manager.updateConnectionActive connectionId world.clock).1
  | .confirmNegotiation connectionId =>
      world.withManager (world.manager.markNegotiationConfirmed connectionId).1
  | .readUser owner fanout =>
      world.spawn [.read ((ConnectionManager.connectionGroups
        (world.manager.getUserConnections owner)).map .connections) fanout]
  | .read [] fanout => world.spawn [.deliver (fanout.arranged enumeration)]
  | .read (first :: reads) fanout =>
      world.spawn [.read reads
        { fanout with remaining := fanout.remaining ++ first.snapshots world.manager }]
  | .deliver fanout => world.deliver registries fanout
  | .activate _ [] => world
  | .activate now (group :: groups) =>
      (world.withManager (group.foldl (fun manager id => manager.touch id now)
        world.manager)).spawn [.activate now groups]
  | .bindUser connectionId userId =>
      world.withManager (world.manager.bindUser connectionId userId world.clock).1
  | .setAuthenticated connectionId userId =>
      world.withManager (world.manager.setConnectionAuthenticated connectionId userId world.clock).1
  | .transportError connectionId =>
      (world.calls (.onError connectionId)).spawn [.disconnected connectionId]
  | .disconnected connectionId =>
      (world.calls (.onDisconnect connectionId)).spawn [.removeDisconnected connectionId]
  | .removeDisconnected connectionId =>
      (world.withManager (world.manager.removeConnection connectionId).1).spawn
        [.unregister connectionId]
  | .disconnect connectionId =>
      world.withManager (world.manager.removeConnection connectionId).1
  | .unregister connectionId =>
      { world with devices := world.devices.map fun devices =>
          (devices.removeConnection connectionId).1 }
  | .isolate connectionId =>
      world.withManager (world.manager.registryRemoveConnection connectionId).1
  | .scan timeout => world.spawn [.evict (world.manager.timeoutConnectionIds timeout world.clock)]
  | .evict ids => world.withManager (world.manager.removeConnectionSnapshots ids).1
  | .forceClose =>
      world.spawn (world.manager.connections.keys.map .disconnect)

end Responses

end Dispatch

end FlareCore.Server
