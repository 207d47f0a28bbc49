import FlareCore.Client.State

/-!
# The message router

A router calls the handlers that are registered for the route of a frame, in the order of their
registration, or the default handler if the route was never registered.  The route of a frame
is a text made from the kind of its command.

Handlers are trait objects behind an `Arc`; they are known by their addresses, and what a
handler does with a frame is a parameter.
-/

namespace FlareCore.Client

open FlareCore.Common FlareCore.Server

set_option autoImplicit false

/-- `notification_command::Type`. -/
inductive NotificationType where
  | system | broadcast | alert | user | connection
  deriving DecidableEq, Repr

namespace NotificationType

def toInt32 : NotificationType → Int32
  | system => 0
  | broadcast => 1
  | alert => 2
  | user => 3
  | connection => 4

/-- Every kind of notification. -/
def all : List NotificationType :=
  [system, broadcast, alert, user, connection]

/-- `NotificationType::try_from`. -/
def ofInt32 (value : Int32) : Option NotificationType :=
  all.find? fun kind => kind.toInt32 = value

end NotificationType

/-- `MessageRouter`. -/
structure MessageRouter where
  handlers : StringMap (List Nat)
  defaultHandler : Option Nat

namespace MessageRouter

def new : MessageRouter where
  handlers := ∅
  defaultHandler := none

variable (router : MessageRouter)

def register (route : String) (handler : Nat) : MessageRouter :=
  { router with
    handlers := router.handlers.insert route
      ((router.handlers.lookup route).getD [] ++ [handler]) }

def setDefaultHandler (handler : Nat) : MessageRouter :=
  { router with defaultHandler := some handler }

def removeRoute (route : String) : MessageRouter :=
  { router with handlers := router.handlers.erase route }

def clear (_ : MessageRouter) : MessageRouter where
  handlers := ∅
  defaultHandler := none

/-- `extract_route_key`. -/
def extractRouteKey (frame : Frame) : String :=
  match frame.commandType with
  | some (.system command) =>
      match SystemType.ofInt32 command.type with
      | some .connect => "system.connect"
      | some .connectAck => "system.connect_ack"
      | some .close => "system.close"
      | some .ping => "system.ping"
      | some .pong => "system.pong"
      | some .error => "system.error"
      | some .event => "system.event"
      | some .auth => "system.auth"
      | some .authAck => "system.auth_ack"
      | some .unspecified | some .kicked | some .negotiationReady | none => "system.unknown"
  | some (.payload command) =>
      match PayloadType.ofInt32 command.type with
      | some .message => "payload.message"
      | some .event => "payload.event"
      | some .ack => "payload.ack"
      | some .data => "payload.data"
      | some .unspecified | none => "payload." ++ toString command.type
  | some (.notification command) =>
      match NotificationType.ofInt32 command.type with
      | some .system => "notification.system"
      | some .broadcast => "notification.broadcast"
      | some .alert => "notification.alert"
      | some .user => "notification.user"
      | some .connection => "notification.connection"
      | none => "notification." ++ toString command.type
  | some (.custom command) => "custom." ++ command.name
  | none => "unknown"

/-- The handlers that `route` calls for a frame, in this order. -/
def called (frame : Frame) : List Nat :=
  match router.handlers.lookup (extractRouteKey frame) with
  | some handlers => handlers
  | none => router.defaultHandler.toList

/-- `route`: the replies of the handlers; what a handler fails with is only logged. -/
def route (handle : Nat → Frame → Result (Option Frame)) (frame : Frame) : List Frame :=
  (router.called frame).filterMap fun handler => (handle handler frame).toOption.join

@[simp]
theorem new_called (frame : Frame) : new.called frame = [] := by
  simp [called, new]

end MessageRouter

end FlareCore.Client
