import FlareCore.Client.Delivery
import FlareCore.Client.Handles

/-!
# What is registered on the handle of a core

An application registers observers, an event handler and the handlers of a router on the handle
of a core, the one that `HybridClient::core_mut` gives out.  The protocol client works with a
clone of that core, or with a core of its own that a race has joined to it; and the observer of
each connection works with a clone of the core of the protocol client.  It is this last clone
through which everything that is received on a connection is dispatched.

The observers are shared by all of them.  The event handler is copied when the protocol client is
created, and a router is never taken over.
-/

namespace FlareCore.Client

open FlareCore.Common FlareCore.Server FlareCore.Foundations

set_option autoImplicit false

/-! ## Registering -/

/-- An application's handle, the core of its protocol client, and the core of the observer of the
connection. -/
structure Registrations where
  store : CoreStore
  handle : CoreHandle
  inner : Option CoreHandle
  connection : Option CoreHandle

/-- What an application may do. -/
inductive Registering where
  | register (route : String) (handler : Nat)
  | setDefaultHandler (handler : Nat)
  | removeRoute (route : String)
  | clear
  | setEventHandler (handler : Option Nat)
  | addObserver (observer : Nat)
  | removeObserver (observer : Nat)
  | create (raced : Bool)
  | connect
  deriving DecidableEq

namespace Registrations

variable (config : ClientConfig) (enableRouter : Bool) (state : Registrations)

/-- A core that has just been created. -/
def new : Registrations where
  store := (CoreStore.empty config).newCore config
  handle := (CoreStore.empty config).newHandle enableRouter
  inner := none
  connection := none

def withRouter (change : MessageRouter → MessageRouter) : Registrations :=
  { state with handle := state.handle.changeRouter change }

/-- The protocol client is created once, with a clone of the core or, by a race, with a new core
that shares the race state; and a clone of its core observes each connection
(`setup_connection_with_observer`). -/
def step : Registering → Option Registrations
  | .register route handler => some (state.withRouter fun router => router.register route handler)
  | .setDefaultHandler handler => some (state.withRouter fun router =>
      router.setDefaultHandler handler)
  | .removeRoute route => some (state.withRouter fun router => router.removeRoute route)
  | .clear => some (state.withRouter MessageRouter.clear)
  | .setEventHandler handler => some { state with handle := state.handle.setEventHandler handler }
  | .addObserver observer =>
      some { state with store := state.store.addObserver state.handle.cells observer }
  | .removeObserver observer =>
      some { state with store := state.store.removeObserver state.handle.cells observer }
  | .create raced =>
      if state.inner.isSome then none
      else if raced then
        let core := state.store.newHandle enableRouter
        some { state with
          store := state.store.newCore config
          inner := some { core with
            cells := core.cells.shareRaceStateFrom state.handle.clone.cells } }
      else some { state with inner := some state.handle.clone }
  | .connect =>
      state.inner.map fun core => { state with connection := some core.clone }

end Registrations

/-- An application and its client as a transition system. -/
def registrationSystem (config : ClientConfig) (enableRouter : Bool) :
    System Registrations Registering where
  step := Registrations.step config enableRouter

/-! ## Dispatching -/

/-- What is received on a connection: an event, with what the observers are told of it; or a
frame, and whether it is the response to a request, and whether the negotiation was complete. -/
inductive Arrival where
  | event (event : ConnectionEvent) (reported : List ConnectionEvent)
  | frame (data : Bytes) (frame : Frame) (response negotiated : Bool)

/-- A system command that `handle_system_commands` handles, with the call of the event handler. -/
def systemCall (frame : Frame) (negotiated : Bool) : Option (Option HandlerCall) :=
  (systemCommand frame).bind fun command =>
    match SystemType.ofInt32 command.type with
    | some .connectAck => some (some (.systemCommand .connectAck frame))
    | some .pong => some (some (.systemCommand .pong frame))
    | some .kicked => some (some (.systemCommand .kicked frame))
    | some .close => some (some (.systemCommand .close frame))
    | some .error => if negotiated then none else some none
    | some .unspecified | some .connect | some .ping | some .event | some .auth
    | some .authAck | some .negotiationReady | none => none

namespace Arrival

/-- What the observers are told. -/
def reported : Arrival → List ConnectionEvent
  | event _ reported => reported
  | frame data _ _ _ => [.message data]

/-- What the event handler is called for: an event, a system command, or, if the frame is no
system command, a business command. -/
def handlerCall : Arrival → Option HandlerCall
  | event happened _ => some (.connectionEvent happened)
  | frame _ received response negotiated =>
      if response then none else (systemCall received negotiated).getD (businessCall received)

/-- The frame that is routed: not a response, and not a system command. -/
def routed : Arrival → Option Frame
  | event _ _ => none
  | frame _ received response negotiated =>
      if response || (systemCall received negotiated).isSome then none else some received

end Arrival

/-- Who hears of an arrival, and what. -/
@[ext]
structure Dispatched where
  observers : List (Nat × ConnectionEvent)
  eventHandler : Option (Nat × HandlerCall)
  handlers : List (Nat × Frame)
  deriving DecidableEq

/-- `handle_connection_event` and `handle_received_message`, through a handle. -/
def CoreStore.dispatch (store : CoreStore) (handle : CoreHandle) (arrival : Arrival) :
    Dispatched where
  observers := arrival.reported.flatMap fun event =>
    (store.race handle.cells.race).observers.map fun observer => (observer, event)
  eventHandler := handle.eventHandler.bind fun handler =>
    arrival.handlerCall.map fun call => (handler, call)
  handlers := arrival.routed.elim [] fun frame =>
    (handle.router.elim [] fun router => router.called frame).map fun handler => (handler, frame)

/-- The dispatch of a client whose core has an event handler calls it for the same commands. -/
theorem ClientState.dispatch_callbacks (setting : ClientSetting) (state : ClientState)
    (index : Nat) (task : FrameTask) (frame : Frame) (handled : setting.hasHandler = true) :
    (state.dispatch setting index task frame).callbacks = state.callbacks ++
      (systemCall frame task.negotiated).join.toList.map fun call =>
        ⟨some (task.origin index), call⟩ := by
  simp only [dispatch, systemCall]
  cases systemCommand frame with
  | none => simp
  | some command =>
      simp only [Option.bind_some]
      cases SystemType.ofInt32 command.type with
      | none => simp
      | some kind =>
          cases kind <;> simp [callsHandler, handled]
          split <;> simp

/-! ## What the connection takes over -/

namespace Registrations

variable {config : ClientConfig} {enableRouter : Bool} {state next : Registrations}

/-- A clone of a core, or a core that a race has joined to it: the observers are shared, nothing
is registered with its router, and its event handler is given. -/
structure Derives (handle core : CoreHandle) (eventHandler : Option Nat) : Prop where
  race : core.cells.race = handle.cells.race
  router : ∀ router ∈ core.router, router = .new
  eventHandler : core.eventHandler = eventHandler

/-- The core of the protocol client, and that of the connection, derive from the handle. -/
structure Sound (eventHandler : Option Nat) (state : Registrations) : Prop where
  inner : ∀ core ∈ state.inner, Derives state.handle core eventHandler
  connection : ∀ core ∈ state.connection, Derives state.handle core eventHandler

namespace Derives

variable {handle core : CoreHandle} {eventHandler : Option Nat}

/-- What is derived depends on the cells of the handle alone. -/
theorem of_cells {other : CoreHandle} (derives : Derives handle core eventHandler)
    (cells : other.cells = handle.cells) : Derives other core eventHandler :=
  { derives with race := cells ▸ derives.race }

/-- A clone of a core begins with an empty router. -/
theorem clone (race : core.cells.race = handle.cells.race)
    (copied : core.eventHandler = eventHandler) : Derives handle core.clone eventHandler where
  race := race
  router router isRouter := by
    obtain ⟨_, -, rfl⟩ := Option.map_eq_some_iff.mp isRouter
    rfl
  eventHandler := copied

end Derives

/-- Registering anything leaves the clones as they are. -/
theorem Sound.of_cells {eventHandler : Option Nat} (sound : state.Sound eventHandler)
    (inner : next.inner = state.inner) (connection : next.connection = state.connection)
    (cells : next.handle.cells = state.handle.cells) : next.Sound eventHandler where
  inner core isInner := (sound.inner core (inner ▸ isInner)).of_cells cells
  connection core isCore := (sound.connection core (connection ▸ isCore)).of_cells cells

/-- One step, once the protocol client is created. -/
theorem Sound.step {eventHandler : Option Nat} (sound : state.Sound eventHandler)
    (made : state.inner.isSome = true) {move : Registering}
    (stepped : state.step config enableRouter move = some next) :
    next.Sound eventHandler ∧ next.inner.isSome = true := by
  cases move with
  | register route handler | setDefaultHandler handler | removeRoute route | clear
  | setEventHandler handler | addObserver observer | removeObserver observer =>
      obtain rfl := Option.some.inj stepped
      exact ⟨sound.of_cells rfl rfl rfl, made⟩
  | create raced => simp [Registrations.step, made] at stepped
  | connect =>
      obtain ⟨core, isInner, rfl⟩ := Option.map_eq_some_iff.mp stepped
      have derives := sound.inner core isInner
      refine ⟨⟨sound.inner, fun clone isClone => ?_⟩, made⟩
      obtain rfl := Option.some.inj isClone
      exact .clone derives.race derives.eventHandler

/-- The creation of the protocol client. -/
theorem sound_create {raced : Bool} (unconnected : state.connection = none)
    (created : state.step config enableRouter (.create raced) = some next) :
    next.Sound (if raced then none else state.handle.eventHandler) ∧ next.inner.isSome = true := by
  simp only [step] at created
  split at created
  · cases created
  · split at created
    next isRaced =>
      obtain rfl := Option.some.inj created
      refine ⟨⟨fun core isCore => ?_, fun core isCore => ?_⟩, rfl⟩
      · obtain rfl := Option.some.inj isCore
        refine ⟨rfl, fun router isRouter => ?_, by simp [isRaced]⟩
        obtain ⟨-, isNew⟩ := Option.ite_none_right_eq_some.mp isRouter
        exact (Option.some.inj isNew).symm
      · cases unconnected.symm.trans isCore
    next direct =>
      obtain rfl := Option.some.inj created
      refine ⟨⟨fun core isCore => ?_, fun core isCore => ?_⟩, rfl⟩
      · obtain rfl := Option.some.inj isCore
        exact .clone rfl (by simp [direct])
      · cases unconnected.symm.trans isCore

/-- Without a protocol client there is no connection. -/
theorem step_connection (alone : state.inner = none → state.connection = none) {move : Registering}
    (stepped : state.step config enableRouter move = some next) :
    next.inner = none → next.connection = none := by
  cases move with
  | register route handler | setDefaultHandler handler | removeRoute route | clear
  | setEventHandler handler | addObserver observer | removeObserver observer =>
      obtain rfl := Option.some.inj stepped
      exact alone
  | create raced =>
      simp only [step] at stepped
      split at stepped
      · cases stepped
      · split at stepped <;> obtain rfl := Option.some.inj stepped <;> exact nofun
  | connect =>
      obtain ⟨core, isInner, rfl⟩ := Option.map_eq_some_iff.mp stepped
      intro none
      cases none.symm.trans isInner

end Registrations

/-! ## What is dispatched -/

section Dispatch

variable {store : CoreStore} {handle core : CoreHandle} {eventHandler : Option Nat}

/-- Through a core that derives from a handle, nothing reaches a handler of the router. -/
theorem Registrations.Derives.handlers (derives : Registrations.Derives handle core eventHandler)
    (arrival : Arrival) : (store.dispatch core arrival).handlers = [] := by
  simp only [CoreStore.dispatch]
  cases arrival.routed with
  | none => rfl
  | some frame =>
      cases isRouter : core.router with
      | none => rfl
      | some router => simp [derives.router router isRouter]

theorem CoreStore.dispatch_handlers_eq_nil (store : CoreStore) (handle : CoreHandle)
    (arrival : Arrival) : (store.dispatch handle arrival).handlers = [] ↔
      ∀ frame ∈ arrival.routed, ∀ router ∈ handle.router, router.called frame = [] := by
  simp only [CoreStore.dispatch]
  cases arrival.routed with
  | none => simp
  | some frame =>
      cases handle.router with
      | none => simp
      | some router => simp

theorem CoreStore.dispatch_eventHandler_eq (store : CoreStore) (handle core : CoreHandle)
    (arrival : Arrival) :
    (store.dispatch core arrival).eventHandler = (store.dispatch handle arrival).eventHandler ↔
      (arrival.handlerCall.isSome = true → handle.eventHandler = core.eventHandler) := by
  simp only [CoreStore.dispatch]
  cases arrival.handlerCall with
  | none => cases handle.eventHandler <;> cases core.eventHandler <;> simp
  | some call => cases handle.eventHandler <;> cases core.eventHandler <;> simp [eq_comm]

theorem Registrations.Derives.dispatch_eq_iff
    (derives : Registrations.Derives handle core eventHandler) (arrival : Arrival) :
    store.dispatch core arrival = store.dispatch handle arrival ↔
      (∀ frame ∈ arrival.routed, ∀ router ∈ handle.router, router.called frame = []) ∧
      (arrival.handlerCall.isSome = true → handle.eventHandler = eventHandler) := by
  have observers : (store.dispatch core arrival).observers =
      (store.dispatch handle arrival).observers := by
    simp only [CoreStore.dispatch, derives.race]
  rw [← store.dispatch_handlers_eq_nil handle arrival, ← derives.eventHandler,
    ← store.dispatch_eventHandler_eq handle core arrival, Dispatched.ext_iff, derives.handlers]
  simp only [observers, true_and]
  rw [and_comm, eq_comm]

end Dispatch

/-- **What is received on a connection is dispatched to exactly what is registered on the handle
if and only if no handler of the router is registered for it, and the event handler, if it is
called, is the one that was set when the protocol client was created, or none if a race has
created it.** -/
theorem dispatched_iff_registered (config : ClientConfig) (enableRouter : Bool)
    (earlier later : List Registering) (raced : Bool) {before created state : Registrations}
    {connection : CoreHandle}
    (registered : (registrationSystem config enableRouter).run (.new config enableRouter)
      earlier = some before)
    (creates : before.step config enableRouter (.create raced) = some created)
    (continued : (registrationSystem config enableRouter).run created later = some state)
    (connected : state.connection = some connection) (arrival : Arrival) :
    state.store.dispatch connection arrival = state.store.dispatch state.handle arrival ↔
      (∀ frame ∈ arrival.routed, ∀ router ∈ state.handle.router, router.called frame = []) ∧
      (arrival.handlerCall.isSome = true →
        state.handle.eventHandler = if raced then none else before.handle.eventHandler) := by
  have alone : before.inner = none → before.connection = none := by
    refine System.Reaches.invariant (I := fun state => state.inner = none → state.connection = none)
      (System.reaches_of_run registered (System.permits_always _ _)) (fun _ => rfl) ?_
    rintro first second ⟨move, -, stepped⟩ alone
    exact Registrations.step_connection alone stepped
  have uncreated : before.inner = none := by
    by_contra isInner
    simp [Registrations.step, Option.isSome_iff_ne_none.mpr isInner] at creates
  obtain ⟨sound, -⟩ : state.Sound (if raced then none else before.handle.eventHandler) ∧
      state.inner.isSome = true := by
    refine System.Reaches.invariant (I := fun state => state.Sound
      (if raced then none else before.handle.eventHandler) ∧ state.inner.isSome = true)
      (System.reaches_of_run continued (System.permits_always _ _))
      (Registrations.sound_create (alone uncreated) creates) ?_
    rintro first second ⟨move, -, stepped⟩ ⟨sound, made⟩
    exact sound.step made stepped
  exact (sound.connection connection connected).dispatch_eq_iff arrival

/-- An observer is there before the connection, and another is added after it: both hear that it
is closed, and no event handler was ever set. -/
theorem dispatched_iff_registered_observers :
    ∃ state connection, (registrationSystem reading.config true).run
        (.new reading.config true)
        [.addObserver 1, .create false, .connect, .addObserver 2] = some state ∧
      state.connection = some connection ∧
      (state.store.dispatch state.handle (.event (.disconnected "") [.disconnected ""])).observers =
        [(1, .disconnected ""), (2, .disconnected "")] ∧
      state.store.dispatch connection (.event (.disconnected "") [.disconnected ""]) =
        state.store.dispatch state.handle (.event (.disconnected "") [.disconnected ""]) := by
  refine ⟨_, _, rfl, rfl, rfl, ?_⟩
  refine (dispatched_iff_registered reading.config true [.addObserver 1]
    [.connect, .addObserver 2] false rfl rfl rfl rfl _).mpr ?_
  exact ⟨nofun, fun _ => rfl⟩

/-- **A handler that is registered with the router before the client connects is never called, and
neither is an event handler that is set once the protocol client is there.** -/
theorem handlers_registered_in_vain :
    ∃ state connection, (registrationSystem reading.config true).run
        (.new reading.config true)
        [.create false, .register "payload.message" 7, .setEventHandler (some 8), .connect] =
          some state ∧
      state.connection = some connection ∧
      (state.store.dispatch state.handle (.frame [] (note "a") false true)).handlers.map
        Prod.fst = [7] ∧
      (state.store.dispatch connection (.frame [] (note "a") false true)).handlers.map
        Prod.fst = [] ∧
      (state.store.dispatch state.handle (.event .connected [.connected])).eventHandler =
        some (8, .connectionEvent .connected) ∧
      (state.store.dispatch connection (.event .connected [.connected])).eventHandler = none := by
  refine ⟨_, _, rfl, rfl, ?_, ?_, rfl, rfl⟩ <;> decide

end FlareCore.Client
