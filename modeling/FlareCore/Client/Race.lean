import FlareCore.Client.Handles
import FlareCore.Client.Lines

/-!
# The race of the protocols

`connect_with_race` dials every protocol in a task of its own, sends CONNECT on the connection that
is there first, and leaves the other tasks to a clean-up in the background: those that have not
finished are aborted, and the connections of the others are closed.  The whole race may be dropped
by its time-out at any moment.

Each client of the race has a core of its own that is joined to the core of the `HybridClient`;
before a client that was not selected is closed, its core is detached.  The cores are cells of one
store, so what a client does to its core is seen through every handle with the same cells.

A client that is dropped may leave a connection behind: the connection in the slot of its core
carries an observer, and the observer holds a clone of the core.
-/

namespace FlareCore.Client

open FlareCore.Common FlareCore.Server FlareCore.Foundations

set_option autoImplicit false

/-! ## Clients and their cells -/

namespace CoreStore

variable (store : CoreStore) (cells : CoreCells)

/-- What is seen through the cells of a core. -/
@[simps]
def core : ClientCore where
  state := (store.own cells.own).state
  parser := (store.own cells.own).parser
  negotiationCompleted := (store.race cells.race).negotiationCompleted
  negotiationFailure := (store.race cells.race).negotiationFailure
  disconnectRequested := (store.race cells.race).disconnectRequested
  serverShutdown := (store.race cells.race).serverShutdown
  sessionEndedByServer := (store.race cells.race).sessionEndedByServer
  pendingKick := (store.race cells.race).pendingKick
  kickReported := (store.race cells.race).kickReported
  clientConnection := (store.own cells.own).clientConnection
  heartbeat := (store.own cells.own).heartbeat
  pending := (store.race cells.race).pending

/-- A client as it finds its core. -/
def load (client : ClientState) : ClientState :=
  { client with core := store.core cells, notified := (store.race cells.race).heard }

/-- What a client has left in its core. -/
@[simps]
def save (client : ClientState) : CoreStore :=
  { store with
    own := Function.update store.own cells.own
      { state := client.core.state
        parser := client.core.parser
        clientConnection := client.core.clientConnection
        heartbeat := client.core.heartbeat }
    race := Function.update store.race cells.race
      { observers := (store.race cells.race).observers
        heard := client.notified
        pending := client.core.pending
        disconnectRequested := client.core.disconnectRequested
        negotiationCompleted := client.core.negotiationCompleted
        negotiationFailure := client.core.negotiationFailure
        serverShutdown := client.core.serverShutdown
        sessionEndedByServer := client.core.sessionEndedByServer
        pendingKick := client.core.pendingKick
        kickReported := client.core.kickReported } }

/-- The state that a core shows is set, as by `set_connected`. -/
@[simps]
def setState (state : ConnectionState) : CoreStore :=
  { store with
    own := Function.update store.own cells.own { store.own cells.own with state := state } }

@[simp]
theorem core_save (client : ClientState) : (store.save cells client).core cells = client.core := by
  simp [core]

end CoreStore

/-- A task that holds a clone of the core. -/
def Task.holdsCore : Task → Bool
  | frame task => task.stage.inFlight
  | deferred _ => true
  | clearing | informing _ | heartbeat _ _ | done => false

namespace ClientState

variable (state : ClientState)

/-- A clone of the core of a client that was dropped is still there: a task holds it, or the
observer on a connection that the slot of the core, or a task, refers to. -/
def holdsCore : Bool :=
  state.tasks.any Task.holdsCore ||
    (List.range state.lines.length).any fun line => state.isAttached line &&
      (state.core.clientConnection = some line || state.tasks.any fun task => task.line = some line)

/-- With the last clone of the core goes the connection in its slot. -/
def forget : ClientState :=
  if state.holdsCore then state
  else (state.withCore { state.core with clientConnection := none }).settle

/-- A client, and the call that has it, are dropped. -/
def drop : ClientState :=
  ({ state with connection := none, connectionPrepared := false, operation := none }.settle).forget

/-- Nothing but the client itself refers to a connection of it that is open: no observer is on it,
and no task is there that holds a connection or the core. -/
def isUnshared : Bool :=
  (List.range state.lines.length).all fun line => !state.isLive line ||
    (!state.isAttached line && state.tasks.all fun task => task.line.isNone && !task.holdsCore)

end ClientState

/-- What the readers and the tasks of a client do. -/
def Move.isUnattended : Move → Bool
  | .read _ _ | .handOver _ | .work _ _ => true
  | .call _ | .submit _ _ | .send _ _ | .operate _ => false

/-- What goes on in a client that is called once. -/
def Move.isRunning : Move → Bool
  | .operate _ | .read _ _ | .handOver _ | .work _ _ => true
  | .call _ | .submit _ _ | .send _ _ => false

/-! ## Racers -/

/-- What becomes of the task of a protocol, and of its client. -/
inductive RacerStage where
  | dialing
  | established
  | failed
  | aborted
  | selected
  | joined
  | detached
  | closing
  | returned
  | released
  deriving DecidableEq

namespace RacerStage

/-- The task is still in the set of tasks. -/
def isPending : RacerStage → Bool
  | dialing | established | failed | aborted => true
  | selected | joined | detached | closing | returned | released => false

/-- What may go on in a client.  The one that is selected connects, and one that is not selected
disconnects; readers and tasks go on when the client is dropped; and once it is returned, the
application may call it. -/
def permits (move : Move) : RacerStage → Bool
  | selected | closing => move.isRunning
  | released => move.isUnattended
  | returned => true
  | dialing | established | failed | aborted | joined | detached => false

end RacerStage

structure Racer where
  protocol : TransportProtocol
  cells : CoreCells
  client : ClientState
  stage : RacerStage

/-- Where `connect_with_race` stands: it waits for the first connection, it connects on the one that
is selected, or it has returned, with a client or an error. -/
inductive RacePhase where
  | waiting
  | connecting (winner : Nat)
  | returned (winner : Option Nat)
  deriving DecidableEq

/-- Where the clean-up in the background stands. -/
inductive CleanUp where
  | idle
  | joining
  | closing (loser : Nat)
  | finished
  deriving DecidableEq

structure RaceState where
  store : CoreStore
  outer : CoreCells
  racers : List Racer
  selected : Option Nat
  phase : RacePhase
  cleanUp : CleanUp

inductive RaceMove where
  | dial (racer : Nat) (succeeds : Bool)
  | abort (racer : Nat)
  | join (racer : Nat)
  | exhaust
  | clean (racer : Nat)
  | cleaned
  | detach
  | disconnect
  | release
  | client (racer : Nat) (move : Move)
  | finish
  | timeout

/-- The setting of a client of the race: its core is new and has no event handler. -/
@[simps]
def ClientSetting.racing (setting : ClientSetting) (protocol : TransportProtocol) : ClientSetting :=
  { setting with protocol := protocol, hasHandler := false }

namespace RaceState

/-- `spawn_connection_tasks`. -/
def spawnConnectionTasks (config : ClientConfig) (outer : CoreCells) (store : CoreStore) :
    List TransportProtocol → CoreStore × List Racer
  | [] => (store, [])
  | protocol :: protocols =>
      let spawned := spawnConnectionTasks config outer (store.newCore config) protocols
      (spawned.1, ⟨protocol, store.newCells.shareRaceStateFrom outer, .new config, .dialing⟩ ::
        spawned.2)

/-- The beginning of `connect_with_race`. -/
def start (config : ClientConfig) (protocols : List TransportProtocol) : RaceState :=
  let empty := CoreStore.empty config
  let spawned := spawnConnectionTasks config empty.newCells (empty.newCore config) protocols
  { store := spawned.1
    outer := empty.newCells
    racers := spawned.2
    selected := none
    phase := .waiting
    cleanUp := .idle }

variable (state : RaceState)

def put (index : Nat) (racer : Racer) : RaceState :=
  { state with racers := state.racers.set index racer }

/-- A client of the race has changed, and its core with it. -/
def update (index : Nat) (racer : Racer) (client : ClientState) : RaceState :=
  { state.put index { racer with client := client } with
    store := state.store.save racer.cells client }

/-- The client at hand is dropped. -/
def dropRacer (index : Nat) (racer : Racer) : RaceState :=
  state.update index { racer with stage := .released }
    (state.store.load racer.cells racer.client).drop

/-- Every task that is still in the set is dropped with it. -/
def dropTasks : RaceState :=
  { state with racers := state.racers.map fun racer =>
      if racer.stage.isPending then
        { racer with
          stage := .released
          client := (state.store.load racer.cells racer.client).drop }
      else racer }

def isEmpty : Bool :=
  state.racers.all fun racer => !racer.stage.isPending

variable [RustText] (setting : ClientSetting)

/-- A step of a client; what was dropped is forgotten with the last clone of its core. -/
def advance (index : Nat) (racer : Racer) (move : Move) : Option RaceState :=
  ((state.store.load racer.cells racer.client).step (setting.racing racer.protocol) move).map
    fun client =>
      state.update index racer (if racer.stage = .released then client.forget else client)

/-- `wait_for_first_connection`: the first connection is selected, the clean-up of the others
begins unless there are none, and `process_race_results` calls `connect`. -/
def select (index : Nat) (racer : Racer) : Option RaceState :=
  let chosen := { racer with stage := .selected }
  let others := state.put index chosen
  { others with
    selected := some index
    phase := .connecting index
    cleanUp := if others.isEmpty then .finished else .joining
    }.advance setting index chosen (.call .connect)

/-- The end of `process_race_results` and of `connect_with_race`. -/
def conclude (index : Nat) (racer : Racer) (result : Result Unit) : RaceState :=
  match result with
  | .ok _ =>
      { state.put index { racer with stage := .returned } with
        store := state.store.setState state.outer .connected
        phase := .returned (some index) }
  | .error _ => { state.dropRacer index racer with phase := .returned none }

/-- The beginning of the disconnection in `close_race_loser`. -/
def closeRaceLoser (index : Nat) (racer : Racer) : Option RaceState :=
  let requested := state.store.changeRace racer.cells fun cell =>
    { cell with disconnectRequested := true }
  { state with store := requested }.advance setting index { racer with stage := .closing }
    (.call .disconnect)

/-- The race is dropped by its time-out; the clean-up is not. -/
def timeout : Option RaceState :=
  match state.phase with
  | .waiting => some { state.dropTasks with phase := .returned none, cleanUp := .finished }
  | .connecting winner => state.racers[winner]?.bind fun racer =>
      if racer.client.operation.isSome then
        some { state.dropRacer winner racer with phase := .returned none }
      else none
  | .returned _ => none

def step : RaceMove → Option RaceState
  | .dial index succeeds => state.racers[index]?.bind fun racer =>
      if racer.stage = .dialing then
        some (state.put index
          (if succeeds then { racer with client := .prepared setting.config, stage := .established }
          else { racer with stage := .failed }))
      else none
  | .abort index => state.racers[index]?.bind fun racer =>
      if racer.stage = .dialing ∧ state.phase ≠ .waiting then
        some (state.put index { racer with stage := .aborted })
      else none
  | .join index => state.racers[index]?.bind fun racer =>
      match state.phase, racer.stage with
      | .waiting, .established => state.select setting index racer
      | .waiting, .failed => some (state.put index { racer with stage := .released })
      | _, _ => none
  | .exhaust =>
      if state.phase = .waiting ∧ state.isEmpty then
        some { state with phase := .returned none, cleanUp := .finished }
      else none
  | .clean index => state.racers[index]?.bind fun racer =>
      match state.cleanUp, racer.stage with
      | .joining, .established =>
          some { state.put index { racer with stage := .joined } with cleanUp := .closing index }
      | .joining, .failed | .joining, .aborted =>
          some (state.put index { racer with stage := .released })
      | _, _ => none
  | .cleaned =>
      if state.cleanUp = .joining ∧ state.isEmpty then some { state with cleanUp := .finished }
      else none
  | .detach =>
      match state.cleanUp with
      | .closing index => state.racers[index]?.bind fun racer =>
          if racer.stage = .joined then
            some { state.put index
                { racer with
                  cells := state.store.detachedCells racer.cells
                  stage := .detached } with
              store := state.store.detachRaceState }
          else none
      | .idle | .joining | .finished => none
  | .disconnect =>
      match state.cleanUp with
      | .closing index => state.racers[index]?.bind fun racer =>
          if racer.stage = .detached then state.closeRaceLoser setting index racer else none
      | .idle | .joining | .finished => none
  | .release =>
      match state.cleanUp with
      | .closing index => state.racers[index]?.bind fun racer =>
          if racer.stage = .closing ∧ racer.client.operation.isNone then
            some { state.dropRacer index racer with cleanUp := .joining }
          else none
      | .idle | .joining | .finished => none
  | .client index move => state.racers[index]?.bind fun racer =>
      if racer.stage.permits move then state.advance setting index racer move else none
  | .finish =>
      match state.phase with
      | .connecting winner => state.racers[winner]?.bind fun racer =>
          if racer.client.operation.isNone then
            racer.client.returned.map fun returned => state.conclude winner racer returned.2
          else none
      | .waiting | .returned _ => none
  | .timeout => state.timeout

/-- What a step of a race can be, with what it asks of the state. -/
inductive Step : RaceMove → RaceState → Prop
  | dial {index : Nat} {racer : Racer} (found : state.racers[index]? = some racer)
      (dialing : racer.stage = .dialing) (succeeds : Bool) :
      Step (.dial index succeeds) (state.put index
        (if succeeds then { racer with client := .prepared setting.config, stage := .established }
        else { racer with stage := .failed }))
  | abort {index : Nat} {racer : Racer} (found : state.racers[index]? = some racer)
      (dialing : racer.stage = .dialing) :
      Step (.abort index) (state.put index { racer with stage := .aborted })
  | select {index : Nat} {racer : Racer} {next : RaceState}
      (found : state.racers[index]? = some racer) (waiting : state.phase = .waiting)
      (established : racer.stage = .established)
      (selected : state.select setting index racer = some next) : Step (.join index) next
  | joinFailed {index : Nat} {racer : Racer} (found : state.racers[index]? = some racer)
      (failed : racer.stage = .failed) :
      Step (.join index) (state.put index { racer with stage := .released })
  | exhaust (waiting : state.phase = .waiting) (empty : state.isEmpty = true) :
      Step .exhaust { state with phase := .returned none, cleanUp := .finished }
  | clean {index : Nat} {racer : Racer} (found : state.racers[index]? = some racer)
      (joining : state.cleanUp = .joining) (established : racer.stage = .established) :
      Step (.clean index)
        { state.put index { racer with stage := .joined } with cleanUp := .closing index }
  | discard {index : Nat} {racer : Racer} (found : state.racers[index]? = some racer)
      (ended : racer.stage = .failed ∨ racer.stage = .aborted) :
      Step (.clean index) (state.put index { racer with stage := .released })
  | cleaned (joining : state.cleanUp = .joining) (empty : state.isEmpty = true) :
      Step .cleaned { state with cleanUp := .finished }
  | detach {index : Nat} {racer : Racer} (found : state.racers[index]? = some racer)
      (closing : state.cleanUp = .closing index) (joined : racer.stage = .joined) :
      Step .detach { state.put index
          { racer with cells := state.store.detachedCells racer.cells, stage := .detached } with
        store := state.store.detachRaceState }
  | disconnect {index : Nat} {racer : Racer} {next : RaceState}
      (found : state.racers[index]? = some racer) (closing : state.cleanUp = .closing index)
      (detached : racer.stage = .detached)
      (closes : state.closeRaceLoser setting index racer = some next) : Step .disconnect next
  | release {index : Nat} {racer : Racer} (found : state.racers[index]? = some racer)
      (closing : state.cleanUp = .closing index) (isClosing : racer.stage = .closing) :
      Step .release { state.dropRacer index racer with cleanUp := .joining }
  | client {index : Nat} {racer : Racer} {move : Move} {next : RaceState}
      (found : state.racers[index]? = some racer) (permitted : racer.stage.permits move = true)
      (advanced : state.advance setting index racer move = some next) :
      Step (.client index move) next
  | finish {index : Nat} {racer : Racer} {call : Call} {result : Result Unit}
      (found : state.racers[index]? = some racer) (connecting : state.phase = .connecting index)
      (free : racer.client.operation = none)
      (returned : racer.client.returned = some (call, result)) :
      Step .finish (state.conclude index racer result)
  | dropAll (waiting : state.phase = .waiting) :
      Step .timeout { state.dropTasks with phase := .returned none, cleanUp := .finished }
  | drop {index : Nat} {racer : Racer} (found : state.racers[index]? = some racer)
      (connecting : state.phase = .connecting index) :
      Step .timeout { state.dropRacer index racer with phase := .returned none }

variable {state setting} in
/-- Every step is one of these. -/
theorem step_cases {move : RaceMove} {next : RaceState}
    (stepped : state.step setting move = some next) : state.Step setting move next := by
  cases move with
  | dial index succeeds =>
      obtain ⟨racer, found, stepped⟩ := Option.bind_eq_some_iff.mp stepped
      obtain ⟨dialing, isNext⟩ := Option.ite_none_right_eq_some.mp stepped
      obtain rfl := Option.some.inj isNext
      exact .dial found dialing succeeds
  | abort index =>
      obtain ⟨racer, found, stepped⟩ := Option.bind_eq_some_iff.mp stepped
      obtain ⟨⟨dialing, -⟩, isNext⟩ := Option.ite_none_right_eq_some.mp stepped
      obtain rfl := Option.some.inj isNext
      exact .abort found dialing
  | join index =>
      obtain ⟨racer, found, stepped⟩ := Option.bind_eq_some_iff.mp stepped
      split at stepped
      next waiting established => exact .select found waiting established stepped
      next waiting failed =>
        obtain rfl := Option.some.inj stepped
        exact .joinFailed found failed
      next => cases stepped
  | exhaust =>
      obtain ⟨⟨waiting, empty⟩, isNext⟩ := Option.ite_none_right_eq_some.mp stepped
      obtain rfl := Option.some.inj isNext
      exact .exhaust waiting empty
  | clean index =>
      obtain ⟨racer, found, stepped⟩ := Option.bind_eq_some_iff.mp stepped
      split at stepped
      next joining established =>
        obtain rfl := Option.some.inj stepped
        exact .clean found joining established
      next joining failed =>
        obtain rfl := Option.some.inj stepped
        exact .discard found (.inl failed)
      next joining aborted =>
        obtain rfl := Option.some.inj stepped
        exact .discard found (.inr aborted)
      next => cases stepped
  | cleaned =>
      obtain ⟨⟨joining, empty⟩, isNext⟩ := Option.ite_none_right_eq_some.mp stepped
      obtain rfl := Option.some.inj isNext
      exact .cleaned joining empty
  | detach =>
      simp only [RaceState.step] at stepped
      split at stepped
      next index closing =>
        obtain ⟨racer, found, stepped⟩ := Option.bind_eq_some_iff.mp stepped
        obtain ⟨joined, isNext⟩ := Option.ite_none_right_eq_some.mp stepped
        obtain rfl := Option.some.inj isNext
        exact .detach found closing joined
      all_goals cases stepped
  | disconnect =>
      simp only [RaceState.step] at stepped
      split at stepped
      next index closing =>
        obtain ⟨racer, found, stepped⟩ := Option.bind_eq_some_iff.mp stepped
        obtain ⟨detached, closes⟩ := Option.ite_none_right_eq_some.mp stepped
        exact .disconnect found closing detached closes
      all_goals cases stepped
  | release =>
      simp only [RaceState.step] at stepped
      split at stepped
      next index closing =>
        obtain ⟨racer, found, stepped⟩ := Option.bind_eq_some_iff.mp stepped
        obtain ⟨⟨isClosing, -⟩, isNext⟩ := Option.ite_none_right_eq_some.mp stepped
        obtain rfl := Option.some.inj isNext
        exact .release found closing isClosing
      all_goals cases stepped
  | client index move =>
      obtain ⟨racer, found, stepped⟩ := Option.bind_eq_some_iff.mp stepped
      obtain ⟨permitted, advanced⟩ := Option.ite_none_right_eq_some.mp stepped
      exact .client found permitted advanced
  | finish =>
      simp only [RaceState.step] at stepped
      split at stepped
      next index connecting =>
        obtain ⟨racer, found, stepped⟩ := Option.bind_eq_some_iff.mp stepped
        obtain ⟨free, finished⟩ := Option.ite_none_right_eq_some.mp stepped
        obtain ⟨⟨call, result⟩, returned, rfl⟩ := Option.map_eq_some_iff.mp finished
        exact .finish found connecting (Option.isNone_iff_eq_none.mp free) returned
      all_goals cases stepped
  | timeout =>
      simp only [RaceState.step, RaceState.timeout] at stepped
      split at stepped
      next waiting =>
        obtain rfl := Option.some.inj stepped
        exact .dropAll waiting
      next index connecting =>
        obtain ⟨racer, found, stepped⟩ := Option.bind_eq_some_iff.mp stepped
        obtain ⟨-, isNext⟩ := Option.ite_none_right_eq_some.mp stepped
        obtain rfl := Option.some.inj isNext
        exact .drop found connecting
      next => cases stepped

end RaceState

def raceSystem [RustText] (setting : ClientSetting) : System RaceState RaceMove where
  step state move := state.step setting move

end FlareCore.Client
