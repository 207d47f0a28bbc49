import FlareCore.Client.Router

/-!
# Handles of a core

A `ClientCore` of the source is a record of references, and what its clones see of each other
depends on which of them a clone takes over.  Here the references of a core are two cells of a
store: one with the fields that the clients of a race share, and one with the rest.  A handle
names its cells, and it holds what is not behind a reference, the router and the event handler.

A clone names the same cells, takes a copy of the event handler and begins with an empty router.
-/

namespace FlareCore.Client

open FlareCore.Common FlareCore.Server

set_option autoImplicit false

/-! ## Cells -/

/-- The fields that `share_race_state_from` takes over and `detach_race_state` replaces, together
with what the observers of this list have heard.  Observers are known by their addresses. -/
structure RaceCell where
  observers : List Nat
  heard : List Notice
  pending : StringMap Nat
  disconnectRequested : Bool
  negotiationCompleted : Bool
  negotiationFailure : Option FlareError
  serverShutdown : Bool
  sessionEndedByServer : Option String
  pendingKick : Option String
  kickReported : Bool

/-- The other fields behind references. -/
structure OwnCell where
  state : ConnectionState
  parser : MessageParser
  clientConnection : Option Nat
  heartbeat : Option Nat

def RaceCell.new : RaceCell where
  observers := []
  heard := []
  pending := ∅
  disconnectRequested := false
  negotiationCompleted := false
  negotiationFailure := none
  serverShutdown := false
  sessionEndedByServer := none
  pendingKick := none
  kickReported := false

def OwnCell.new (config : ClientConfig) : OwnCell where
  state := .disconnected
  parser := config.initialParser
  clientConnection := none
  heartbeat := none

/-- Every cell that there is; the counts say which cells are in use. -/
structure CoreStore where
  own : Nat → OwnCell
  race : Nat → RaceCell
  ownCount : Nat
  raceCount : Nat

/-- The cells of a core. -/
structure CoreCells where
  own : Nat
  race : Nat
  deriving DecidableEq

namespace CoreCells

/-- `share_race_state_from`. -/
@[simps]
def shareRaceStateFrom (cells shared : CoreCells) : CoreCells :=
  { cells with race := shared.race }

end CoreCells

namespace CoreStore

/-- A store in which no core has been created. -/
def empty (config : ClientConfig) : CoreStore where
  own _ := .new config
  race _ := .new
  ownCount := 0
  raceCount := 0

variable (store : CoreStore)

/-- `ClientCore::new`: the cells of the new core. -/
@[simps]
def newCells : CoreCells where
  own := store.ownCount
  race := store.raceCount

/-- `ClientCore::new`. -/
@[simps]
def newCore (config : ClientConfig) : CoreStore where
  own := Function.update store.own store.ownCount (.new config)
  race := Function.update store.race store.raceCount .new
  ownCount := store.ownCount + 1
  raceCount := store.raceCount + 1

/-- `detach_race_state`: the cells of the core. -/
@[simps]
def detachedCells (cells : CoreCells) : CoreCells :=
  { cells with race := store.raceCount }

/-- `detach_race_state`. -/
@[simps]
def detachRaceState : CoreStore :=
  { store with
    race := Function.update store.race store.raceCount .new
    raceCount := store.raceCount + 1 }

/-- A cell that the clients of a race share is changed. -/
@[simps]
def changeRace (cells : CoreCells) (change : RaceCell → RaceCell) : CoreStore :=
  { store with race := Function.update store.race cells.race (change (store.race cells.race)) }

/-- `add_observer`. -/
def addObserver (cells : CoreCells) (observer : Nat) : CoreStore :=
  store.changeRace cells fun cell => { cell with observers := cell.observers ++ [observer] }

/-- `remove_observer`. -/
def removeObserver (cells : CoreCells) (observer : Nat) : CoreStore :=
  store.changeRace cells fun cell =>
    { cell with observers := cell.observers.filter fun other => other ≠ observer }

end CoreStore

/-! ## Handles -/

/-- A `ClientCore` of the source: its cells, and what it holds itself. -/
structure CoreHandle where
  cells : CoreCells
  router : Option MessageRouter
  eventHandler : Option Nat

namespace CoreHandle

variable (handle : CoreHandle)

/-- `Clone for ClientCore`. -/
@[simps]
def clone : CoreHandle :=
  { handle with router := handle.router.map fun _ => .new }

/-- What is registered through `router_mut`, if there is a router. -/
@[simps]
def changeRouter (change : MessageRouter → MessageRouter) : CoreHandle :=
  { handle with router := handle.router.map change }

/-- `set_event_handler`. -/
@[simps]
def setEventHandler (handler : Option Nat) : CoreHandle :=
  { handle with eventHandler := handler }

end CoreHandle

/-- `ClientCore::new`: the handle of the new core. -/
@[simps]
def CoreStore.newHandle (store : CoreStore) (enableRouter : Bool) : CoreHandle where
  cells := store.newCells
  router := if enableRouter then some .new else none
  eventHandler := none

end FlareCore.Client
