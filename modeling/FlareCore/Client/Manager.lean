import FlareCore.Client.Core
import FlareCore.Foundations.Transition

/-!
# Automatic reconnection

A connection manager guards its reconnect loop with a flag and with the handle of the loop's task.
The caller that starts the loop, the loop when it ends and the caller that disconnects each update
the two in separate steps, so a disconnect that comes between the start of the loop and the storing
of its handle aborts nothing (`loop_outlives_disconnect`), and a loop that ends late clears the
handle of its successor.

`ClientConnectionManager.Orderly` excludes these overlaps.  In a run that keeps to it there is at
most one loop, and none after a disconnect (`one_loop_and_none_after_disconnect`).
-/

namespace FlareCore.Client

open FlareCore.Foundations

set_option autoImplicit false

/-! ## The manager -/

/-- Where a reconnect loop stands.  A loop that sleeps has `polled` off and the stage that follows
the sleep. -/
inductive LoopStage where
  | checking
  | rechecking
  | announcing
  | connecting
  | inFlight
  | succeeded
  | failed
  | clearingFlag
  | clearingHandle
  | finished
  deriving DecidableEq, Repr

/-- The task of a reconnect loop.  An abort takes effect when the task yields: a task that is being
polled runs on to its next wait. -/
structure ReconnectLoop where
  stage : LoopStage
  attempt : UInt32
  polled : Bool
  aborted : Bool
  deriving DecidableEq, Repr

namespace ReconnectLoop

def spawned : ReconnectLoop :=
  ⟨.checking, 0, false, false⟩

/-- The loop can still do something. -/
def isAlive (loop : ReconnectLoop) : Bool :=
  loop.stage ≠ .finished && (!loop.aborted || loop.polled)

/-- The stages that begin with a wait; the others follow the one before without yielding. -/
def mayWait (loop : ReconnectLoop) : Bool :=
  match loop.stage with
  | .checking | .rechecking | .connecting | .inFlight | .clearingFlag | .clearingHandle => true
  | .announcing | .succeeded | .failed | .finished => false

def park (loop : ReconnectLoop) : ReconnectLoop :=
  { loop with polled := false }

def abort (loop : ReconnectLoop) : ReconnectLoop :=
  { loop with aborted := true }

def go (loop : ReconnectLoop) (stage : LoopStage) : ReconnectLoop :=
  { loop with stage := stage }

end ReconnectLoop

/-- Where a call of `startAutoReconnect` (`entering` to `storing`), of `disconnect` (`stopping` to
`closing`) or of `connect` (`queued` and `opening`) stands. -/
inductive ManagerCall where
  | entering
  | spawning
  | storing (loop : Nat)
  | stopping
  | clearing
  | leaving
  | closing
  | queued
  | opening
  | returned
  deriving DecidableEq, Repr

namespace ManagerCall

/-- The flag is set and the handle of the loop is not stored yet. -/
def isSettling : ManagerCall → Bool
  | spawning | storing _ => true
  | entering | stopping | clearing | leaving | closing | queued | opening | returned => false

/-- The loop has been aborted and `disconnect` has not returned yet. -/
def isStopping : ManagerCall → Bool
  | clearing | leaving | closing => true
  | entering | spawning | storing _ | stopping | queued | opening | returned => false

/-- The call has not reached the flag or the client yet. -/
def isPending : ManagerCall → Bool
  | entering | queued => true
  | spawning | storing _ | stopping | clearing | leaving | closing | opening | returned => false

/-- The call holds the client over a wait. -/
def holdsClient : ManagerCall → Bool
  | closing | opening => true
  | entering | spawning | storing _ | stopping | clearing | leaving | queued | returned => false

end ManagerCall

/-- A connection manager: whether its client is connected, its state manager, the flag and the
handle of the reconnect loop, with all loops and calls so far.  `attempts` counts the calls of the
client's `connect`. -/
structure ClientConnectionManager where
  isConnected : Bool
  stateManager : ConnectionState
  isReconnecting : Bool
  reconnectHandle : Option Nat
  loops : List ReconnectLoop
  calls : List ManagerCall
  attempts : Nat
  deriving DecidableEq, Repr

/-- What may happen next: a call, the next step of a call or of a loop, the scheduling of a loop, or
a change of the client's connection.  `succeeded` is the answer of the client's `connect`. -/
inductive ManagerMove where
  | startAutoReconnect
  | disconnect
  | connect
  | call (index : Nat) (succeeded : Bool)
  | wake (loop : Nat)
  | park (loop : Nat)
  | advance (loop : Nat) (succeeded : Bool)
  | reap (loop : Nat)
  | link (up : Bool)
  deriving DecidableEq, Repr

namespace ClientConnectionManager

def new (isConnected : Bool) : ClientConnectionManager where
  isConnected := isConnected
  stateManager := .disconnected
  isReconnecting := false
  reconnectHandle := none
  loops := []
  calls := []
  attempts := 0

variable (limit : Option UInt32) (manager : ClientConnectionManager)

/-- Somebody waits for the client's `connect` or `disconnect`.  An aborted loop lets go of the
client when its task is dropped. -/
def clientLocked : Bool :=
  manager.calls.any ManagerCall.holdsClient || manager.loops.any (·.stage = .inFlight)

/-- The guard of the handle lives to the end of `stop_reconnect`, over the wait for the flag. -/
def handleLocked : Bool :=
  manager.calls.contains .clearing

def needsReconnect : Bool :=
  !manager.isConnected && manager.stateManager = .disconnected

/-- The part of `stop_reconnect` up to the wait for the flag. -/
def abortHandle : ClientConnectionManager :=
  match manager.reconnectHandle with
  | some loop =>
      { manager with reconnectHandle := none, loops := manager.loops.modify loop .abort }
  | none => manager

/-- The next step of a loop that is being polled. -/
def loopStep (loop : ReconnectLoop) (succeeded : Bool) : ClientConnectionManager × ReconnectLoop :=
  match loop.stage with
  | .checking =>
      if manager.clientLocked then (manager, loop.park)
      else if manager.needsReconnect then
        if limit.any (· ≤ loop.attempt) then (manager, loop.go .clearingFlag)
        else (manager, { loop with attempt := loop.attempt + 1 }.go .rechecking |>.park)
      else (manager, { loop with attempt := 0 }.park)
  | .rechecking =>
      if manager.clientLocked then (manager, loop.park)
      else if manager.needsReconnect then (manager, loop.go .announcing)
      else (manager, loop.go .checking)
  | .announcing => ({ manager with stateManager := .connecting }, loop.go .connecting)
  | .connecting =>
      if manager.clientLocked then (manager, loop.park)
      else ({ manager with attempts := manager.attempts + 1 }, loop.go .inFlight)
  | .inFlight => (manager, loop.go (if succeeded then .succeeded else .failed))
  | .succeeded => ({ manager with stateManager := .connected }, loop.go .clearingFlag)
  | .failed => ({ manager with stateManager := .disconnected }, loop.go .checking)
  | .clearingFlag => ({ manager with isReconnecting := false }, loop.go .clearingHandle)
  | .clearingHandle =>
      if manager.handleLocked then (manager, loop.park)
      else ({ manager with reconnectHandle := none }, loop.go .finished |>.park)
  | .finished => (manager, loop)

/-- The next step of a call, if it does not wait for a lock. -/
def callStep (succeeded : Bool) : ManagerCall → Option (ClientConnectionManager × ManagerCall)
  | .entering =>
      if manager.isReconnecting then some (manager, .returned)
      else some ({ manager with isReconnecting := true }, .spawning)
  | .spawning =>
      some ({ manager with loops := manager.loops ++ [.spawned] }, .storing manager.loops.length)
  | .storing loop =>
      if manager.handleLocked then none
      else some ({ manager with reconnectHandle := some loop }, .returned)
  | .stopping => if manager.handleLocked then none else some (manager.abortHandle, .clearing)
  | .clearing => some ({ manager with isReconnecting := false }, .leaving)
  | .leaving => if manager.clientLocked then none else some (manager, .closing)
  | .closing => some ({ manager with stateManager := .disconnected }, .returned)
  | .queued =>
      if manager.clientLocked then none
      else if manager.isConnected then some (manager, .returned)
      else some ({ manager with stateManager := .connecting, attempts := manager.attempts + 1 },
        .opening)
  | .opening =>
      some ({ manager with stateManager := if succeeded then .connected else .disconnected },
        .returned)
  | .returned => none

/-- A call comes in. -/
def enter (call : ManagerCall) : ClientConnectionManager :=
  { manager with calls := manager.calls ++ [call] }

/-- What the scheduler does to a loop, if it may. -/
def schedule (index : Nat) (may : ReconnectLoop → Bool) (change : ReconnectLoop → ReconnectLoop) :
    Option ClientConnectionManager :=
  match manager.loops[index]? with
  | some loop =>
      if may loop then some { manager with loops := manager.loops.set index (change loop) }
      else none
  | none => none

def step : ManagerMove → Option ClientConnectionManager
  | .startAutoReconnect => some (manager.enter .entering)
  | .disconnect => some (manager.enter .stopping)
  | .connect => some (manager.enter .queued)
  | .call index succeeded =>
      match manager.calls[index]? with
      | some call =>
          (manager.callStep succeeded call).map fun next =>
            { next.1 with calls := manager.calls.set index next.2 }
      | none => none
  | .wake index =>
      manager.schedule index
        (fun loop => loop.stage ≠ .finished && !loop.aborted && !loop.polled)
        fun loop => { loop with polled := true }
  | .park index =>
      manager.schedule index (fun loop => loop.polled && loop.mayWait) .park
  | .advance index succeeded =>
      match manager.loops[index]? with
      | some loop =>
          if loop.polled then
            let next := manager.loopStep limit loop succeeded
            some { next.1 with loops := manager.loops.set index next.2 }
          else none
      | none => none
  | .reap index =>
      manager.schedule index
        (fun loop => loop.stage ≠ .finished && loop.aborted && !loop.polled)
        (.go · .finished)
  | .link up => some { manager with isConnected := up }

/-- The loop at an index is alive. -/
def isAlive (index : Nat) : Bool :=
  manager.loops[index]?.any ReconnectLoop.isAlive

end ClientConnectionManager

/-- The manager as a transition system; `limit` is `max_reconnect_attempts`. -/
def managerSystem (limit : Option UInt32) : System ClientConnectionManager ManagerMove :=
  ⟨ClientConnectionManager.step limit⟩

/-! ## When it keeps its loop -/

namespace ClientConnectionManager

/-- A loop is about to clear the handle. -/
def hasLateLoop (manager : ClientConnectionManager) : Bool :=
  manager.loops.any fun loop => loop.isAlive && loop.stage = .clearingHandle

/-- The loop of the handle is in the middle of a poll. -/
def handlePolled (manager : ClientConnectionManager) : Bool :=
  (manager.reconnectHandle.bind (manager.loops[·]?)).any fun loop =>
    loop.stage ≠ .finished && loop.polled

/-- The next step of a call does not cross another one: the flag is taken when no other caller and
no loop is between the flag and the handle and no disconnect is under way, a disconnect takes the
handle of a loop that is stored and not being polled, and it returns when no call waits to take the
flag or the client. -/
def permitsCall (manager : ClientConnectionManager) : ManagerCall → Bool
  | .entering =>
      manager.isReconnecting || !manager.calls.any ManagerCall.isSettling &&
        !manager.calls.any ManagerCall.isStopping && !manager.hasLateLoop
  | .stopping => !manager.calls.any ManagerCall.isSettling && !manager.handlePolled
  | .closing => !manager.calls.any ManagerCall.isPending
  | .spawning | .storing _ | .clearing | .leaving | .queued | .opening | .returned => true

/-- The only steps that are restricted are those of the calls. -/
def Orderly (manager : ClientConnectionManager) (move : ManagerMove) : Prop :=
  ∀ index succeeded call, move = .call index succeeded → manager.calls[index]? = some call →
    manager.permitsCall call = true

instance (manager : ClientConnectionManager) (move : ManagerMove) :
    Decidable (manager.Orderly move) :=
  match move with
  | .call index succeeded =>
      decidable_of_iff (manager.calls[index]?.all manager.permitsCall = true) <| by
        constructor
        · rintro permitted _ _ call ⟨rfl, rfl⟩ found
          simpa [found] using permitted
        · intro orderly
          cases found : manager.calls[index]? with
          | none => rfl
          | some call => exact orderly index succeeded call rfl found
  | .startAutoReconnect | .disconnect | .connect | .wake _ | .park _ | .advance _ _ | .reap _
  | .link _ => isTrue fun _ _ _ same => by cases same

/-- No call of `startAutoReconnect` or of `connect` comes in. -/
def Uncalled (_ : ClientConnectionManager) (move : ManagerMove) : Prop :=
  move ≠ .startAutoReconnect ∧ move ≠ .connect

instance (manager : ClientConnectionManager) (move : ManagerMove) :
    Decidable (manager.Uncalled move) :=
  inferInstanceAs (Decidable (_ ∧ _))

/-- At most one loop is alive. -/
def SoleLoop (manager : ClientConnectionManager) : Prop :=
  ∀ first second, manager.isAlive first = true → manager.isAlive second = true → first = second

/-- A call of `disconnect` returns, in a step that a side condition allows. -/
def Disconnects (limit : Option UInt32) (allowed : ClientConnectionManager → ManagerMove → Prop)
    (before after : ClientConnectionManager) : Prop :=
  ∃ index succeeded, before.calls[index]? = some .closing ∧
    allowed before (.call index succeeded) ∧
    before.step limit (.call index succeeded) = some after

/-! ## The invariant -/

/-- At most one caller is between the flag and the handle, every loop that is alive is the one of
the handle or of that caller and keeps the flag until it lets go of it, and there is none while a
disconnect is under way. -/
structure Guarded (manager : ClientConnectionManager) : Prop where
  owned : ∀ index, manager.isAlive index = true →
    manager.reconnectHandle = some index ∨ .storing index ∈ manager.calls
  settling : ∀ (first second : Nat) (call other : ManagerCall), manager.calls[first]? = some call →
    manager.calls[second]? = some other → call.isSettling = true → other.isSettling = true →
      first = second
  spawning : .spawning ∈ manager.calls →
    manager.isReconnecting = true ∧ ∀ index, manager.isAlive index = false
  storing : ∀ stored index, .storing stored ∈ manager.calls → manager.isAlive index = true →
    index = stored
  flagged : ∀ (index : Nat) (loop : ReconnectLoop), manager.loops[index]? = some loop →
    loop.isAlive = true → loop.stage ≠ .clearingHandle → manager.isReconnecting = true
  stopped : ∀ call ∈ manager.calls, call.isStopping = true →
    (∀ index, manager.isAlive index = false) ∧ manager.calls.any ManagerCall.isSettling = false

theorem isAlive_eq_true_iff {manager : ClientConnectionManager} {index : Nat} :
    manager.isAlive index = true ↔
      ∃ loop, manager.loops[index]? = some loop ∧ loop.isAlive = true := by
  simp [isAlive, Option.any_eq_true]

/-- Two loops that are alive are the same one. -/
theorem Guarded.soleLoop {manager : ClientConnectionManager} (guarded : manager.Guarded) :
    manager.SoleLoop := by
  intro first second firstAlive secondAlive
  rcases guarded.owned first firstAlive with firstHeld | firstStored
  · rcases guarded.owned second secondAlive with secondHeld | secondStored
    · exact Option.some.inj (firstHeld.symm.trans secondHeld)
    · exact guarded.storing second first secondStored firstAlive
  · exact (guarded.storing first second firstStored secondAlive).symm

/-- Without a loop and without a caller between the flag and the handle there is nothing to
guard. -/
theorem guarded_of_quiet {manager : ClientConnectionManager}
    (dead : ∀ index, manager.isAlive index = false)
    (unsettled : manager.calls.any ManagerCall.isSettling = false) : manager.Guarded where
  owned index alive := by simp [dead] at alive
  settling first _ call _ found _ settling _ := by
    have := List.any_eq_false.mp unsettled call (List.mem_of_getElem? found)
    exact absurd settling this
  spawning among := absurd rfl (List.any_eq_false.mp unsettled _ among)
  storing _ index _ alive := by simp [dead] at alive
  flagged index loop found alive _ := by
    have := isAlive_eq_true_iff.mpr ⟨loop, found, alive⟩
    simp [dead] at this
  stopped _ _ _ := ⟨dead, unsettled⟩

/-- Every loop that is alive was alive, and has not come back from the last stage. -/
def Narrows (before after : ClientConnectionManager) : Prop :=
  ∀ (index : Nat) (loop : ReconnectLoop), after.loops[index]? = some loop → loop.isAlive = true →
    ∃ earlier : ReconnectLoop, before.loops[index]? = some earlier ∧ earlier.isAlive = true ∧
      (loop.stage ≠ .clearingHandle → earlier.stage ≠ .clearingHandle)

section

variable {before after : ClientConnectionManager}

theorem Narrows.isAlive (narrows : Narrows before after) {index : Nat}
    (alive : after.isAlive index = true) : before.isAlive index = true := by
  obtain ⟨loop, found, loopAlive⟩ := isAlive_eq_true_iff.mp alive
  obtain ⟨earlier, earlierFound, earlierAlive, -⟩ := narrows index loop found loopAlive
  exact isAlive_eq_true_iff.mpr ⟨earlier, earlierFound, earlierAlive⟩

theorem Narrows.dead (narrows : Narrows before after) {index : Nat}
    (dead : before.isAlive index = false) : after.isAlive index = false := by
  cases alive : after.isAlive index with
  | false => rfl
  | true =>
      rw [narrows.isAlive alive] at dead
      exact absurd dead Bool.noConfusion

/-- A change of one loop. -/
theorem narrows_of_set {index : Nat} {loop next : ReconnectLoop}
    (found : before.loops[index]? = some loop) (loops : after.loops = before.loops.set index next)
    (alive : next.isAlive = true → loop.isAlive = true ∧
      (next.stage ≠ .clearingHandle → loop.stage ≠ .clearingHandle)) : Narrows before after := by
  intro other later foundLater laterAlive
  rw [loops] at foundLater
  by_cases same : index = other
  · subst same
    have inRange := (List.getElem?_eq_some_iff.mp found).1
    rw [List.getElem?_set_self inRange] at foundLater
    obtain rfl := Option.some.inj foundLater
    exact ⟨loop, found, alive laterAlive⟩
  · rw [List.getElem?_set_ne same] at foundLater
    exact ⟨later, foundLater, laterAlive, id⟩

/-- Steps of loops that do not touch the flag and the handle. -/
theorem Guarded.narrow (guarded : before.Guarded) (narrows : Narrows before after)
    (calls : after.calls = before.calls) (handle : after.reconnectHandle = before.reconnectHandle)
    (flag : after.isReconnecting = before.isReconnecting) : after.Guarded where
  owned index alive := by
    rw [handle, calls]
    exact guarded.owned index (narrows.isAlive alive)
  settling := by
    rw [calls]
    exact guarded.settling
  spawning among := by
    rw [calls] at among
    obtain ⟨flagSet, dead⟩ := guarded.spawning among
    exact ⟨flag.trans flagSet, fun index => narrows.dead (dead index)⟩
  storing stored index among alive := by
    rw [calls] at among
    exact guarded.storing stored index among (narrows.isAlive alive)
  flagged index loop found alive late := by
    obtain ⟨earlier, earlierFound, earlierAlive, earlierLate⟩ := narrows index loop found alive
    rw [flag]
    exact guarded.flagged index earlier earlierFound earlierAlive (earlierLate late)
  stopped call among stopping := by
    rw [calls] at among ⊢
    obtain ⟨dead, unsettled⟩ := guarded.stopped call among stopping
    exact ⟨fun index => narrows.dead (dead index), unsettled⟩

theorem Narrows.refl (manager : ClientConnectionManager) : Narrows manager manager :=
  fun _ loop found alive => ⟨loop, found, alive, id⟩

/-- Nothing depends on the client. -/
theorem Guarded.setClient {manager : ClientConnectionManager} (guarded : manager.Guarded)
    (isConnected : Bool) (stateManager : ConnectionState) (attempts : Nat) :
    Guarded { manager with
      isConnected := isConnected, stateManager := stateManager, attempts := attempts } :=
  guarded.narrow (Narrows.refl manager) rfl rfl rfl

end

/-! ### Steps of loops -/

section

variable {limit : Option UInt32} {manager : ClientConnectionManager} {index : Nat}
  {loop : ReconnectLoop}

theorem isAlive_of_polled (polled : loop.polled = true) (unfinished : loop.stage ≠ .finished) :
    loop.isAlive = true := by
  simp [ReconnectLoop.isAlive, polled, unfinished]

/-- The flag can be cleared when every loop that is alive is past it. -/
theorem Guarded.clearFlag (guarded : manager.Guarded) (unspawned : .spawning ∉ manager.calls)
    (late : ∀ (index : Nat) (loop : ReconnectLoop), manager.loops[index]? = some loop →
      loop.isAlive = true → loop.stage = .clearingHandle) :
    Guarded { manager with isReconnecting := false } where
  owned := guarded.owned
  settling := guarded.settling
  spawning among := absurd among unspawned
  storing := guarded.storing
  flagged index loop found alive early := absurd (late index loop found alive) early
  stopped := guarded.stopped

/-- The handle can be cleared when no loop is alive. -/
theorem Guarded.clearHandle (guarded : manager.Guarded)
    (dead : ∀ index, manager.isAlive index = false) :
    Guarded { manager with reconnectHandle := none } where
  owned index alive := absurd (alive.symm.trans (dead index)) Bool.noConfusion
  settling := guarded.settling
  spawning := guarded.spawning
  storing := guarded.storing
  flagged := guarded.flagged
  stopped := guarded.stopped

theorem loopStep_frame (limit : Option UInt32) (manager : ClientConnectionManager)
    (loop : ReconnectLoop) (succeeded : Bool) :
    (manager.loopStep limit loop succeeded).1.calls = manager.calls ∧
      (manager.loopStep limit loop succeeded).1.loops = manager.loops := by
  unfold loopStep
  cases loop.stage with
  | checking | rechecking | connecting | clearingHandle =>
      dsimp only
      split_ifs <;> exact ⟨rfl, rfl⟩
  | announcing | inFlight | succeeded | failed | clearingFlag | finished => exact ⟨rfl, rfl⟩

/-- Only the last two steps of a loop touch the flag and the handle. -/
theorem loopStep_guards (limit : Option UInt32) (manager : ClientConnectionManager)
    (succeeded : Bool) (beforeFlag : loop.stage ≠ .clearingFlag)
    (beforeHandle : loop.stage ≠ .clearingHandle) :
    (manager.loopStep limit loop succeeded).1.isReconnecting = manager.isReconnecting ∧
      (manager.loopStep limit loop succeeded).1.reconnectHandle = manager.reconnectHandle := by
  unfold loopStep
  cases stage : loop.stage with
  | checking | rechecking | connecting =>
      dsimp only
      split_ifs <;> exact ⟨rfl, rfl⟩
  | announcing | inFlight | succeeded | failed | finished => exact ⟨rfl, rfl⟩
  | clearingFlag => exact absurd stage beforeFlag
  | clearingHandle => exact absurd stage beforeHandle

/-- A loop that is alive is the only one, so after its change every loop that is alive is it. -/
theorem Guarded.alive_after_set (guarded : manager.Guarded)
    (found : manager.loops[index]? = some loop) (alive : loop.isAlive = true)
    (next : ReconnectLoop) {other : Nat} {later : ReconnectLoop}
    (foundLater : (manager.loops.set index next)[other]? = some later)
    (laterAlive : later.isAlive = true) : later = next := by
  by_cases same : index = other
  · subst same
    have inRange := (List.getElem?_eq_some_iff.mp found).1
    rw [List.getElem?_set_self inRange] at foundLater
    exact (Option.some.inj foundLater).symm
  · rw [List.getElem?_set_ne same] at foundLater
    have both := guarded.soleLoop index other (isAlive_eq_true_iff.mpr ⟨loop, found, alive⟩)
      (isAlive_eq_true_iff.mpr ⟨later, foundLater, laterAlive⟩)
    exact absurd both same

theorem Guarded.setLoop (guarded : manager.Guarded) (found : manager.loops[index]? = some loop)
    (next : ReconnectLoop) (alive : next.isAlive = true → loop.isAlive = true ∧
      (next.stage ≠ .clearingHandle → loop.stage ≠ .clearingHandle)) :
    Guarded { manager with loops := manager.loops.set index next } := by
  refine guarded.narrow ?_ rfl rfl rfl
  exact narrows_of_set found rfl alive

theorem Guarded.clearsFlag (guarded : manager.Guarded)
    (found : manager.loops[index]? = some loop) (alive : loop.isAlive = true) :
    Guarded { manager with
      isReconnecting := false, loops := manager.loops.set index (loop.go .clearingHandle) } := by
  have moved : Guarded { manager with
      loops := manager.loops.set index (loop.go .clearingHandle) } :=
    guarded.setLoop found _ fun _ => ⟨alive, fun late => absurd rfl late⟩
  apply moved.clearFlag
  · intro among
    have dead := (guarded.spawning among).2 index
    rw [isAlive_eq_true_iff.mpr ⟨loop, found, alive⟩] at dead
    exact absurd dead Bool.noConfusion
  · intro other later foundLater laterAlive
    rw [guarded.alive_after_set found alive _ foundLater laterAlive]
    rfl

theorem Guarded.clearsHandle (guarded : manager.Guarded)
    (found : manager.loops[index]? = some loop) (alive : loop.isAlive = true) :
    Guarded { manager with
      reconnectHandle := none, loops := manager.loops.set index (loop.go .finished).park } := by
  have moved : Guarded { manager with loops := manager.loops.set index (loop.go .finished).park } :=
    guarded.setLoop found _ fun finished => absurd finished Bool.noConfusion
  apply moved.clearHandle
  intro other
  rw [Bool.eq_false_iff]
  intro otherAlive
  obtain ⟨later, foundLater, laterAlive⟩ := isAlive_eq_true_iff.mp otherAlive
  rw [guarded.alive_after_set found alive _ foundLater laterAlive] at laterAlive
  exact absurd laterAlive Bool.noConfusion

/-- A loop that is being polled makes its next step. -/
theorem Guarded.advance (guarded : manager.Guarded) (found : manager.loops[index]? = some loop)
    (polled : loop.polled = true) (succeeded : Bool) :
    Guarded { (manager.loopStep limit loop succeeded).1 with
      loops := manager.loops.set index (manager.loopStep limit loop succeeded).2 } := by
  by_cases beforeFlag : loop.stage = .clearingFlag
  · have alive := isAlive_of_polled polled (by simp [beforeFlag])
    simp only [loopStep, beforeFlag]
    exact guarded.clearsFlag found alive
  by_cases beforeHandle : loop.stage = .clearingHandle
  · have alive := isAlive_of_polled polled (by simp [beforeHandle])
    simp only [loopStep, beforeHandle]
    split_ifs
    · exact guarded.setLoop found _ fun _ => ⟨alive, fun late => absurd beforeHandle late⟩
    · exact guarded.clearsHandle found alive
  · obtain ⟨calls, -⟩ := loopStep_frame limit manager loop succeeded
    obtain ⟨flag, handle⟩ := loopStep_guards limit manager succeeded beforeFlag beforeHandle
    refine guarded.narrow ?_ calls handle flag
    apply narrows_of_set found rfl
    intro nextAlive
    refine ⟨?_, fun _ => beforeHandle⟩
    by_cases finished : loop.stage = .finished
    · simpa [loopStep, finished] using nextAlive
    · exact isAlive_of_polled polled finished

/-- The scheduler makes no loop more alive than it was, and touches nothing else. -/
structure Rescheduled (before after : ClientConnectionManager) : Prop where
  narrows : Narrows before after
  calls : after.calls = before.calls
  handle : after.reconnectHandle = before.reconnectHandle
  flag : after.isReconnecting = before.isReconnecting
  attempts : after.attempts = before.attempts

/-- Scheduling a loop changes nothing else. -/
theorem exists_of_schedule {after : ClientConnectionManager}
    {may : ReconnectLoop → Bool} {change : ReconnectLoop → ReconnectLoop}
    (scheduled : manager.schedule index may change = some after) :
    ∃ loop, manager.loops[index]? = some loop ∧ may loop = true ∧
      after = { manager with loops := manager.loops.set index (change loop) } := by
  simp only [schedule] at scheduled
  cases found : manager.loops[index]? with
  | none => simp [found] at scheduled
  | some loop =>
      simp only [found, Option.ite_none_right_eq_some] at scheduled
      obtain ⟨permitted, changed⟩ := scheduled
      exact ⟨loop, rfl, permitted, (Option.some.inj changed).symm⟩

theorem rescheduled_of_schedule {may : ReconnectLoop → Bool}
    {change : ReconnectLoop → ReconnectLoop} {after : ClientConnectionManager}
    (scheduled : manager.schedule index may change = some after)
    (alive : ∀ loop, may loop = true → (change loop).isAlive = true →
      loop.isAlive = true ∧ (change loop).stage = loop.stage) :
    Rescheduled manager after := by
  obtain ⟨loop, found, permitted, rfl⟩ := exists_of_schedule scheduled
  refine ⟨?_, rfl, rfl, rfl, rfl⟩
  apply narrows_of_set found rfl
  intro changedAlive
  obtain ⟨loopAlive, stage⟩ := alive loop permitted changedAlive
  rw [stage]
  exact ⟨loopAlive, id⟩

theorem rescheduled_of_wake {after : ClientConnectionManager}
    (stepped : manager.step limit (.wake index) = some after) : Rescheduled manager after := by
  apply rescheduled_of_schedule stepped
  intro loop may _
  simp only [Bool.and_eq_true, decide_eq_true_eq, Bool.not_eq_true'] at may
  refine ⟨?_, rfl⟩
  simp [ReconnectLoop.isAlive, may.1.1, may.1.2]

theorem rescheduled_of_park {after : ClientConnectionManager}
    (stepped : manager.step limit (.park index) = some after) : Rescheduled manager after := by
  apply rescheduled_of_schedule stepped
  intro loop _ alive
  simp only [ReconnectLoop.isAlive, ReconnectLoop.park, Bool.and_eq_true, Bool.or_false] at alive
  refine ⟨?_, rfl⟩
  simp [ReconnectLoop.isAlive, alive.2, of_decide_eq_true alive.1]

theorem rescheduled_of_reap {after : ClientConnectionManager}
    (stepped : manager.step limit (.reap index) = some after) : Rescheduled manager after := by
  apply rescheduled_of_schedule stepped
  intro loop _ alive
  exact absurd alive Bool.noConfusion

end

/-! ### Steps of calls -/

section

variable {manager : ClientConnectionManager} {index : Nat} {call next : ManagerCall}

theorem any_set_eq_false {calls : List ManagerCall} {test : ManagerCall → Bool}
    (none : calls.any test = false) (not : test next = false) :
    (calls.set index next).any test = false := by
  apply List.any_eq_false.mpr
  intro other among
  rcases List.mem_or_eq_of_mem_set among with earlier | rfl
  · exact List.any_eq_false.mp none other earlier
  · simp [not]

theorem mem_set_of_ne {calls : List ManagerCall} {other : ManagerCall}
    (found : calls[index]? = some call) (among : other ∈ calls) (different : other ≠ call) :
    other ∈ calls.set index next := by
  obtain ⟨position, foundOther⟩ := List.mem_iff_getElem?.mp among
  apply List.mem_iff_getElem?.mpr
  refine ⟨position, ?_⟩
  rw [List.getElem?_set_ne, foundOther]
  rintro rfl
  exact different (Option.some.inj (foundOther.symm.trans found))

/-- A call takes the place of the only one between the flag and the handle. -/
theorem sole_settling_set {calls : List ManagerCall}
    (only : ∀ (position : Nat) (other : ManagerCall), calls[position]? = some other →
      other.isSettling = true → position = index) (first second : Nat) (call other : ManagerCall)
    (foundFirst : (calls.set index next)[first]? = some call)
    (foundSecond : (calls.set index next)[second]? = some other)
    (firstSettling : call.isSettling = true) (secondSettling : other.isSettling = true) :
    first = second := by
  have here : ∀ (position : Nat) (stage : ManagerCall),
      (calls.set index next)[position]? = some stage → stage.isSettling = true →
        position = index := by
    intro position stage foundStage settling
    by_contra different
    rw [List.getElem?_set_ne (Ne.symm different)] at foundStage
    exact different (only position stage foundStage settling)
  exact (here first call foundFirst firstSettling).trans
    (here second other foundSecond secondSettling).symm

/-- Nobody else is between the flag and the handle. -/
theorem Guarded.others_unsettled (guarded : manager.Guarded)
    (found : manager.calls[index]? = some call) (settling : call.isSettling = true)
    {other : ManagerCall} (among : other ∈ manager.calls.set index next) :
    other = next ∨ other.isSettling = false := by
  obtain ⟨position, foundOther⟩ := List.mem_iff_getElem?.mp among
  by_cases same : index = position
  · subst same
    have inRange := (List.getElem?_eq_some_iff.mp found).1
    rw [List.getElem?_set_self inRange] at foundOther
    exact Or.inl (Option.some.inj foundOther).symm
  · rw [List.getElem?_set_ne same] at foundOther
    right
    rw [Bool.eq_false_iff]
    intro otherSettling
    exact same (guarded.settling index position call other found foundOther settling otherSettling)

/-- While somebody is between the flag and the handle no disconnect is under way. -/
theorem Guarded.not_stopping (guarded : manager.Guarded)
    (found : manager.calls[index]? = some call) (settling : call.isSettling = true)
    {other : ManagerCall} (among : other ∈ manager.calls) : other.isStopping = false := by
  rw [Bool.eq_false_iff]
  intro stopping
  have unsettled := (guarded.stopped other among stopping).2
  exact List.any_eq_false.mp unsettled call (List.mem_of_getElem? found) settling

/-- The calls change, but not those between the flag and the handle, and no disconnect begins. -/
theorem Guarded.setCalls (guarded : manager.Guarded) {calls : List ManagerCall}
    (stored : ∀ loop, .storing loop ∈ manager.calls → .storing loop ∈ calls)
    (settled : ∀ (position : Nat) (other : ManagerCall), calls[position]? = some other →
      other.isSettling = true → manager.calls[position]? = some other)
    (stopped : ∀ other ∈ calls, other.isStopping = true → other ∈ manager.calls) :
    Guarded { manager with calls := calls } := by
  have old : ∀ other ∈ calls, other.isSettling = true → other ∈ manager.calls := by
    intro other among settling
    obtain ⟨position, found⟩ := List.mem_iff_getElem?.mp among
    exact List.mem_of_getElem? (settled position other found settling)
  refine ⟨?_, ?_, ?_, ?_, guarded.flagged, ?_⟩
  · intro other alive
    exact (guarded.owned other alive).imp_right (stored other)
  · intro first second call other foundFirst foundSecond firstSettling secondSettling
    exact guarded.settling first second call other (settled first call foundFirst firstSettling)
      (settled second other foundSecond secondSettling) firstSettling secondSettling
  · intro among
    exact guarded.spawning (old _ among rfl)
  · intro loop other among alive
    exact guarded.storing loop other (old _ among rfl) alive
  · intro other among stopping
    obtain ⟨dead, none⟩ := guarded.stopped other (stopped other among stopping) stopping
    refine ⟨dead, List.any_eq_false.mpr ?_⟩
    intro call callAmong settling
    exact List.any_eq_false.mp none call (old call callAmong settling) settling

/-- Steps of calls that have nothing to do with the loop. -/
theorem Guarded.setCall (guarded : manager.Guarded) (next : ManagerCall)
    (found : manager.calls[index]? = some call) (unsettled : call.isSettling = false)
    (nextUnsettled : next.isSettling = false) (nextGoing : next.isStopping = false) :
    Guarded { manager with calls := manager.calls.set index next } := by
  apply guarded.setCalls
  · intro loop stored
    apply mem_set_of_ne found stored
    rintro rfl
    exact absurd unsettled Bool.noConfusion
  · intro position other foundOther settling
    by_cases same : index = position
    · subst same
      have inRange := (List.getElem?_eq_some_iff.mp found).1
      rw [List.getElem?_set_self inRange] at foundOther
      obtain rfl := Option.some.inj foundOther
      exact absurd (settling.symm.trans nextUnsettled) Bool.noConfusion
    · rwa [List.getElem?_set_ne same] at foundOther
  · intro other among stopping
    rcases List.mem_or_eq_of_mem_set among with earlier | rfl
    · exact earlier
    · exact absurd (stopping.symm.trans nextGoing) Bool.noConfusion

/-- A call comes in. -/
theorem Guarded.enter (guarded : manager.Guarded) (call : ManagerCall)
    (unsettled : call.isSettling = false) (going : call.isStopping = false) :
    (manager.enter call).Guarded := by
  apply guarded.setCalls
  · intro loop stored
    exact List.mem_append_left [call] stored
  · intro position other foundOther settling
    rcases Nat.lt_or_ge position manager.calls.length with earlier | later
    · rwa [List.getElem?_append_left earlier] at foundOther
    · rw [List.getElem?_append_right later] at foundOther
      obtain rfl := List.mem_singleton.mp (List.mem_of_getElem? foundOther)
      exact absurd (settling.symm.trans unsettled) Bool.noConfusion
  · intro other among stopping
    rcases List.mem_append.mp among with earlier | last
    · exact earlier
    · obtain rfl := List.mem_singleton.mp last
      exact absurd (stopping.symm.trans going) Bool.noConfusion

/-- The caller that finds the flag clear sets it. -/
theorem Guarded.takeFlag (guarded : manager.Guarded) (index : Nat)
    (clear : manager.isReconnecting = false) (permitted : manager.permitsCall .entering = true) :
    Guarded { manager with
      isReconnecting := true, calls := manager.calls.set index .spawning } := by
  simp only [permitsCall, clear, Bool.false_or, Bool.and_eq_true, Bool.not_eq_true'] at permitted
  obtain ⟨⟨unsettled, going⟩, early⟩ := permitted
  have dead : ∀ other, manager.isAlive other = false := by
    intro other
    rw [Bool.eq_false_iff]
    intro alive
    obtain ⟨loop, foundLoop, loopAlive⟩ := isAlive_eq_true_iff.mp alive
    have notLate : loop.stage ≠ .clearingHandle := by
      intro late
      have := List.any_eq_false.mp early loop (List.mem_of_getElem? foundLoop)
      simp [loopAlive, late] at this
    have := guarded.flagged other loop foundLoop loopAlive notLate
    exact absurd (this.symm.trans clear) Bool.noConfusion
  refine ⟨?_, sole_settling_set ?_, fun _ => ⟨rfl, dead⟩, ?_, fun _ _ _ _ _ => rfl, ?_⟩
  · intro other alive
    exact absurd (alive.symm.trans (dead other)) Bool.noConfusion
  · intro position other foundOther settling
    exact absurd settling
      (List.any_eq_false.mp unsettled other (List.mem_of_getElem? foundOther))
  · intro _ other _ alive
    exact absurd (alive.symm.trans (dead other)) Bool.noConfusion
  · intro other among stopping
    exact absurd stopping
      (List.any_eq_false.mp (any_set_eq_false going rfl) other among)

/-- The loop is spawned. -/
theorem Guarded.spawn (guarded : manager.Guarded)
    (found : manager.calls[index]? = some .spawning) :
    Guarded { manager with
      loops := manager.loops ++ [.spawned],
      calls := manager.calls.set index (.storing manager.loops.length) } := by
  obtain ⟨flag, dead⟩ := guarded.spawning (List.mem_of_getElem? found)
  have inRange := (List.getElem?_eq_some_iff.mp found).1
  have only : ∀ (other : Nat) (loop : ReconnectLoop),
      (manager.loops ++ [.spawned])[other]? = some loop → loop.isAlive = true →
        other = manager.loops.length := by
    intro other loop foundLoop alive
    rcases Nat.lt_or_ge other manager.loops.length with earlier | later
    · rw [List.getElem?_append_left earlier] at foundLoop
      have := isAlive_eq_true_iff.mpr ⟨loop, foundLoop, alive⟩
      exact absurd (this.symm.trans (dead other)) Bool.noConfusion
    · have bound := (List.getElem?_eq_some_iff.mp foundLoop).1
      simp only [List.length_append, List.length_singleton] at bound
      omega
  refine ⟨?_, sole_settling_set ?_, ?_, ?_, fun _ _ _ _ _ => flag, ?_⟩
  · intro other alive
    obtain ⟨loop, foundLoop, loopAlive⟩ := isAlive_eq_true_iff.mp alive
    rw [only other loop foundLoop loopAlive]
    exact Or.inr (List.mem_set inRange _)
  · intro position other foundOther settling
    exact guarded.settling position index other .spawning foundOther found settling rfl
  · intro among
    rcases guarded.others_unsettled found rfl among with same | unsettled
    · exact absurd same ManagerCall.noConfusion
    · exact absurd unsettled Bool.noConfusion
  · intro stored other among alive
    obtain ⟨loop, foundLoop, loopAlive⟩ := isAlive_eq_true_iff.mp alive
    rcases guarded.others_unsettled found rfl among with same | unsettled
    · rw [only other loop foundLoop loopAlive, ManagerCall.storing.inj same]
    · exact absurd unsettled Bool.noConfusion
  · intro other among stopping
    rcases List.mem_or_eq_of_mem_set among with earlier | rfl
    · exact absurd (stopping.symm.trans (guarded.not_stopping found rfl earlier)) Bool.noConfusion
    · exact absurd stopping Bool.noConfusion

/-- The handle is stored. -/
theorem Guarded.store (guarded : manager.Guarded) {stored : Nat}
    (found : manager.calls[index]? = some (.storing stored)) :
    Guarded { manager with
      reconnectHandle := some stored, calls := manager.calls.set index .returned } := by
  have unsettled : ∀ other ∈ manager.calls.set index .returned, other.isSettling = false := by
    intro other among
    rcases guarded.others_unsettled found rfl among with rfl | unsettled
    · rfl
    · exact unsettled
  refine ⟨?_, ?_, ?_, ?_, guarded.flagged, ?_⟩
  · intro other alive
    exact Or.inl (congrArg some
      (guarded.storing stored other (List.mem_of_getElem? found) alive).symm)
  · intro first second call other foundFirst _ settling _
    have := unsettled call (List.mem_of_getElem? foundFirst)
    exact absurd (settling.symm.trans this) Bool.noConfusion
  · intro among
    exact absurd (unsettled _ among) Bool.noConfusion
  · intro _ _ among _
    exact absurd (unsettled _ among) Bool.noConfusion
  · intro other among stopping
    rcases List.mem_or_eq_of_mem_set among with earlier | rfl
    · exact absurd (stopping.symm.trans (guarded.not_stopping found rfl earlier)) Bool.noConfusion
    · exact absurd stopping Bool.noConfusion

/-- The loop of the handle is the only one, and it ends when it is aborted between two polls. -/
theorem Guarded.abortHandle_dead (guarded : manager.Guarded)
    (permitted : manager.permitsCall .stopping = true) (other : Nat) :
    manager.abortHandle.isAlive other = false := by
  simp only [permitsCall, Bool.and_eq_true, Bool.not_eq_true'] at permitted
  obtain ⟨unsettled, unpolled⟩ := permitted
  have held : ∀ position, manager.isAlive position = true →
      manager.reconnectHandle = some position := by
    intro position alive
    rcases guarded.owned position alive with held | stored
    · exact held
    · exact absurd rfl (List.any_eq_false.mp unsettled _ stored)
  rw [Bool.eq_false_iff]
  intro alive
  cases handle : manager.reconnectHandle with
  | none =>
      simp only [abortHandle, handle] at alive
      exact absurd (handle.symm.trans (held other alive)) (by simp)
  | some stored =>
      simp only [abortHandle, handle] at alive
      obtain ⟨later, foundLater, laterAlive⟩ := isAlive_eq_true_iff.mp alive
      simp only [List.getElem?_modify] at foundLater
      obtain ⟨loop, foundLoop, rfl⟩ := Option.map_eq_some_iff.mp foundLater
      by_cases same : stored = other
      · subst same
        simp only [handlePolled, handle, Option.bind_some, foundLoop, Option.any_some] at unpolled
        simp [ReconnectLoop.isAlive, ReconnectLoop.abort] at laterAlive
        simp [laterAlive] at unpolled
      · simp only [same, if_false] at laterAlive
        have := held other (isAlive_eq_true_iff.mpr ⟨loop, foundLoop, laterAlive⟩)
        exact same (Option.some.inj (handle.symm.trans this))

/-- A call makes its next step. -/
theorem Guarded.callStep (guarded : manager.Guarded) (found : manager.calls[index]? = some call)
    (permitted : manager.permitsCall call = true) {succeeded : Bool}
    {after : ClientConnectionManager}
    (stepped : manager.callStep succeeded call = some (after, next)) :
    Guarded { after with calls := manager.calls.set index next } := by
  have among := List.mem_of_getElem? found
  cases call with
  | entering =>
      cases flag : manager.isReconnecting with
      | true =>
          simp only [ClientConnectionManager.callStep, flag, if_true] at stepped
          obtain ⟨rfl, rfl⟩ := Prod.mk.inj (Option.some.inj stepped)
          exact guarded.setCall .returned found rfl rfl rfl
      | false =>
          simp only [ClientConnectionManager.callStep, flag] at stepped
          obtain ⟨rfl, rfl⟩ := Prod.mk.inj (Option.some.inj stepped)
          exact guarded.takeFlag index flag permitted
  | spawning =>
      obtain ⟨rfl, rfl⟩ := Prod.mk.inj (Option.some.inj stepped)
      exact guarded.spawn found
  | storing stored =>
      simp only [ClientConnectionManager.callStep, Option.ite_none_left_eq_some] at stepped
      obtain ⟨rfl, rfl⟩ := Prod.mk.inj (Option.some.inj stepped.2)
      exact guarded.store found
  | stopping =>
      simp only [ClientConnectionManager.callStep, Option.ite_none_left_eq_some] at stepped
      obtain ⟨rfl, rfl⟩ := Prod.mk.inj (Option.some.inj stepped.2)
      refine guarded_of_quiet ?_ ?_
      · exact guarded.abortHandle_dead permitted
      · simp only [permitsCall, Bool.and_eq_true, Bool.not_eq_true'] at permitted
        exact any_set_eq_false permitted.1 rfl
  | clearing =>
      obtain ⟨rfl, rfl⟩ := Prod.mk.inj (Option.some.inj stepped)
      obtain ⟨dead, unsettled⟩ := guarded.stopped _ among rfl
      exact guarded_of_quiet dead (any_set_eq_false unsettled rfl)
  | leaving =>
      simp only [ClientConnectionManager.callStep, Option.ite_none_left_eq_some] at stepped
      obtain ⟨rfl, rfl⟩ := Prod.mk.inj (Option.some.inj stepped.2)
      obtain ⟨dead, unsettled⟩ := guarded.stopped _ among rfl
      exact guarded_of_quiet dead (any_set_eq_false unsettled rfl)
  | closing =>
      obtain ⟨rfl, rfl⟩ := Prod.mk.inj (Option.some.inj stepped)
      obtain ⟨dead, unsettled⟩ := guarded.stopped _ among rfl
      exact guarded_of_quiet dead (any_set_eq_false unsettled rfl)
  | queued =>
      simp only [ClientConnectionManager.callStep, Option.ite_none_left_eq_some] at stepped
      obtain ⟨-, answered⟩ := stepped
      split_ifs at answered
      · obtain ⟨rfl, rfl⟩ := Prod.mk.inj (Option.some.inj answered)
        exact guarded.setCall .returned found rfl rfl rfl
      · obtain ⟨rfl, rfl⟩ := Prod.mk.inj (Option.some.inj answered)
        exact (guarded.setCall .opening found rfl rfl rfl).setClient _ _ _
  | opening =>
      obtain ⟨rfl, rfl⟩ := Prod.mk.inj (Option.some.inj stepped)
      exact (guarded.setCall .returned found rfl rfl rfl).setClient _ _ _
  | returned => exact absurd stepped (by simp [ClientConnectionManager.callStep])

end

/-! ### Whole runs -/

theorem guarded_new (isConnected : Bool) : (new isConnected).Guarded :=
  guarded_of_quiet (fun _ => rfl) rfl

theorem Guarded.step {limit : Option UInt32} {before after : ClientConnectionManager}
    {move : ManagerMove} (guarded : before.Guarded) (orderly : before.Orderly move)
    (stepped : before.step limit move = some after) : after.Guarded := by
  cases move with
  | startAutoReconnect | disconnect | connect =>
      obtain rfl := Option.some.inj stepped
      exact guarded.enter _ rfl rfl
  | link up =>
      obtain rfl := Option.some.inj stepped
      exact guarded.setClient up _ _
  | call index succeeded =>
      simp only [ClientConnectionManager.step] at stepped
      cases found : before.calls[index]? with
      | none => simp [found] at stepped
      | some call =>
          simp only [found] at stepped
          obtain ⟨⟨manager, next⟩, taken, rfl⟩ := Option.map_eq_some_iff.mp stepped
          exact guarded.callStep found (orderly index succeeded call rfl found) taken
  | wake index =>
      have same := rescheduled_of_wake stepped
      exact guarded.narrow same.narrows same.calls same.handle same.flag
  | park index =>
      have same := rescheduled_of_park stepped
      exact guarded.narrow same.narrows same.calls same.handle same.flag
  | reap index =>
      have same := rescheduled_of_reap stepped
      exact guarded.narrow same.narrows same.calls same.handle same.flag
  | advance index succeeded =>
      simp only [ClientConnectionManager.step] at stepped
      cases found : before.loops[index]? with
      | none => simp [found] at stepped
      | some loop =>
          simp only [found, Option.ite_none_right_eq_some] at stepped
          obtain ⟨polled, taken⟩ := stepped
          obtain rfl := Option.some.inj taken
          exact guarded.advance found polled succeeded

theorem guarded_of_reaches {limit : Option UInt32} {isConnected : Bool}
    {manager : ClientConnectionManager}
    (reached : (managerSystem limit).Reaches Orderly (.new isConnected) manager) :
    manager.Guarded := by
  apply reached.invariant (guarded_new isConnected)
  rintro before after ⟨move, orderly, stepped⟩ guarded
  exact guarded.step orderly stepped

/-! ### After a disconnect -/

/-- No loop is alive, and no call will start one or connect. -/
structure Quiet (manager : ClientConnectionManager) : Prop where
  dead : ∀ index, manager.isAlive index = false
  unsettled : manager.calls.any ManagerCall.isSettling = false
  unpending : manager.calls.any ManagerCall.isPending = false

section

variable {limit : Option UInt32} {before after : ClientConnectionManager}

/-- An abort brings no loop to life. -/
theorem abortHandle_narrows (manager : ClientConnectionManager) :
    Narrows manager manager.abortHandle := by
  intro index later foundLater alive
  cases handle : manager.reconnectHandle with
  | none =>
      simp only [abortHandle, handle] at foundLater
      exact ⟨later, foundLater, alive, id⟩
  | some stored =>
      simp only [abortHandle, handle, List.getElem?_modify] at foundLater
      obtain ⟨loop, foundLoop, rfl⟩ := Option.map_eq_some_iff.mp foundLater
      by_cases same : stored = index
      · simp only [same, if_true, ReconnectLoop.isAlive, ReconnectLoop.abort, Bool.and_eq_true,
          Bool.not_true, Bool.false_or] at alive
        refine ⟨loop, foundLoop, isAlive_of_polled alive.2 (of_decide_eq_true alive.1), ?_⟩
        simp [same, ReconnectLoop.abort]
      · simp only [same, if_false] at alive ⊢
        exact ⟨loop, foundLoop, alive, id⟩

theorem abortHandle_attempts (manager : ClientConnectionManager) :
    manager.abortHandle.attempts = manager.attempts := by
  unfold abortHandle
  cases manager.reconnectHandle with
  | none => rfl
  | some _ => rfl

theorem Quiet.narrow (quiet : before.Quiet) (narrows : Narrows before after)
    (unsettled : after.calls.any ManagerCall.isSettling = false)
    (unpending : after.calls.any ManagerCall.isPending = false) : after.Quiet :=
  ⟨fun index => narrows.dead (quiet.dead index), unsettled, unpending⟩

theorem Quiet.setCall {index : Nat} {next : ManagerCall} (quiet : before.Quiet)
    (narrows : Narrows before after) (calls : after.calls = before.calls.set index next)
    (unsettled : next.isSettling = false) (unpending : next.isPending = false) : after.Quiet := by
  apply quiet.narrow narrows
  · rw [calls]
    exact any_set_eq_false quiet.unsettled unsettled
  · rw [calls]
    exact any_set_eq_false quiet.unpending unpending

theorem Quiet.call {index : Nat} {call next : ManagerCall} {succeeded : Bool}
    (quiet : before.Quiet) (found : before.calls[index]? = some call)
    (stepped : before.callStep succeeded call = some (after, next)) :
    Quiet { after with calls := before.calls.set index next } ∧
      after.attempts = before.attempts := by
  have among := List.mem_of_getElem? found
  have unsettled := List.any_eq_false.mp quiet.unsettled call among
  have unpending := List.any_eq_false.mp quiet.unpending call among
  cases call with
  | entering | queued => exact absurd rfl unpending
  | spawning | storing _ => exact absurd rfl unsettled
  | stopping =>
      simp only [callStep, Option.ite_none_left_eq_some] at stepped
      obtain ⟨rfl, rfl⟩ := Prod.mk.inj (Option.some.inj stepped.2)
      exact ⟨quiet.setCall before.abortHandle_narrows rfl rfl rfl, before.abortHandle_attempts⟩
  | clearing | closing | opening =>
      obtain ⟨rfl, rfl⟩ := Prod.mk.inj (Option.some.inj stepped)
      refine ⟨quiet.setCall ?_ rfl rfl rfl, rfl⟩
      exact Narrows.refl before
  | leaving =>
      simp only [callStep, Option.ite_none_left_eq_some] at stepped
      obtain ⟨rfl, rfl⟩ := Prod.mk.inj (Option.some.inj stepped.2)
      refine ⟨quiet.setCall ?_ rfl rfl rfl, rfl⟩
      exact Narrows.refl before
  | returned => exact absurd stepped (by simp [callStep])

theorem Quiet.rescheduled (quiet : before.Quiet) (same : Rescheduled before after) :
    after.Quiet ∧ after.attempts = before.attempts := by
  refine ⟨quiet.narrow same.narrows ?_ ?_, same.attempts⟩
  · rw [same.calls]
    exact quiet.unsettled
  · rw [same.calls]
    exact quiet.unpending

theorem any_enter_eq_false {call : ManagerCall} {test : ManagerCall → Bool}
    (none : before.calls.any test = false) (not : test call = false) :
    (before.enter call).calls.any test = false := by
  simp only [enter, List.any_append, none, List.any_cons, not, List.any_nil, Bool.or_self]

/-- A step without a new call of `startAutoReconnect` or of `connect`. -/
theorem Quiet.step {move : ManagerMove} (quiet : before.Quiet) (uncalled : before.Uncalled move)
    (stepped : before.step limit move = some after) :
    after.Quiet ∧ after.attempts = before.attempts := by
  cases move with
  | startAutoReconnect => exact absurd rfl uncalled.1
  | connect => exact absurd rfl uncalled.2
  | disconnect =>
      obtain rfl := Option.some.inj stepped
      exact ⟨⟨quiet.dead, any_enter_eq_false quiet.unsettled rfl,
        any_enter_eq_false quiet.unpending rfl⟩, rfl⟩
  | link up =>
      obtain rfl := Option.some.inj stepped
      exact ⟨⟨quiet.dead, quiet.unsettled, quiet.unpending⟩, rfl⟩
  | call index succeeded =>
      simp only [ClientConnectionManager.step] at stepped
      cases found : before.calls[index]? with
      | none => simp [found] at stepped
      | some call =>
          simp only [found] at stepped
          obtain ⟨⟨manager, next⟩, taken, rfl⟩ := Option.map_eq_some_iff.mp stepped
          exact quiet.call found taken
  | wake index => exact quiet.rescheduled (rescheduled_of_wake stepped)
  | park index => exact quiet.rescheduled (rescheduled_of_park stepped)
  | reap index => exact quiet.rescheduled (rescheduled_of_reap stepped)
  | advance index succeeded =>
      simp only [ClientConnectionManager.step] at stepped
      cases found : before.loops[index]? with
      | none => simp [found] at stepped
      | some loop =>
          simp only [found, Option.ite_none_right_eq_some] at stepped
          obtain ⟨polled, taken⟩ := stepped
          have finished : loop.stage = .finished := by
            by_contra unfinished
            have alive := isAlive_eq_true_iff.mpr
              ⟨loop, found, isAlive_of_polled polled unfinished⟩
            exact absurd (alive.symm.trans (quiet.dead index)) Bool.noConfusion
          simp only [loopStep, finished] at taken
          obtain rfl := Option.some.inj taken
          refine ⟨quiet.narrow ?_ quiet.unsettled quiet.unpending, rfl⟩
          exact narrows_of_set found rfl fun alive => ⟨alive, id⟩

end

/-- Where a list of moves leads a new manager of a client that is not connected. -/
def ofMoves (moves : List ManagerMove) : ClientConnectionManager :=
  ((managerSystem none).run (.new false) moves).getD (.new false)

theorem reaches_ofMoves {allowed : ClientConnectionManager → ManagerMove → Prop}
    (moves : List ManagerMove)
    (evaluated : (managerSystem none).run (.new false) moves = some (ofMoves moves))
    (permitted : (managerSystem none).Permits allowed (.new false) moves) :
    (managerSystem none).Reaches allowed (.new false) (ofMoves moves) :=
  System.reaches_of_run evaluated permitted

/-- A loop is started, its first attempt fails, and a disconnect comes while it waits for the
second. -/
def abortedLoop : List ManagerMove :=
  [.startAutoReconnect, .call 0 true, .call 0 true, .call 0 true, .wake 0, .advance 0 true, .wake 0,
    .advance 0 true, .advance 0 true, .advance 0 true, .park 0, .wake 0, .advance 0 false,
    .advance 0 false, .advance 0 true, .disconnect, .call 1 true, .call 1 true, .call 1 true]

/-- A disconnect comes between the start of a loop and the storing of its handle. -/
def crossedStart : List ManagerMove :=
  [.startAutoReconnect, .call 0 true, .call 0 true, .disconnect, .call 1 true, .call 1 true,
    .call 1 true]

/-- The loop goes on to its first attempt. -/
def firstAttempt : List ManagerMove :=
  [.call 0 true, .wake 0, .advance 0 true, .wake 0, .advance 0 true, .advance 0 true,
    .advance 0 true]

end ClientConnectionManager

open ClientConnectionManager

/-- In a run of orderly steps at most one loop is alive, and once a call of `disconnect` has
returned no attempt is made before the next call of `startAutoReconnect` or of `connect`. -/
theorem one_loop_and_none_after_disconnect (limit : Option UInt32) (isConnected : Bool)
    {manager : ClientConnectionManager}
    (reached : (managerSystem limit).Reaches Orderly (.new isConnected) manager) :
    manager.SoleLoop ∧ ∀ after later, Disconnects limit Orderly manager after →
      (managerSystem limit).Reaches Uncalled after later → later.attempts = after.attempts := by
  have guarded := guarded_of_reaches reached
  refine ⟨guarded.soleLoop, ?_⟩
  rintro after later ⟨index, succeeded, found, orderly, stepped⟩ continued
  have unpending : manager.calls.any ManagerCall.isPending = false := by
    simpa [permitsCall] using orderly index succeeded _ rfl found
  obtain ⟨dead, unsettled⟩ := guarded.stopped _ (List.mem_of_getElem? found) rfl
  have quiet : after.Quiet := by
    have before : manager.Quiet := ⟨dead, unsettled, unpending⟩
    refine (before.step ⟨?_, ?_⟩ stepped).1 <;> exact ManagerMove.noConfusion
  -- the run after the disconnect stays quiet
  have still : later.Quiet ∧ later.attempts = after.attempts := by
    apply continued.invariant (I := fun state => state.Quiet ∧ state.attempts = after.attempts)
    · exact ⟨quiet, rfl⟩
    · rintro first second ⟨move, uncalled, taken⟩ ⟨firstQuiet, same⟩
      obtain ⟨secondQuiet, unchanged⟩ := firstQuiet.step uncalled taken
      exact ⟨secondQuiet, unchanged.trans same⟩
  exact still.2

/-- The disconnect aborts the loop: its one attempt is the last. -/
theorem one_loop_and_none_after_disconnect_waiting :
    ∃ manager after later, (managerSystem none).Reaches Orderly (.new false) manager ∧
      manager.SoleLoop ∧ Disconnects none Orderly manager after ∧
      (managerSystem none).Reaches Uncalled after later ∧ after.attempts = 1 ∧
      later.attempts = after.attempts := by
  have reached : (managerSystem none).Reaches Orderly (.new false) (ofMoves abortedLoop) :=
    reaches_ofMoves abortedLoop (by decide +kernel) (by decide +kernel)
  have returned : Disconnects none Orderly (ofMoves abortedLoop)
      (ofMoves (abortedLoop ++ [.call 1 true])) :=
    ⟨1, true, by decide +kernel, by decide +kernel, by decide +kernel⟩
  have continued : (managerSystem none).Reaches Uncalled (ofMoves (abortedLoop ++ [.call 1 true]))
      (ofMoves (abortedLoop ++ [.call 1 true, .reap 0])) := by
    refine .single ⟨.reap 0, ⟨?_, ?_⟩, by decide +kernel⟩ <;> exact ManagerMove.noConfusion
  obtain ⟨sole, still⟩ := one_loop_and_none_after_disconnect none false reached
  exact ⟨_, _, _, reached, sole, returned, continued, by decide +kernel,
    still _ _ returned continued⟩

/-- The disconnect aborts nothing: after it has returned, the loop makes an attempt although nobody
has called `startAutoReconnect` or `connect` since, and a second loop can be started beside it. -/
theorem loop_outlives_disconnect :
    (∃ manager after later, (managerSystem none).Reaches System.always (.new false) manager ∧
      Disconnects none System.always manager after ∧
      (managerSystem none).Reaches Uncalled after later ∧ later.attempts ≠ after.attempts) ∧
    ∃ manager, (managerSystem none).Reaches System.always (.new false) manager ∧
      ¬ manager.SoleLoop := by
  constructor
  · refine ⟨ofMoves crossedStart, ofMoves (crossedStart ++ [.call 1 true]),
      ofMoves (crossedStart ++ [.call 1 true] ++ firstAttempt), ?_, ?_, ?_, ?_⟩
    · apply reaches_ofMoves crossedStart
      · decide +kernel
      · exact System.permits_always _ _
    · exact ⟨1, true, by decide +kernel, trivial, by decide +kernel⟩
    · have evaluated : (managerSystem none).run (ofMoves (crossedStart ++ [.call 1 true]))
          firstAttempt = some (ofMoves (crossedStart ++ [.call 1 true] ++ firstAttempt)) := by
        decide +kernel
      exact System.reaches_of_run evaluated (by decide +kernel)
    · decide +kernel
  · refine ⟨ofMoves (crossedStart ++ [.call 1 true, .startAutoReconnect, .call 2 true,
      .call 2 true]), ?_, ?_⟩
    · apply reaches_ofMoves
      · decide +kernel
      · exact System.permits_always _ _
    · intro sole
      have both := sole 0 1 (by decide +kernel) (by decide +kernel)
      exact absurd both (by decide)

end FlareCore.Client
