import FlareCore.Server.Connection.Interleaving
import FlareCore.Server.Connection.Delivery

/-!
# The write queue of a connection

`send_to_connection_handle` enqueues, a writer task takes the payloads out and hands them to the
connection, and both isolate the connection when something fails.  The queue and its flag are in the
heap of the manager, and the removals are calls of the concurrent manager, so a state here is a pool
of that manager together with what belongs to one queue: the senders that have its handle, the
writer task, and where the receiving end of the channel is.  The histories record what was enqueued
and what was handed over.

The writer takes its connection out of the table and updates the counters after it has let go of the
table shard.  A sender that fails in between finds the connection gone, and returns before the
counter of the connections is what it should be (`counter_behind_failed_enqueue`); the difference is
always what calls in progress still owe, and all else holds (`payloads_handed_over_in_order`).
-/

namespace FlareCore.Server

open FlareCore.Common FlareCore.Foundations

set_option autoImplicit false

section Writing

variable [Hashing]

/-! ## Senders and the writer -/

/-- The receiving end of a channel: in the queue, with the writer task, or dropped. -/
inductive Receiver where
  | waiting
  | taken
  | dropped
  deriving DecidableEq

/-- Where `send_to_connection_handle` stands. -/
inductive EnqueueStage where
  | arriving (data : Wire)
  | starting (data : Wire)
  | claiming (data : Wire)
  | taking (data : Wire)
  | pushing (data : Wire)
  | failing (error : FlareError)
  | removing (error : FlareError) (call : Nat)
  | finished (result : Result Unit)

/-- Where `writer_task` stands: `isolated` after a send that failed, `halted` after it has seen the
flag, `ended` after the last handle was dropped. -/
inductive WriterStage where
  | absent
  | receiving
  | checking (data : Wire)
  | locking (data : Wire)
  | sending
  | failed
  | closing
  | removing
  | awaiting (call : Nat)
  | isolated
  | halted
  | ended

/-- What becomes of a payload that is handed to the connection. -/
inductive SendOutcome where
  | sent
  | failed
  | timedOut
  deriving DecidableEq

/-- The concurrent manager, and one write queue of it. -/
structure WriteState where
  pool : Pool Shared Task
  writerStarted : Bool
  receiver : Receiver
  writer : WriterStage
  senders : List EnqueueStage
  accepted : List Wire
  handed : List Wire

/-- The connection of a handle is in the table. -/
def ConnectionManager.holds (manager : ConnectionManager) (handle : WriteHandle) : Bool :=
  (manager.connections.get handle.connectionId).any fun entry => entry.serial = handle.serial

inductive WriteMove where
  | manager (move : Move Call Bool Happening)
  | submit (data : Wire)
  | send (index : Nat) (hasRuntime : Bool)
  | write (outcome : SendOutcome)

namespace WriteState

variable (handle : WriteHandle) (state : WriteState)

def manager : ConnectionManager :=
  state.pool.memory.manager

def queue : WriteQueue :=
  state.manager.queues handle

def withQueue (queue : WriteQueue) : WriteState :=
  { state with
    pool := ⟨state.pool.memory.with { state.manager with
      queues := Function.update state.manager.queues handle queue }, state.pool.tasks⟩ }

/-- A call of the manager begins. -/
def calls (task : Task) : WriteState :=
  { state with pool := ⟨state.pool.memory, state.pool.tasks ++ [task]⟩ }

def sender (index : Nat) (stage : EnqueueStage) : WriteState :=
  { state with senders := state.senders.set index stage }

def isReturned (call : Nat) : Bool :=
  state.pool.tasks[call]?.any Task.isReturned

def isPresent : Bool :=
  state.manager.holds handle

/-- Nobody has the handle any more. -/
def isReleased : Bool :=
  !state.isPresent handle && state.senders.all fun
    | .finished _ => true
    | _ => false

/-- The writer is over, and what it has not taken out is dropped with the channel. -/
def stop (stage : WriterStage) : WriteState :=
  { state.withQueue handle { state.queue handle with items := [] } with
    writer := stage
    receiver := .dropped }

/-- One step of `send_to_connection_handle`. -/
def sendStep (index : Nat) (hasRuntime : Bool) : EnqueueStage → Option WriteState
  | .arriving data =>
      some (state.sender index
        (if (state.queue handle).closed then
          .failing (.connectionClosed "Connection write queue is closed")
        else .starting data))
  | .starting data =>
      some (state.sender index
        (if state.writerStarted then .pushing data
        else if hasRuntime then .claiming data
        else .failing (.connectionFailed "Connection write queue requires a Tokio runtime")))
  | .claiming data =>
      some (if state.writerStarted then state.sender index (.pushing data)
        else { state with writerStarted := true }.sender index (.taking data))
  | .taking data =>
      match state.receiver with
      | .waiting =>
          some ({ state with receiver := .taken, writer := .receiving }.sender index
            (.pushing data))
      | .taken | .dropped =>
          some ((state.withQueue handle (state.queue handle).close).sender index
            (.failing (.connectionClosed "Connection write queue receiver is unavailable")))
  | .pushing data =>
      if state.receiver = .dropped then
        some (state.sender index (.failing (.connectionClosed "Connection write queue is closed")))
      else if (state.queue handle).capacity ≤ (state.queue handle).items.length then
        some (state.sender index (.failing (.connectionTimeout "Connection write queue is full")))
      else
        some ({ state.withQueue handle
            { state.queue handle with items := (state.queue handle).items ++ [data] } with
          accepted := state.accepted ++ [data] }.sender index (.finished (.ok ())))
  | .failing error =>
      some (((state.withQueue handle (state.queue handle).close).calls
        (.removeTake handle.connectionId none)).sender index
          (.removing error state.pool.tasks.length))
  | .removing error call =>
      if state.isReturned call then some (state.sender index (.finished (.error error))) else none
  | .finished _ => none

/-- One step of `writer_task`. -/
def writeStep (outcome : SendOutcome) : Option WriteState :=
  match state.writer with
  | .receiving =>
      match (state.queue handle).items with
      | data :: items =>
          some { state.withQueue handle { state.queue handle with items := items } with
            writer := .checking data }
      | [] => if state.isReleased handle then some (state.stop handle .ended) else none
  | .checking data =>
      some (if (state.queue handle).closed then state.stop handle .halted
        else { state with writer := .locking data })
  | .locking data => some { state with writer := .sending, handed := state.handed ++ [data] }
  | .sending =>
      some { state with writer := if outcome = .sent then .receiving else .failed }
  | .failed => some { state.withQueue handle (state.queue handle).close with writer := .closing }
  | .closing => some { state with writer := .removing }
  | .removing =>
      some { state.calls (.registryTake handle.connectionId) with
        writer := .awaiting state.pool.tasks.length }
  | .awaiting call => if state.isReturned call then some (state.stop handle .isolated) else none
  | .absent | .isolated | .halted | .ended => none

end WriteState

/-- What the manager may do beside the queue.  Deliveries are modelled by the senders, and the
failures of the writer by the writer. -/
def WriteMove.isBeside (handle : WriteHandle) : Move Call Bool Happening → Bool
  | .call (.sendToUser _ _ _) => false
  | .environment (.writerFails failed) => failed ≠ handle
  | .call _ | .advance _ _ | .environment (.tick _) => true

/-- One write queue of the concurrent manager as a transition system; a sender gets the handle from
the table. -/
def writeSystem (handle : WriteHandle) : System WriteState WriteMove where
  step state
    | .manager move =>
        if WriteMove.isBeside handle move then
          (managerMachine.step state.pool move).map fun pool => { state with pool := pool }
        else none
    | .submit data =>
        if state.isPresent handle then
          some { state with senders := state.senders ++ [.arriving data] }
        else none
    | .send index hasRuntime =>
        state.senders[index]?.bind (state.sendStep handle index hasRuntime)
    | .write outcome => state.writeStep handle outcome

/-- A new manager; the connection of the queue is still to be added. -/
def WriteState.initial (writeQueueCapacity : Nat) (clock : Instant) : WriteState where
  pool := initialPool writeQueueCapacity clock
  writerStarted := false
  receiver := .waiting
  writer := .absent
  senders := []
  accepted := []
  handed := []

/-! ## The steps of a queue -/

/-- A sender that has closed the queue. -/
def EnqueueStage.hasFailed : EnqueueStage → Bool
  | removing _ _ | finished (.error _) => true
  | arriving _ | starting _ | claiming _ | taking _ | pushing _ | failing _ | finished (.ok _) =>
      false

namespace WriteState

variable {handle : WriteHandle} {state after : WriteState}

/-- The steps of a sender: it goes on by itself, starts the writer, finds that it cannot, enqueues,
isolates the connection, or returns its error. -/
inductive SendStep (handle : WriteHandle) (state : WriteState) (index : Nat) :
    EnqueueStage → WriteState → Prop where
  | goesOn (stage next : EnqueueStage) (unfailed : next.hasFailed = false) :
      SendStep handle state index stage (state.sender index next)
  | claims (data : Wire) :
      SendStep handle state index (.claiming data)
        ({ state with writerStarted := true }.sender index (.taking data))
  | takes (data : Wire) (waiting : state.receiver = .waiting) :
      SendStep handle state index (.taking data)
        ({ state with receiver := .taken, writer := .receiving }.sender index (.pushing data))
  | closes (data : Wire) :
      SendStep handle state index (.taking data)
        ((state.withQueue handle (state.queue handle).close).sender index
          (.failing (.connectionClosed "Connection write queue receiver is unavailable")))
  | pushes (data : Wire) (present : state.receiver ≠ .dropped) :
      SendStep handle state index (.pushing data)
        ({ state.withQueue handle
            { state.queue handle with items := (state.queue handle).items ++ [data] } with
          accepted := state.accepted ++ [data] }.sender index (.finished (.ok ())))
  | removes (error : FlareError) :
      SendStep handle state index (.failing error)
        (((state.withQueue handle (state.queue handle).close).calls
          (.removeTake handle.connectionId none)).sender index
            (.removing error state.pool.tasks.length))
  | returns (error : FlareError) (call : Nat) (returned : state.isReturned call = true) :
      SendStep handle state index (.removing error call)
        (state.sender index (.finished (.error error)))

theorem sendStep_of_eq_some {index : Nat} {hasRuntime : Bool} {stage : EnqueueStage}
    (sent : state.sendStep handle index hasRuntime stage = some after) :
    SendStep handle state index stage after := by
  cases stage with
  | arriving data =>
      obtain rfl := Option.some.inj sent
      refine .goesOn _ _ ?_
      split <;> rfl
  | starting data =>
      obtain rfl := Option.some.inj sent
      refine .goesOn _ _ ?_
      split
      · rfl
      · split <;> rfl
  | claiming data =>
      obtain rfl := Option.some.inj sent
      split
      · exact .goesOn _ _ rfl
      · exact .claims data
  | taking data =>
      simp only [sendStep] at sent
      split at sent
      next waiting =>
        obtain rfl := Option.some.inj sent
        exact .takes data waiting
      all_goals
        obtain rfl := Option.some.inj sent
        exact .closes data
  | pushing data =>
      simp only [sendStep] at sent
      split_ifs at sent with dropped full
      · obtain rfl := Option.some.inj sent
        exact .goesOn _ _ rfl
      · obtain rfl := Option.some.inj sent
        exact .goesOn _ _ rfl
      · obtain rfl := Option.some.inj sent
        exact .pushes data dropped
  | failing error =>
      obtain rfl := Option.some.inj sent
      exact .removes error
  | removing error call =>
      simp only [sendStep, Option.ite_none_right_eq_some] at sent
      obtain ⟨returned, isAfter⟩ := sent
      obtain rfl := Option.some.inj isAfter
      exact .returns error call returned
  | finished result => cases sent

/-- The steps of the writer, by where it stands: it is over (isolated after its removal has
returned), or goes on and keeps the payload it has in hand. -/
inductive WriteStep (handle : WriteHandle) (state : WriteState) : WriteState → Prop where
  | takes (data : Wire) (items : List Wire) (receives : state.writer = .receiving)
      (queued : (state.queue handle).items = data :: items) :
      WriteStep handle state
        { state.withQueue handle { state.queue handle with items := items } with
          writer := .checking data }
  | stops (stage next : WriterStage) (current : state.writer = stage)
      (isOver : next = .halted ∨ next = .ended) (running : stage ≠ .absent) :
      WriteStep handle state (state.stop handle next)
  | checks (data : Wire) (current : state.writer = .checking data) :
      WriteStep handle state { state with writer := .locking data }
  | hands (data : Wire) (current : state.writer = .locking data) :
      WriteStep handle state
        { state with writer := .sending, handed := state.handed ++ [data] }
  | sends (next : WriterStage) (current : state.writer = .sending)
      (isNext : next = .receiving ∨ next = .failed) :
      WriteStep handle state { state with writer := next }
  | closes (current : state.writer = .failed) :
      WriteStep handle state
        { state.withQueue handle (state.queue handle).close with writer := .closing }
  | closed (current : state.writer = .closing) :
      WriteStep handle state { state with writer := .removing }
  | removes (current : state.writer = .removing) :
      WriteStep handle state
        { state.calls (.registryTake handle.connectionId) with
          writer := .awaiting state.pool.tasks.length }
  | isolates (call : Nat) (current : state.writer = .awaiting call)
      (returned : state.isReturned call = true) :
      WriteStep handle state (state.stop handle .isolated)

theorem writeStep_of_eq_some {outcome : SendOutcome}
    (written : state.writeStep handle outcome = some after) : WriteStep handle state after := by
  cases stage : state.writer with
  | absent | isolated | halted | ended =>
      simp only [writeStep, stage] at written
      cases written
  | receiving =>
      simp only [writeStep, stage] at written
      split at written
      next data items queued =>
        obtain rfl := Option.some.inj written
        exact .takes data items stage queued
      next =>
        simp only [Option.ite_none_right_eq_some] at written
        obtain rfl := Option.some.inj written.2
        exact .stops .receiving .ended stage (.inr rfl) WriterStage.noConfusion
  | checking data =>
      simp only [writeStep, stage] at written
      obtain rfl := Option.some.inj written
      split
      · exact .stops (.checking data) .halted stage (.inl rfl) WriterStage.noConfusion
      · exact .checks data stage
  | locking data =>
      simp only [writeStep, stage] at written
      obtain rfl := Option.some.inj written
      exact .hands data stage
  | sending =>
      simp only [writeStep, stage] at written
      obtain rfl := Option.some.inj written
      refine .sends _ stage ?_
      split
      · exact .inl rfl
      · exact .inr rfl
  | failed =>
      simp only [writeStep, stage] at written
      obtain rfl := Option.some.inj written
      exact .closes stage
  | closing =>
      simp only [writeStep, stage] at written
      obtain rfl := Option.some.inj written
      exact .closed stage
  | removing =>
      simp only [writeStep, stage] at written
      obtain rfl := Option.some.inj written
      exact .removes stage
  | awaiting call =>
      simp only [writeStep, stage, Option.ite_none_right_eq_some] at written
      obtain ⟨returned, isAfter⟩ := written
      obtain rfl := Option.some.inj isAfter
      exact .isolates call stage returned

end WriteState

/-! ## What the manager does beside the queue -/

/-- The manager leaves a queue alone: entries come with serial numbers of their own, and the
payloads of the queue stay, unless the queue is only being created. -/
structure Bypasses (handle : WriteHandle) (before after : ConnectionManager) : Prop where
  serial : before.nextSerial ≤ after.nextSerial
  entries : ∀ id entry, after.connections.get id = some entry →
    (∃ old, before.connections.get id = some old ∧ old.serial = entry.serial) ∨
      before.nextSerial ≤ entry.serial ∧ entry.serial < after.nextSerial
  items : (after.queues handle).items = (before.queues handle).items ∨
    before.nextSerial ≤ handle.serial ∧ (after.queues handle).items = []

namespace Bypasses

variable {handle : WriteHandle} {first second third : ConnectionManager}

theorem after (right : Bypasses handle second third) (left : Bypasses handle first second) :
    Bypasses handle first third where
  serial := Nat.le_trans left.serial right.serial
  entries id entry found := by
    obtain ⟨middle, inMiddle, same⟩ | ⟨new, below⟩ := right.entries id entry found
    · obtain ⟨old, inFirst, serial⟩ | ⟨new, below⟩ := left.entries id middle inMiddle
      · exact .inl ⟨old, inFirst, serial.trans same⟩
      · refine .inr ⟨same ▸ new, ?_⟩
        exact same ▸ Nat.lt_of_lt_of_le below right.serial
    · exact .inr ⟨Nat.le_trans left.serial new, below⟩
  items := by
    obtain kept | ⟨unused, empty⟩ := right.items
    · obtain same | ⟨unused, empty⟩ := left.items
      · exact .inl (kept.trans same)
      · exact .inr ⟨unused, kept.trans empty⟩
    · exact .inr ⟨Nat.le_trans left.serial unused, empty⟩

/-- Neither the table nor the queues change, nor the numbering. -/
theorem of_eq (connections : second.connections = first.connections)
    (queues : (second.queues handle).items = (first.queues handle).items)
    (serial : second.nextSerial = first.nextSerial) : Bypasses handle first second where
  serial := Nat.le_of_eq serial.symm
  entries _ entry found := .inl ⟨entry, connections ▸ found, rfl⟩
  items := .inl queues

theorem refl (manager : ConnectionManager) : Bypasses handle manager manager :=
  .of_eq rfl rfl rfl

end Bypasses

namespace ConnectionManager

variable {handle : WriteHandle} (manager : ConnectionManager)

theorem items_closeQueue (closed : WriteHandle) :
    ((manager.closeQueue closed).queues handle).items = (manager.queues handle).items := by
  by_cases same : handle = closed
  · subst same
    simp only [closeQueue, Function.update_self]
    rfl
  · simp only [closeQueue, Function.update_of_ne same]

theorem bypasses_closeQueue (closed : WriteHandle) :
    Bypasses handle manager (manager.closeQueue closed) :=
  .of_eq rfl (manager.items_closeQueue closed) rfl

theorem bypasses_eraseEntry (id : String) : Bypasses handle manager (manager.eraseEntry id) where
  serial := Nat.le_refl _
  entries other entry found := by
    simp only [eraseEntry, ShardedMap.get_erase] at found
    split_ifs at found
    exact .inl ⟨entry, found, rfl⟩
  items := .inl rfl

theorem bypasses_writeInfo {id : String} {entry : ConnectionEntry} (info : ConnectionInfo)
    (present : manager.connections.get id = some entry) :
    Bypasses handle manager (manager.writeInfo id entry info) where
  serial := Nat.le_refl _
  entries other new found := by
    simp only [writeInfo, ShardedMap.get_insert] at found
    split_ifs at found with same
    · obtain rfl := Option.some.inj found
      exact .inl ⟨entry, same ▸ present, rfl⟩
    · exact .inl ⟨new, found, rfl⟩
  items := .inl rfl

theorem bypasses_insertEntry (id : String) (connection : ConnectionHandle)
    (info : ConnectionInfo) : Bypasses handle manager (manager.insertEntry id connection info) where
  serial := Nat.le_succ _
  entries other entry found := by
    simp only [insertEntry, ShardedMap.get_insert] at found
    split_ifs at found
    · obtain rfl := Option.some.inj found
      exact .inr ⟨Nat.le_refl _, Nat.lt_succ_self _⟩
    · exact .inl ⟨entry, found, rfl⟩
  items := by
    by_cases same : handle = ⟨id, manager.nextSerial⟩
    · subst same
      refine .inr ⟨Nat.le_refl _, ?_⟩
      simp only [insertEntry, Function.update_self]
      rfl
    · refine .inl ?_
      simp only [insertEntry, Function.update_of_ne same]

theorem bypasses_touch (id : String) (now : Instant) :
    Bypasses handle manager (manager.touch id now) := by
  unfold touch
  split
  · exact .refl manager
  next entry found => exact manager.bypasses_writeInfo _ found

theorem bypasses_touchGroup (group : List String) (now : Instant) :
    Bypasses handle manager (manager.touchGroup group now) := by
  unfold touchGroup
  induction group generalizing manager with
  | nil => exact .refl manager
  | cons id group inductionHypothesis =>
      exact (inductionHypothesis _).after (manager.bypasses_touch id now)

theorem bypasses_takeEntries (removed : Removed) (ids : List String) :
    Bypasses handle manager (takeEntries manager removed ids).1 := by
  induction ids generalizing manager removed with
  | nil => exact .refl manager
  | cons id ids inductionHypothesis =>
      unfold takeEntries
      split
      · exact inductionHypothesis manager removed
      · refine (inductionHypothesis _ _).after ?_
        exact (bypasses_closeQueue _ _).after (manager.bypasses_eraseEntry id)

end ConnectionManager

/-- A call that is not a delivery leaves the queue alone. -/
theorem advance_bypasses {handle : WriteHandle} {shared shared' : Shared} {others : List Task}
    {task task' : Task} {spurious : Bool}
    (moved : advance shared others task spurious = some (shared', task'))
    (silent : task.delivery = none) : Bypasses handle shared.manager shared'.manager := by
  have still : ∀ {manager : ConnectionManager}, manager.connections = shared.manager.connections →
      manager.queues = shared.manager.queues → manager.nextSerial = shared.manager.nextSerial →
      Bypasses handle shared.manager manager := fun connections queues serial =>
    .of_eq connections (by rw [queues]) serial
  cases task with
  | userRead send | userSnapshot send groups | userEnqueue send => cases silent
  | added call | rejected call error | returned outcome => cases moved
  | addDuplicate call | addIndex call owner | removeRelease id owner resume
  | removeIndex id owner resume | registryRelease id owner | registryIndex id owner
  | reindexRemove id before after | reindexInsert id owed after =>
      obtain ⟨rfl, -⟩ := Prod.mk.inj (Option.some.inj moved)
      exact still rfl rfl rfl
  | reserveLoad call | reserveExchange call current below =>
      simp only [advance] at moved
      split_ifs at moved
      all_goals
        obtain ⟨rfl, -⟩ := Prod.mk.inj (Option.some.inj moved)
        exact still rfl rfl rfl
  | addInsert call =>
      simp only [advance] at moved
      split_ifs at moved
      · obtain ⟨rfl, -⟩ := Prod.mk.inj (Option.some.inj moved)
        exact .refl _
      · obtain ⟨rfl, -⟩ := Prod.mk.inj (Option.some.inj moved)
        exact shared.manager.bypasses_insertEntry _ _ _
  | removeTake id resume =>
      simp only [advance] at moved
      split_ifs at moved
      split at moved
      · obtain ⟨rfl, -⟩ := Prod.mk.inj (Option.some.inj moved)
        exact .refl _
      · obtain ⟨rfl, -⟩ := Prod.mk.inj (Option.some.inj moved)
        exact (ConnectionManager.bypasses_closeQueue _ _).after
          (shared.manager.bypasses_eraseEntry id)
  | registryTake id =>
      simp only [advance] at moved
      split_ifs at moved
      split at moved
      · obtain ⟨rfl, -⟩ := Prod.mk.inj (Option.some.inj moved)
        exact .refl _
      · obtain ⟨rfl, -⟩ := Prod.mk.inj (Option.some.inj moved)
        exact shared.manager.bypasses_eraseEntry id
  | cleanupScan timeout closes shards found =>
      cases shards with
      | nil =>
          obtain ⟨rfl, -⟩ := Prod.mk.inj (Option.some.inj moved)
          exact .refl _
      | cons shard shards =>
          simp only [advance] at moved
          split_ifs at moved
          obtain ⟨rfl, -⟩ := Prod.mk.inj (Option.some.inj moved)
          exact .refl _
  | cleanupClose timeout closing found =>
      cases closing <;>
        obtain ⟨rfl, -⟩ := Prod.mk.inj (Option.some.inj moved) <;>
        exact .refl _
  | batchTake timeout groups removed =>
      cases groups with
      | nil =>
          obtain ⟨rfl, -⟩ := Prod.mk.inj (Option.some.inj moved)
          exact still rfl rfl rfl
      | cons group groups =>
          simp only [advance] at moved
          split_ifs at moved
          obtain ⟨rfl, -⟩ := Prod.mk.inj (Option.some.inj moved)
          exact shared.manager.bypasses_takeEntries removed group
  | batchIndex groups emptied ids =>
      cases groups <;>
        obtain ⟨rfl, -⟩ := Prod.mk.inj (Option.some.inj moved) <;>
        exact still rfl rfl rfl
  | update id update =>
      simp only [advance] at moved
      split_ifs at moved
      split at moved
      · obtain ⟨rfl, -⟩ := Prod.mk.inj (Option.some.inj moved)
        exact .refl _
      next entry found =>
        obtain ⟨rfl, -⟩ := Prod.mk.inj (Option.some.inj moved)
        exact shared.manager.bypasses_writeInfo _ found
  | touch id =>
      simp only [advance] at moved
      split_ifs at moved
      obtain ⟨rfl, -⟩ := Prod.mk.inj (Option.some.inj moved)
      exact shared.manager.bypasses_touch id shared.clock
  | activate now groups =>
      cases groups with
      | nil =>
          obtain ⟨rfl, -⟩ := Prod.mk.inj (Option.some.inj moved)
          exact .refl _
      | cons group groups =>
          simp only [advance] at moved
          split_ifs at moved
          obtain ⟨rfl, -⟩ := Prod.mk.inj (Option.some.inj moved)
          exact shared.manager.bypasses_touchGroup group now

/-- A connection that has left the table does not come back. -/
theorem Bypasses.holds_eq_false {handle : WriteHandle} {before after : ConnectionManager}
    (bypasses : Bypasses handle before after) (used : handle.serial < before.nextSerial)
    (gone : before.holds handle = false) : after.holds handle = false := by
  refine Bool.eq_false_iff.mpr fun present => ?_
  obtain ⟨entry, found, serial⟩ := (Option.any_eq_true _ _).mp present
  have isHandle := of_decide_eq_true serial
  obtain ⟨old, inBefore, same⟩ | ⟨new, -⟩ := bypasses.entries _ entry found
  · refine Bool.eq_false_iff.mp gone ((Option.any_eq_true _ _).mpr ⟨old, inBefore, ?_⟩)
    exact decide_eq_true (same.trans isHandle)
  · omega

/-- A call is about to take a connection out of the table. -/
def Task.takes (connectionId : String) : Task → Bool
  | .removeTake id none => id = connectionId
  | .registryTake id => id = connectionId
  | _ => false

/-- A call that takes a connection out of the table has done so after its next section. -/
theorem holds_of_takes {handle : WriteHandle} {shared shared' : Shared} {others : List Task}
    {task task' : Task} {spurious : Bool} (takes : task.takes handle.connectionId = true)
    (moved : advance shared others task spurious = some (shared', task')) :
    shared'.manager.holds handle = false := by
  have missing : ∀ {manager : ConnectionManager},
      manager.connections.get handle.connectionId = none → manager.holds handle = false := by
    intro manager missing
    unfold ConnectionManager.holds
    rw [missing]
    rfl
  have erased : (shared.manager.eraseEntry handle.connectionId).connections.get
      handle.connectionId = none := ShardedMap.get_erase_self ..
  cases task with
  | removeTake id resume =>
      cases resume with
      | some send => cases takes
      | none =>
          obtain rfl : id = handle.connectionId := of_decide_eq_true takes
          simp only [advance] at moved
          split_ifs at moved
          split at moved
          next absent =>
            obtain ⟨rfl, -⟩ := Prod.mk.inj (Option.some.inj moved)
            exact missing absent
          next =>
            obtain ⟨rfl, -⟩ := Prod.mk.inj (Option.some.inj moved)
            exact missing erased
  | registryTake id =>
      obtain rfl : id = handle.connectionId := of_decide_eq_true takes
      simp only [advance] at moved
      split_ifs at moved
      split at moved
      next absent =>
        obtain ⟨rfl, -⟩ := Prod.mk.inj (Option.some.inj moved)
        exact missing absent
      next =>
        obtain ⟨rfl, -⟩ := Prod.mk.inj (Option.some.inj moved)
        exact missing erased
  | _ => cases takes

/-- A call has taken a connection out of the table, or is about to. -/
def IsRemoving (handle : WriteHandle) (call : Nat) (pool : Pool Shared Task) : Prop :=
  pool.memory.manager.holds handle = false ∨
    ∃ task, pool.tasks[call]? = some task ∧ task.takes handle.connectionId = true

/-- What a step of the manager leaves to the queue. -/
structure PoolStep (handle : WriteHandle) (before after : Pool Shared Task) : Prop where
  bypasses : Bypasses handle before.memory.manager after.memory.manager
  silent : (∀ task ∈ before.tasks, task.delivery = none) → ∀ task ∈ after.tasks,
    task.delivery = none
  removes : handle.serial < before.memory.manager.nextSerial → ∀ call,
    IsRemoving handle call before → IsRemoving handle call after

theorem poolStep_of_step {handle : WriteHandle} {before after : Pool Shared Task}
    {move : Move Call Bool Happening} (beside : WriteMove.isBeside handle move = true)
    (silent : ∀ task ∈ before.tasks, task.delivery = none)
    (stepped : managerMachine.step before move = some after) : PoolStep handle before after := by
  obtain ⟨made, rfl, rfl⟩ | ⟨choice, earlier, task, later, memory, task', rfl, tasks, moved, rfl⟩ |
    ⟨event, rfl, rfl⟩ := Machine.step_cases stepped
  · refine ⟨.refl _, fun _ task member => ?_, fun _ call removes => ?_⟩
    · obtain old | new := List.mem_append.mp member
      · exact silent task old
      · obtain rfl := List.mem_singleton.mp new
        cases made with
        | sendToUser => cases beside
        | _ => rfl
    · obtain gone | ⟨task, found, takes⟩ := removes
      · exact .inl gone
      · refine .inr ⟨task, ?_, takes⟩
        exact (List.getElem?_append_left (List.getElem?_eq_some_iff.mp found).1).trans found
  · have quiet : task.delivery = none := silent task (by simp [tasks])
    have bypasses : Bypasses handle before.memory.manager memory.manager :=
      advance_bypasses moved quiet
    refine ⟨bypasses, fun _ other member => ?_, fun used call removes => ?_⟩
    · obtain rfl | old := mem_append_cons.mp member
      · cases delivers : other.delivery with
        | none => rfl
        | some send =>
            obtain ⟨send, earlier, -⟩ := (action_of_advance moved).sends send delivers
            cases quiet.symm.trans earlier
      · exact silent other (tasks ▸ mem_append_cons.mpr (.inr old))
    · obtain gone | ⟨other, found, takes⟩ := removes
      · exact .inl (bypasses.holds_eq_false used gone)
      · rw [tasks] at found
        by_cases isMoving : call = earlier.length
        · subst isMoving
          obtain rfl := Option.some.inj ((getElem?_append_cons_self ..).symm.trans found)
          exact .inl (holds_of_takes takes moved)
        · refine .inr ⟨other, ?_, takes⟩
          exact (getElem?_append_cons_of_ne task task' isMoving).trans found
  · cases event with
    | tick duration => exact ⟨.refl _, fun silent => silent, fun _ _ removes => removes⟩
    | writerFails failed =>
        refine ⟨ConnectionManager.bypasses_closeQueue _ failed, fun silent => silent, ?_⟩
        exact fun _ _ removes => removes

/-! ## What is on its way -/

/-- The payload that the writer has taken out and not handed over. -/
def WriterStage.inHand : WriterStage → List Wire
  | checking data | locking data => [data]
  | absent | receiving | sending | failed | closing | removing | awaiting _ | isolated | halted
  | ended => []

def WriterStage.isOver : WriterStage → Bool
  | isolated | halted | ended => true
  | absent | receiving | checking _ | locking _ | sending | failed | closing | removing
  | awaiting _ => false

/-- What was enqueued has been handed over, or is on its way in the same order, as long as the
channel exists. -/
structure WriteState.Conveys (handle : WriteHandle) (state : WriteState) : Prop where
  idle : state.receiver = .waiting → state.writer = .absent
  stopped : state.receiver = .dropped → state.writer.isOver = true
  flow : state.receiver ≠ .dropped →
    state.accepted = state.handed ++ state.writer.inHand ++ (state.queue handle).items
  inOrder : state.handed <+: state.accepted
  serials : ∀ id entry, state.manager.connections.get id = some entry →
    entry.serial < state.manager.nextSerial
  unused : state.manager.nextSerial ≤ handle.serial →
    state.senders = [] ∧ state.writer = .absent ∧ state.accepted = []

namespace WriteState

variable {handle : WriteHandle} {state after : WriteState}

@[simp]
theorem withQueue_queue (queue : WriteQueue) :
    (state.withQueue handle queue).queue handle = queue := by
  simp [withQueue, WriteState.queue, manager]

theorem items_closed :
    ((state.withQueue handle (state.queue handle).close).queue handle).items =
      (state.queue handle).items := by
  rw [withQueue_queue]
  rfl

theorem Conveys.used_of_sender (conveys : state.Conveys handle) {index : Nat} {stage : EnqueueStage}
    (isSender : state.senders[index]? = some stage) :
    handle.serial < state.manager.nextSerial := by
  by_contra unused
  rw [(conveys.unused (Nat.le_of_not_lt unused)).1] at isSender
  cases isSender

theorem Conveys.used_of_writer (conveys : state.Conveys handle) (present : state.writer ≠ .absent) :
    handle.serial < state.manager.nextSerial := by
  by_contra unused
  exact present (conveys.unused (Nat.le_of_not_lt unused)).2.1

/-- A step of a sender or of the writer, in which the table does not change. -/
theorem Conveys.goOn (conveys : state.Conveys handle)
    (used : handle.serial < state.manager.nextSerial)
    (connections : after.manager.connections = state.manager.connections)
    (serial : after.manager.nextSerial = state.manager.nextSerial)
    (idle : after.receiver = .waiting → after.writer = .absent)
    (stopped : after.receiver = .dropped → after.writer.isOver = true)
    (flow : after.receiver ≠ .dropped →
      after.accepted = after.handed ++ after.writer.inHand ++ (after.queue handle).items)
    (inOrder : after.handed <+: after.accepted) : after.Conveys handle where
  idle := idle
  stopped := stopped
  flow := flow
  inOrder := inOrder
  serials id entry found := by
    rw [serial]
    exact conveys.serials id entry (connections ▸ found)
  unused unused := by
    rw [serial] at unused
    exact absurd used (Nat.not_lt_of_le unused)

/-- A sender goes on, and nothing of the channel changes. -/
theorem Conveys.goOn_sender (conveys : state.Conveys handle)
    (used : handle.serial < state.manager.nextSerial)
    (connections : after.manager.connections = state.manager.connections)
    (serial : after.manager.nextSerial = state.manager.nextSerial)
    (receiver : after.receiver = state.receiver) (writer : after.writer = state.writer)
    (accepted : after.accepted = state.accepted) (handed : after.handed = state.handed)
    (items : (after.queue handle).items = (state.queue handle).items) :
    after.Conveys handle := by
  refine conveys.goOn used connections serial ?_ ?_ ?_ ?_
  · rw [receiver, writer]
    exact conveys.idle
  · rw [receiver, writer]
    exact conveys.stopped
  · rw [receiver, accepted, handed, writer, items]
    exact conveys.flow
  · rw [accepted, handed]
    exact conveys.inOrder

theorem Conveys.sendStep {index : Nat} {stage : EnqueueStage} (conveys : state.Conveys handle)
    (isSender : state.senders[index]? = some stage)
    (sent : SendStep handle state index stage after) :
    after.Conveys handle := by
  have used := conveys.used_of_sender isSender
  cases sent with
  | goesOn | claims | returns => exact conveys.goOn_sender used rfl rfl rfl rfl rfl rfl rfl
  | takes data waiting =>
      have flow := conveys.flow (by rw [waiting]; exact Receiver.noConfusion)
      rw [conveys.idle waiting] at flow
      exact conveys.goOn used rfl rfl Receiver.noConfusion Receiver.noConfusion (fun _ => flow)
        conveys.inOrder
  | closes | removes => exact conveys.goOn_sender used rfl rfl rfl rfl rfl rfl items_closed
  | pushes data present =>
      refine conveys.goOn used rfl rfl conveys.idle conveys.stopped (fun _ => ?_) ?_
      · have items : (({ state.withQueue handle { state.queue handle with
            items := (state.queue handle).items ++ [data] } with
            accepted := state.accepted ++ [data] } : WriteState).queue handle).items =
            (state.queue handle).items ++ [data] := congrArg WriteQueue.items (withQueue_queue _)
        exact (congrArg (· ++ [data]) (conveys.flow present)).trans
          ((List.append_assoc _ _ _).trans (congrArg _ items.symm))
      · exact conveys.inOrder.trans (List.prefix_append _ _)

/-- The channel exists while the writer runs. -/
theorem Conveys.taken (conveys : state.Conveys handle) (present : state.writer ≠ .absent)
    (running : state.writer.isOver = false) : state.receiver = .taken := by
  cases receiver : state.receiver with
  | waiting => exact absurd (conveys.idle receiver) present
  | taken => rfl
  | dropped =>
      rw [conveys.stopped receiver] at running
      cases running

/-- The writer goes on, and the channel stays. -/
theorem Conveys.goOn_writer {stage : WriterStage} (conveys : state.Conveys handle)
    (current : state.writer = stage) (present : stage ≠ .absent) (running : stage.isOver = false)
    (connections : after.manager.connections = state.manager.connections)
    (serial : after.manager.nextSerial = state.manager.nextSerial)
    (receiver : after.receiver = state.receiver)
    (flow : state.accepted = state.handed ++ stage.inHand ++ (state.queue handle).items →
      after.accepted = after.handed ++ after.writer.inHand ++ (after.queue handle).items) :
    after.Conveys handle := by
  subst current
  have taken := conveys.taken present running
  have flows := flow (conveys.flow (by rw [taken]; exact Receiver.noConfusion))
  have stays := receiver.trans taken
  refine conveys.goOn (conveys.used_of_writer present) connections serial ?_ ?_ (fun _ => flows) ?_
  · rw [stays]
    exact Receiver.noConfusion
  · rw [stays]
    exact Receiver.noConfusion
  · rw [flows, List.append_assoc]
    exact List.prefix_append _ _

/-- The writer is over. -/
theorem Conveys.stop {stage next : WriterStage} (conveys : state.Conveys handle)
    (current : state.writer = stage) (present : stage ≠ .absent) (isOver : next.isOver = true) :
    (state.stop handle next).Conveys handle := by
  subst current
  exact conveys.goOn (conveys.used_of_writer present) rfl rfl Receiver.noConfusion
    (fun _ => isOver) (fun running => absurd rfl running) conveys.inOrder

theorem Conveys.writeStep (conveys : state.Conveys handle)
    (written : WriteStep handle state after) : after.Conveys handle := by
  cases written with
  | takes data items receives queued =>
      refine conveys.goOn_writer receives WriterStage.noConfusion rfl rfl rfl rfl fun flow => ?_
      rw [queued] at flow
      have left : (({ state.withQueue handle { state.queue handle with items := items } with
          writer := .checking data } : WriteState).queue handle).items = items :=
        congrArg WriteQueue.items (withQueue_queue _)
      have regrouped : state.handed ++ [] ++ data :: items = state.handed ++ [data] ++ items := by
        simp
      exact (flow.trans regrouped).trans (congrArg _ left.symm)
  | stops stage next current isOver running =>
      refine conveys.stop current running ?_
      obtain rfl | rfl := isOver <;> rfl
  | checks data current =>
      exact conveys.goOn_writer current WriterStage.noConfusion rfl rfl rfl rfl id
  | hands data current =>
      refine conveys.goOn_writer current WriterStage.noConfusion rfl rfl rfl rfl fun flow => ?_
      have regrouped : state.handed ++ [data] ++ (state.queue handle).items =
          state.handed ++ [data] ++ [] ++ (state.queue handle).items := by
        simp
      exact flow.trans regrouped
  | sends next current isNext =>
      refine conveys.goOn_writer current WriterStage.noConfusion rfl rfl rfl rfl ?_
      obtain rfl | rfl := isNext <;> exact id
  | closes current =>
      refine conveys.goOn_writer current WriterStage.noConfusion rfl rfl rfl rfl fun flow => ?_
      exact flow.trans (congrArg _ items_closed.symm)
  | closed current | removes current =>
      exact conveys.goOn_writer current WriterStage.noConfusion rfl rfl rfl rfl id
  | isolates call current returned => exact conveys.stop current WriterStage.noConfusion rfl

/-- The manager goes on beside the queue. -/
theorem Conveys.poolStep {pool : Pool Shared Task} (conveys : state.Conveys handle)
    (step : PoolStep handle state.pool pool) :
    ({ state with pool := pool } : WriteState).Conveys handle := by
  obtain ⟨serial, entries, items⟩ := step.bypasses
  refine ⟨conveys.idle, conveys.stopped, fun running => ?_, conveys.inOrder,
    fun id entry found => ?_, fun unused => conveys.unused (Nat.le_trans serial unused)⟩
  · have flow := conveys.flow running
    obtain same | ⟨unused, empty⟩ := items
    · exact flow.trans (congrArg _ same.symm)
    · -- the queue is only being created: nothing was enqueued
      obtain ⟨-, -, none⟩ := conveys.unused unused
      obtain ⟨taken, -⟩ := List.append_eq_nil_iff.mp (flow.symm.trans none)
      exact none.trans ((List.append_nil _).symm.trans
        (congr (congrArg _ taken.symm) empty.symm))
  · obtain ⟨old, inState, same⟩ | ⟨-, below⟩ := entries id entry found
    · exact same ▸ Nat.lt_of_lt_of_le (conveys.serials id old inState) serial
    · exact below

end WriteState

/-! ## What a failure leaves behind -/

/-- A call that takes a connection out of the table has done so when it returns. -/
theorem IsRemoving.gone {handle : WriteHandle} {call : Nat} {pool : Pool Shared Task}
    (removing : IsRemoving handle call pool)
    (returned : pool.tasks[call]?.any Task.isReturned = true) :
    pool.memory.manager.holds handle = false := by
  obtain gone | ⟨task, found, takes⟩ := removing
  · exact gone
  · rw [found] at returned
    cases task with
    | removeTake id resume | registryTake id => cases returned
    | _ => cases takes

/-- More calls are made, and the table stays as it is. -/
theorem IsRemoving.append {handle : WriteHandle} {call : Nat} {before after : Pool Shared Task}
    {new : List Task} (removing : IsRemoving handle call before)
    (connections : after.memory.manager.connections = before.memory.manager.connections)
    (tasks : after.tasks = before.tasks ++ new) : IsRemoving handle call after := by
  obtain gone | ⟨task, found, takes⟩ := removing
  · refine .inl ?_
    unfold ConnectionManager.holds at gone ⊢
    rwa [connections]
  · refine .inr ⟨task, ?_, takes⟩
    rw [tasks]
    exact (List.getElem?_append_left (List.getElem?_eq_some_iff.mp found).1).trans found

/-- Who has failed takes the connection out of the table, and it is gone when the failure is
reported. -/
structure WriteState.Isolates (handle : WriteHandle) (state : WriteState) : Prop where
  silent : ∀ task ∈ state.pool.tasks, task.delivery = none
  removing : ∀ error call, EnqueueStage.removing error call ∈ state.senders →
    IsRemoving handle call state.pool
  awaiting : ∀ call, state.writer = .awaiting call → IsRemoving handle call state.pool
  refused : ∀ error, EnqueueStage.finished (.error error) ∈ state.senders →
    state.isPresent handle = false
  isolated : state.writer = .isolated → state.isPresent handle = false

namespace WriteState

variable {handle : WriteHandle} {state after : WriteState}

/-- A sender or the writer goes on, and at most makes a call. -/
theorem Isolates.goOn {new : List Task} (isolates : state.Isolates handle)
    (connections : after.manager.connections = state.manager.connections)
    (tasks : after.pool.tasks = state.pool.tasks ++ new)
    (silent : ∀ task ∈ new, task.delivery = none)
    (removing : ∀ error call, EnqueueStage.removing error call ∈ after.senders →
      EnqueueStage.removing error call ∈ state.senders ∨ IsRemoving handle call after.pool)
    (awaiting : ∀ call, after.writer = .awaiting call →
      state.writer = .awaiting call ∨ IsRemoving handle call after.pool)
    (refused : ∀ error, EnqueueStage.finished (.error error) ∈ after.senders →
      EnqueueStage.finished (.error error) ∈ state.senders ∨ state.isPresent handle = false)
    (isolated : after.writer = .isolated →
      state.writer = .isolated ∨ state.isPresent handle = false) : after.Isolates handle where
  silent task member := by
    obtain old | added := List.mem_append.mp (tasks ▸ member)
    · exact isolates.silent task old
    · exact silent task added
  removing error call member := by
    obtain old | takes := removing error call member
    · exact (isolates.removing error call old).append connections tasks
    · exact takes
  awaiting call waits := by
    obtain old | takes := awaiting call waits
    · exact (isolates.awaiting call old).append connections tasks
    · exact takes
  refused error member := by
    have same : after.isPresent handle = state.isPresent handle := by
      unfold isPresent ConnectionManager.holds
      rw [connections]
    obtain old | gone := refused error member
    · exact same.trans (isolates.refused error old)
    · exact same.trans gone
  isolated isOver := by
    have same : after.isPresent handle = state.isPresent handle := by
      unfold isPresent ConnectionManager.holds
      rw [connections]
    obtain old | gone := isolated isOver
    · exact same.trans (isolates.isolated old)
    · exact same.trans gone

/-- A sender goes on. -/
theorem Isolates.goOn_sender {new : List Task} {index : Nat} {stage : EnqueueStage}
    (isolates : state.Isolates handle)
    (connections : after.manager.connections = state.manager.connections)
    (tasks : after.pool.tasks = state.pool.tasks ++ new)
    (silent : ∀ task ∈ new, task.delivery = none)
    (writer : after.writer = state.writer ∨ after.writer = .receiving)
    (senders : after.senders = state.senders.set index stage)
    (removing : ∀ error call, stage = .removing error call → IsRemoving handle call after.pool)
    (refused : ∀ error, stage = .finished (.error error) → state.isPresent handle = false) :
    after.Isolates handle := by
  refine isolates.goOn connections tasks silent ?_ ?_ ?_ ?_
  · intro error call member
    obtain old | isNew := List.mem_or_eq_of_mem_set (senders ▸ member)
    · exact .inl old
    · exact .inr (removing error call isNew.symm)
  · intro call waits
    obtain same | receives := writer
    · exact .inl (same.symm.trans waits)
    · cases receives.symm.trans waits
  · intro error member
    obtain old | isNew := List.mem_or_eq_of_mem_set (senders ▸ member)
    · exact .inl old
    · exact .inr (refused error isNew.symm)
  · intro isOver
    obtain same | receives := writer
    · exact .inl (same.symm.trans isOver)
    · cases receives.symm.trans isOver

/-- A call that has just been made. -/
theorem isRemoving_last {task : Task} (takes : task.takes handle.connectionId = true)
    (tasks : after.pool.tasks = state.pool.tasks ++ [task]) :
    IsRemoving handle state.pool.tasks.length after.pool := by
  refine .inr ⟨task, ?_, takes⟩
  rw [tasks]
  exact List.getElem?_concat_length

theorem Isolates.sendStep {index : Nat} {stage : EnqueueStage} (isolates : state.Isolates handle)
    (isSender : state.senders[index]? = some stage)
    (sent : SendStep handle state index stage after) :
    after.Isolates handle := by
  have nothing : ∀ task ∈ ([] : List Task), task.delivery = none := fun _ member => by
    cases member
  have moves : ∀ {after : WriteState} {stage : EnqueueStage}, stage.hasFailed = false →
      after.manager.connections = state.manager.connections →
      after.pool.tasks = state.pool.tasks →
      (after.writer = state.writer ∨ after.writer = .receiving) →
      after.senders = state.senders.set index stage → after.Isolates handle := by
    intro after stage unfailed connections tasks writer senders
    refine isolates.goOn_sender connections (tasks.trans (List.append_nil _).symm) nothing writer
      senders ?_ ?_
    · rintro error call rfl
      cases unfailed
    · rintro error rfl
      cases unfailed
  cases sent with
  | goesOn stage next unfailed => exact moves unfailed rfl rfl (.inl rfl) rfl
  | takes => exact moves rfl rfl rfl (.inr rfl) rfl
  | claims | closes | pushes => exact moves rfl rfl rfl (.inl rfl) rfl
  | removes error =>
      refine isolates.goOn_sender rfl rfl ?_ (.inl rfl) rfl ?_ ?_
      · rintro task member
        obtain rfl := List.mem_singleton.mp member
        rfl
      · rintro error call isStage
        obtain ⟨rfl, rfl⟩ := EnqueueStage.removing.inj isStage
        have takes : (Task.removeTake handle.connectionId none).takes handle.connectionId = true :=
          decide_eq_true rfl
        exact isRemoving_last takes rfl
      · rintro error isStage
        cases isStage
  | returns error call returned =>
      refine isolates.goOn_sender rfl (List.append_nil _).symm nothing (.inl rfl) rfl ?_ ?_
      · rintro error call isStage
        cases isStage
      · rintro _ -
        have member := List.mem_of_getElem? isSender
        exact (isolates.removing error call member).gone returned

theorem Isolates.writeStep (isolates : state.Isolates handle)
    (written : WriteStep handle state after) : after.Isolates handle := by
  have nothing : ∀ task ∈ ([] : List Task), task.delivery = none := fun _ member => by
    cases member
  have moves : ∀ {after : WriteState}, after.manager.connections = state.manager.connections →
      after.pool.tasks = state.pool.tasks → after.senders = state.senders →
      (∀ call, after.writer ≠ .awaiting call) → after.writer ≠ .isolated →
      after.Isolates handle := by
    intro after connections tasks senders unawaiting unisolated
    refine isolates.goOn connections (tasks.trans (List.append_nil _).symm) nothing ?_
      (fun call waits => absurd waits (unawaiting call)) ?_ (fun isOver => absurd isOver unisolated)
    · intro error call member
      exact .inl (senders ▸ member)
    · intro error member
      exact .inl (senders ▸ member)
  cases written with
  | takes | checks | hands | closes | closed =>
      exact moves rfl rfl rfl (fun _ => WriterStage.noConfusion) WriterStage.noConfusion
  | stops stage next current isOver running =>
      obtain rfl | rfl := isOver <;>
        exact moves rfl rfl rfl (fun _ => WriterStage.noConfusion) WriterStage.noConfusion
  | sends next current isNext =>
      obtain rfl | rfl := isNext <;>
        exact moves rfl rfl rfl (fun _ => WriterStage.noConfusion) WriterStage.noConfusion
  | removes current =>
      refine isolates.goOn rfl rfl ?_ (fun _ _ => .inl) ?_ (fun _ => .inl) ?_
      · rintro task member
        obtain rfl := List.mem_singleton.mp member
        rfl
      · rintro call waits
        obtain rfl := WriterStage.awaiting.inj waits
        have takes : (Task.registryTake handle.connectionId).takes handle.connectionId = true :=
          decide_eq_true rfl
        exact .inr (isRemoving_last takes rfl)
      · rintro isOver
        cases isOver
  | isolates call current returned =>
      refine isolates.goOn rfl (List.append_nil _).symm nothing (fun _ _ => .inl) ?_ (fun _ => .inl)
        ?_
      · rintro call waits
        cases waits
      · rintro -
        exact .inr ((isolates.awaiting call current).gone returned)

/-- The manager goes on beside the queue. -/
theorem Isolates.poolStep {pool : Pool Shared Task} (isolates : state.Isolates handle)
    (conveys : state.Conveys handle) (step : PoolStep handle state.pool pool) :
    ({ state with pool := pool } : WriteState).Isolates handle where
  silent := step.silent isolates.silent
  removing error call member := by
    obtain ⟨index, isSender⟩ := List.mem_iff_getElem?.mp member
    exact step.removes (conveys.used_of_sender isSender) call (isolates.removing error call member)
  awaiting call waits := by
    have present : state.writer ≠ .absent := by
      rw [show state.writer = .awaiting call from waits]
      exact WriterStage.noConfusion
    exact step.removes (conveys.used_of_writer present) call (isolates.awaiting call waits)
  refused error member := by
    obtain ⟨index, isSender⟩ := List.mem_iff_getElem?.mp member
    exact step.bypasses.holds_eq_false (conveys.used_of_sender isSender)
      (isolates.refused error member)
  isolated isOver := by
    have present : state.writer ≠ .absent := by
      rw [show state.writer = .isolated from isOver]
      exact WriterStage.noConfusion
    exact step.bypasses.holds_eq_false (conveys.used_of_writer present) (isolates.isolated isOver)

/-! ## Every interleaving -/

/-- The books of the manager do not depend on the queues. -/
theorem counted_withQueue {queue : WriteQueue} (counted : SlotsCounted state.pool)
    (books : Books state.pool) : SlotsCounted (state.withQueue handle queue).pool ∧
      Books (state.withQueue handle queue).pool :=
  ⟨counted, books.exclusive, books.agreed, books.wellFormed, books.covered, books.userCount⟩

/-- A call is made that owes nothing yet. -/
theorem counted_calls (call : Call) {task : Task} (counted : SlotsCounted state.pool)
    (books : Books state.pool) (isTask : startCall state.pool.tasks.length call = task) :
    SlotsCounted (state.calls task).pool ∧ Books (state.calls task).pool := by
  have stepped : managerMachine.Allowed System.always state.pool (state.calls task).pool :=
    ⟨.call call, trivial, by rw [← isTask]; rfl⟩
  exact ⟨counted.step stepped, books.step stepped⟩

theorem counted_sendStep {index : Nat} {stage : EnqueueStage} (counted : SlotsCounted state.pool)
    (books : Books state.pool) (sent : SendStep handle state index stage after) :
    SlotsCounted after.pool ∧ Books after.pool := by
  cases sent with
  | goesOn | claims | takes | returns => exact ⟨counted, books⟩
  | closes | pushes => exact counted_withQueue counted books
  | removes error =>
      have closed : SlotsCounted (state.withQueue handle (state.queue handle).close).pool ∧
          Books (state.withQueue handle (state.queue handle).close).pool :=
        counted_withQueue counted books
      exact counted_calls (.removeConnection handle.connectionId) closed.1 closed.2 rfl

theorem counted_writeStep (counted : SlotsCounted state.pool) (books : Books state.pool)
    (written : WriteStep handle state after) : SlotsCounted after.pool ∧ Books after.pool := by
  cases written with
  | takes | stops | closes | isolates => exact counted_withQueue counted books
  | checks | hands | sends | closed => exact ⟨counted, books⟩
  | removes =>
      exact counted_calls (.registryRemoveConnection handle.connectionId) counted books rfl

/-- What holds of a queue and of the manager in every interleaving. -/
structure InService (handle : WriteHandle) (state : WriteState) : Prop where
  conveys : state.Conveys handle
  isolates : state.Isolates handle
  counted : SlotsCounted state.pool
  books : Books state.pool

theorem InService.step {move : WriteMove} (inService : InService handle state)
    (stepped : (writeSystem handle).step state move = some after) : InService handle after := by
  obtain ⟨conveys, isolates, counted, books⟩ := inService
  cases move with
  | manager move =>
      simp only [writeSystem, Option.ite_none_right_eq_some] at stepped
      obtain ⟨beside, moved⟩ := stepped
      obtain ⟨pool, performed, rfl⟩ := Option.map_eq_some_iff.mp moved
      have step := poolStep_of_step beside isolates.silent performed
      have allowed : managerMachine.Allowed System.always state.pool pool :=
        ⟨move, trivial, performed⟩
      exact ⟨conveys.poolStep step, isolates.poolStep conveys step, counted.step allowed,
        books.step allowed⟩
  | submit data =>
      simp only [writeSystem, Option.ite_none_right_eq_some] at stepped
      obtain ⟨present, isAfter⟩ := stepped
      obtain rfl := Option.some.inj isAfter
      obtain ⟨entry, found, serial⟩ := (Option.any_eq_true _ _).mp present
      have used : handle.serial < state.manager.nextSerial :=
        of_decide_eq_true serial ▸ conveys.serials _ entry found
      have kept : ∀ {stage : EnqueueStage}, stage.hasFailed = true →
          stage ∈ state.senders ++ [.arriving data] → stage ∈ state.senders := by
        intro stage failed member
        obtain old | new := List.mem_append.mp member
        · exact old
        · rw [List.mem_singleton.mp new] at failed
          cases failed
      refine ⟨conveys.goOn_sender used rfl rfl rfl rfl rfl rfl rfl, ?_, counted, books⟩
      refine isolates.goOn rfl (List.append_nil _).symm (fun _ member => by cases member) ?_
        (fun _ => .inl) ?_ .inl
      · intro error call member
        exact .inl (kept rfl member)
      · intro error member
        exact .inl (kept rfl member)
  | send index hasRuntime =>
      obtain ⟨stage, isSender, taken⟩ := Option.bind_eq_some_iff.mp stepped
      have sent := sendStep_of_eq_some taken
      have counters := counted_sendStep counted books sent
      exact ⟨conveys.sendStep isSender sent, isolates.sendStep isSender sent, counters.1,
        counters.2⟩
  | write outcome =>
      have written := writeStep_of_eq_some stepped
      have counters := counted_writeStep counted books written
      exact ⟨conveys.writeStep written, isolates.writeStep written, counters.1, counters.2⟩

theorem inService_initial (writeQueueCapacity : Nat) (clock : Instant) :
    InService handle (initial writeQueueCapacity clock) where
  conveys := {
    idle := fun _ => rfl
    stopped := Receiver.noConfusion
    flow := fun _ => rfl
    inOrder := List.prefix_refl _
    serials := fun id entry found => by
      cases (ShardedMap.get_empty id).symm.trans found
    unused := fun _ => ⟨rfl, rfl, rfl⟩ }
  isolates := {
    silent := fun _ member => by cases member
    removing := fun _ _ member => by cases member
    awaiting := fun _ waits => by cases waits
    refused := fun _ member => by cases member
    isolated := fun isOver => by cases isOver }
  counted := (ConnectionManager.Settled.new writeQueueCapacity).connectionCount
  books := Books.initial writeQueueCapacity clock

theorem InService.reaches {later : WriteState} (inService : InService handle state)
    (reached : (writeSystem handle).Reaches System.always state later) :
    InService handle later := by
  refine System.Reaches.invariant (I := InService handle) reached inService ?_
  rintro before after ⟨move, -, stepped⟩ inService
  exact inService.step stepped

/-- A writer that has seen the flag hands nothing over, and no other takes its place. -/
theorem halted_step {move : WriteMove} (conveys : state.Conveys handle)
    (halted : state.writer = .halted)
    (stepped : (writeSystem handle).step state move = some after) :
    after.writer = .halted ∧ after.handed = state.handed := by
  cases move with
  | manager move =>
      simp only [writeSystem, Option.ite_none_right_eq_some] at stepped
      obtain ⟨pool, -, rfl⟩ := Option.map_eq_some_iff.mp stepped.2
      exact ⟨halted, rfl⟩
  | submit data =>
      simp only [writeSystem, Option.ite_none_right_eq_some] at stepped
      obtain rfl := Option.some.inj stepped.2
      exact ⟨halted, rfl⟩
  | write outcome =>
      simp only [writeSystem, WriteState.writeStep, halted] at stepped
      cases stepped
  | send index hasRuntime =>
      obtain ⟨stage, -, taken⟩ := Option.bind_eq_some_iff.mp stepped
      cases sendStep_of_eq_some taken with
      | takes data waiting => cases halted.symm.trans (conveys.idle waiting)
      | _ => exact ⟨halted, rfl⟩

end WriteState

/-- **A write queue hands over what was enqueued, in order.**  In every interleaving the payloads
that were handed to the connection are a prefix of those whose enqueue returned `Ok`; after the
writer has seen the flag nothing is handed over; after a failed enqueue, or a failed send that the
writer has dealt with, the connection is not in the table; and the counters are ahead of the sizes
by what calls in progress owe, hence equal to them when all calls have returned. -/
theorem payloads_handed_over_in_order (handle : WriteHandle) {writeQueueCapacity : Nat}
    {clock : Instant} {state : WriteState}
    (reached : (writeSystem handle).Reaches System.always (.initial writeQueueCapacity clock)
      state) :
    state.handed <+: state.accepted ∧
      (state.writer = .halted → ∀ later, (writeSystem handle).Reaches System.always state later →
        later.handed = state.handed) ∧
      ((∃ error, EnqueueStage.finished (.error error) ∈ state.senders) ∨ state.writer = .isolated →
        state.isPresent handle = false) ∧
      state.manager.connectionCount.toNat =
        state.manager.connections.size + total Task.slots state.pool.tasks ∧
      state.manager.userCount =
        UInt64.ofNat (state.manager.users.size + total Task.emptied state.pool.tasks) ∧
      ((∀ task ∈ state.pool.tasks, task.isReturned = true) →
        state.manager.connectionCount.toNat = state.manager.connections.size ∧
          state.manager.userCount.toNat = state.manager.users.size) := by
  have inService := (WriteState.inService_initial writeQueueCapacity clock).reaches reached
  have ⟨conveys, isolates, counted, books⟩ := inService
  refine ⟨conveys.inOrder, fun halted later continued => ?_, ?_, counted, books.userCount,
    fun returned => ?_⟩
  · have stays : WriteState.InService handle later ∧ later.writer = .halted ∧
        later.handed = state.handed := by
      refine System.Reaches.invariant (I := fun later : WriteState =>
        WriteState.InService handle later ∧ later.writer = .halted ∧ later.handed = state.handed)
        continued ⟨inService, halted, rfl⟩ ?_
      rintro before after ⟨move, -, stepped⟩ ⟨inService, halted, handed⟩
      obtain ⟨stillHalted, same⟩ := WriteState.halted_step inService.conveys halted stepped
      exact ⟨inService.step stepped, stillHalted, same.trans handed⟩
    exact stays.2.2
  · rintro (⟨error, refused⟩ | isolated)
    · exact isolates.refused error refused
    · exact isolates.isolated isolated
  · have connections : state.manager.connectionCount.toNat = state.manager.connections.size := by
      have here := counted
      rwa [SlotsCounted, total_eq_zero_of_returned returned fun _ light => light.slots] at here
    refine ⟨connections, ?_⟩
    have listed : ∀ owner id, state.manager.listed owner id ≤ state.manager.owns owner id := by
      intro owner id
      have here := books.covered owner id
      rwa [total_eq_zero_of_returned returned fun _ light => light.removing owner id] at here
    have bound := ConnectionManager.users_size_le books.wellFormed listed
    have word := state.manager.connectionCount.toNat_lt
    have users := books.userCount
    rw [total_eq_zero_of_returned returned fun _ light => light.emptied, Nat.add_zero] at users
    have counted : state.manager.userCount = UInt64.ofNat state.manager.users.size := users
    rw [counted, UInt64.toNat_ofNat']
    refine Nat.mod_eq_of_lt (Nat.lt_of_le_of_lt bound ?_)
    rwa [connections] at word

end Writing

/-! ## Concrete runs -/

section WritingRuns

open scoped SingleShard

/-- The queue of the first connection that is added, under the id "c". -/
def firstQueue : WriteHandle := ⟨"c", 0⟩

/-- The steps of a sender. -/
def senderSteps (index steps : Nat) : List WriteMove :=
  List.replicate steps (.send index true)

/-- The steps of the writer, whose next send fails. -/
def writesInVain (steps : Nat) : List WriteMove :=
  List.replicate steps (.write .failed)

/-- A connection is added, two senders take its handle, the payload of the first is enqueued and its
sending fails; the writer has taken the connection out of the table. -/
def sendFails : List WriteMove :=
  .manager (.call (.addConnectionWithLimit "c" none false 10)) ::
    List.replicate 3 (.manager (.advance 0 false)) ++
    [.submit fun _ => [1], .submit fun _ => [2]] ++ senderSteps 0 5 ++ writesInVain 7 ++
    [.manager (.advance 1 false)]

def WriterStage.isIsolated : WriterStage → Bool
  | isolated => true
  | absent | receiving | checking _ | locking _ | sending | failed | closing | removing | awaiting _
  | halted | ended => false

theorem WriterStage.eq_isolated {stage : WriterStage} (isIsolated : stage.isIsolated = true) :
    stage = .isolated := by
  cases stage with
  | isolated => rfl
  | _ => cases isIsolated

/-- A sender that has returned an error. -/
def EnqueueStage.isRefused : EnqueueStage → Bool
  | finished (.error _) => true
  | arriving _ | starting _ | claiming _ | taking _ | pushing _ | failing _ | removing _ _
  | finished (.ok _) => false

theorem EnqueueStage.exists_of_isRefused {stage : EnqueueStage}
    (isRefused : stage.isRefused = true) : ∃ error, stage = .finished (.error error) := by
  cases stage with
  | finished result =>
      cases result with
      | ok => cases isRefused
      | error error => exact ⟨error, rfl⟩
  | _ => cases isRefused

/-- The writer gives the slot back: the theorem applies. -/
theorem payloads_handed_over_in_order_isolated :
    ∃ state, (writeSystem firstQueue).Reaches System.always (.initial 8 0) state ∧
      state.handed.length = 1 ∧ state.handed <+: state.accepted ∧
      state.isPresent firstQueue = false ∧
      state.manager.connectionCount.toNat = state.manager.connections.size := by
  have run : ((writeSystem firstQueue).run (.initial 8 0) (sendFails ++
      [.manager (.advance 1 false), .write .sent])).any (fun state => decide (
        state.handed.length = 1 ∧ state.writer.isIsolated = true ∧
        ∀ task ∈ state.pool.tasks, task.isReturned = true)) = true := by
    decide +kernel
  obtain ⟨state, reached, holds⟩ :=
    System.exists_reaches_of_run run (System.permits_always _ _)
  obtain ⟨one, isIsolated, returned⟩ := of_decide_eq_true holds
  obtain ⟨inOrder, -, gone, -, -, counted⟩ := payloads_handed_over_in_order firstQueue reached
  exact ⟨state, reached, one, inOrder, gone (.inr (WriterStage.eq_isolated isIsolated)),
    (counted returned).1⟩

/-- **A failed enqueue returns before the counter is right.**  The second sender finds the queue
closed and its connection gone from the table, and returns its error while the writer has not yet
given the slot back. -/
theorem counter_behind_failed_enqueue :
    ∃ state, (writeSystem firstQueue).Reaches System.always (.initial 8 0) state ∧
      (∃ error, EnqueueStage.finished (.error error) ∈ state.senders) ∧
      state.manager.connectionCount.toNat = 1 ∧ state.manager.connections.size = 0 := by
  have run : ((writeSystem firstQueue).run (.initial 8 0) (sendFails ++ senderSteps 1 2 ++
      .manager (.advance 2 false) :: senderSteps 1 1)).any (fun state => decide (
        (state.senders.any EnqueueStage.isRefused) = true ∧
        state.manager.connectionCount.toNat = 1 ∧ state.manager.connections.size = 0)) = true := by
    decide +kernel
  obtain ⟨state, reached, holds⟩ :=
    System.exists_reaches_of_run run (System.permits_always _ _)
  obtain ⟨refused, count, size⟩ := of_decide_eq_true holds
  obtain ⟨stage, member, isRefused⟩ := List.any_eq_true.mp refused
  obtain ⟨error, rfl⟩ := EnqueueStage.exists_of_isRefused isRefused
  exact ⟨state, reached, ⟨error, member⟩, count, size⟩

end WritingRuns

end FlareCore.Server
