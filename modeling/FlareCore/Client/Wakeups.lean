import FlareCore.Client.Core
import FlareCore.Foundations.Wakeups

/-!
# The waiters of a client

`wait_for_negotiation` waits for CONNECT_ACK or for a failure, `wait_inbound_drained` for the frames
that have been read and are still being handled.  Each is woken by functions that store the outcome
and notify in separate steps: the handlers of CONNECT_ACK and of the frames that reject CONNECT, the
failure of a negotiation, the end of a connection before CONNECT_ACK, and the guard of a frame when
it is dropped.  Some of them return without a notification, and a new connection takes outcomes
back.

Both are instances of `Signal`: every store that lets a waiter go is followed by a notification, so
no wake-up is lost (`wakeups_not_lost`).
-/

namespace FlareCore.Client

open FlareCore.Common FlareCore.Server FlareCore.Foundations

set_option autoImplicit false

/-! ## Negotiation -/

/-- What the negotiation is decided by.  The failure is behind a lock that a panic can poison: then
it is neither written nor read. -/
structure Negotiating where
  negotiationCompleted : Bool
  negotiationFailure : Option FlareError
  poisoned : Bool
  state : ConnectionState
  disconnectRequested : Bool

namespace Negotiating

/-- The core of a new client. -/
def new : Negotiating where
  negotiationCompleted := false
  negotiationFailure := none
  poisoned := false
  state := .disconnected
  disconnectRequested := false

variable (memory : Negotiating)

/-- What a waiter reads of the failure. -/
def hasFailure : Bool :=
  !memory.poisoned && memory.negotiationFailure.isSome

/-- `*failure = value`, if the lock is not poisoned. -/
def storeFailure (value : Option FlareError) : Negotiating :=
  if memory.poisoned then memory else { memory with negotiationFailure := value }

end Negotiating

/-- The functions that decide a negotiation, by where they stand.  A task that is done stays. -/
inductive NegotiationTask where
  /-- `update_parser`, and the end of `handle_connect_ack_command` for a forced format. -/
  | completing
  /-- `record_connect_rejection`, at the lock. -/
  | rejecting (command : SystemCommand)
  /-- `fail_negotiation`, at the lock. -/
  | failing (reason : String)
  /-- `notify_waiters`; `fail_negotiation` goes on to report its error. -/
  | notifying (error : Option FlareError)
  /-- `handle_connection_event` for an event that ends a connection, in `closed_during_negotiation`
  at the state, at the flag and at the request to disconnect. -/
  | readingState (target : ConnectionState) (detail : String)
  | readingFlag (target : ConnectionState) (detail : String)
  | readingRequest (target : ConnectionState) (detail : String)
  | leaving (target : ConnectionState) (detail : String) (closed : Bool)
  | resetting (detail : String) (closed : Bool)
  /-- `fail_negotiation_on_close`, at the lock. -/
  | closing (detail : String)
  /-- `handle_connection_event` for `Connected`. -/
  | arriving
  | establishing (alreadyConnected : Bool)
  | clearingFlag
  | clearingFailure
  | done

/-- What comes in: CONNECT_ACK that is read or not, a frame that rejects CONNECT, an event. -/
inductive NegotiationCall where
  | acknowledged
  | invalidAck (reason : String)
  | rejection (command : SystemCommand)
  | event (event : ConnectionEvent)

/-- What the rest of the client does to the memory. -/
inductive NegotiationEvent where
  | setState (state : ConnectionState)
  | requestDisconnect (requested : Bool)
  | poison

namespace NegotiationTask

def start : NegotiationCall → NegotiationTask
  | .acknowledged => completing
  | .invalidAck reason => failing reason
  | .rejection command => rejecting command
  | .event .connected => arriving
  | .event (.disconnected reason) => readingState .disconnected reason
  | .event (.error error) => readingState .failed error.text
  | .event (.message _) => done

def notifies : NegotiationTask → Option NegotiationTask
  | notifying (some error) => some (readingState .failed error.text)
  | notifying none => some done
  | completing | rejecting _ | failing _ | readingState _ _ | readingFlag _ _ | readingRequest _ _
  | leaving _ _ _ | resetting _ _ | closing _ | arriving | establishing _ | clearingFlag
  | clearingFailure | done => none

def advance (memory : Negotiating) : NegotiationTask → Option (Negotiating × NegotiationTask)
  | completing => some ({ memory with negotiationCompleted := true }, notifying none)
  | rejecting command =>
      if memory.hasFailure then some (memory, done)
      else some (memory.storeFailure (some (rejectionError command)), notifying none)
  | failing reason =>
      some (memory.storeFailure (some (.protocolError reason)),
        notifying (some (.protocolError reason)))
  | readingState target detail =>
      if memory.state = .connected then some (memory, readingFlag target detail)
      else some (memory, leaving target detail false)
  | readingFlag target detail =>
      if memory.negotiationCompleted then some (memory, leaving target detail false)
      else some (memory, readingRequest target detail)
  | readingRequest target detail =>
      some (memory, leaving target detail (!memory.disconnectRequested))
  | leaving target detail closed => some ({ memory with state := target }, resetting detail closed)
  | resetting detail closed =>
      some ({ memory with negotiationCompleted := false }, if closed then closing detail else done)
  | closing detail =>
      if memory.poisoned then some (memory, done)
      else
        some (memory.storeFailure
          (some (memory.negotiationFailure.getD (closedBeforeConnectAckError detail))),
          notifying none)
  | arriving => some (memory, establishing (memory.state = .connected))
  | establishing alreadyConnected =>
      some ({ memory with state := .connected }, if alreadyConnected then done else clearingFlag)
  | clearingFlag => some ({ memory with negotiationCompleted := false }, clearingFailure)
  | clearingFailure => some (memory.storeFailure none, done)
  | notifying _ | done => none

end NegotiationTask

/-- `wait_for_negotiation` and the functions that end the wait. -/
def negotiationSignal : Signal Negotiating NegotiationCall NegotiationTask NegotiationEvent where
  checks := [Negotiating.negotiationCompleted, Negotiating.hasFailure]
  looksFirst := true
  start := NegotiationTask.start
  notifies := NegotiationTask.notifies
  advance := NegotiationTask.advance
  environment memory
    | .setState state => { memory with state := state }
    | .requestDisconnect requested => { memory with disconnectRequested := requested }
    | .poison => { memory with poisoned := true }

/-! ## Frames in flight -/

/-- A frame from `inbound_frame_read` to the end of its guard's `drop`. -/
inductive InboundFrame where
  | reading
  | handling
  | notifying
  | dropped
  deriving DecidableEq, Repr

namespace InboundFrame

def notifies : InboundFrame → Option InboundFrame
  | notifying => some dropped
  | reading | handling | dropped => none

/-- The drop of a guard notifies if the count was at most one, and also if there was nothing to
subtract from.  The count does not wrap: every guard holds a reference to it, and references run out
first. -/
def advance (inFlight : Nat) : InboundFrame → Option (Nat × InboundFrame)
  | reading => some (inFlight + 1, handling)
  | handling => some (inFlight - 1, if inFlight ≤ 1 then notifying else dropped)
  | notifying | dropped => none

end InboundFrame

/-- `wait_inbound_drained` and the frames in flight. -/
def inboundSignal : Signal Nat Unit InboundFrame Empty where
  checks := [(· == 0)]
  looksFirst := false
  start _ := .reading
  notifies := InboundFrame.notifies
  advance := InboundFrame.advance
  environment inFlight _ := inFlight

/-! ## Every outcome is announced -/

/-- Nothing that a waiter looks at becomes true. -/
def Negotiating.Calm (before after : Negotiating) : Prop :=
  (after.negotiationCompleted = true → before.negotiationCompleted = true) ∧
    (after.hasFailure = true → before.hasFailure = true)

theorem Negotiating.Calm.check {before after : Negotiating} (calm : before.Calm after)
    {check : Negotiating → Bool} (among : check ∈ negotiationSignal.checks)
    (fails : check before = false) : check after = false := by
  rw [Bool.eq_false_iff] at fails ⊢
  simp only [negotiationSignal, List.mem_cons, List.not_mem_nil, or_false] at among
  rcases among with rfl | rfl
  · exact fails ∘ calm.1
  · exact fails ∘ calm.2

theorem Negotiating.storeFailure_none_calm (memory : Negotiating) :
    memory.Calm (memory.storeFailure none) := by
  unfold Calm storeFailure
  cases poisoned : memory.poisoned with
  | true => exact ⟨id, id⟩
  | false => exact ⟨id, by simp [hasFailure]⟩

/-- A step that does not lead to a notification lets nobody go. -/
theorem NegotiationTask.calm_of_advance {memory memory' : Negotiating}
    {task task' : NegotiationTask} (moved : advance memory task = some (memory', task')) :
    (notifies task').isSome = true ∨ memory.Calm memory' := by
  cases task with
  | completing | failing _ =>
      obtain ⟨rfl, rfl⟩ := Prod.mk.inj (Option.some.inj moved)
      exact Or.inl rfl
  | rejecting command =>
      simp only [advance] at moved
      split_ifs at moved
      · obtain ⟨rfl, rfl⟩ := Prod.mk.inj (Option.some.inj moved)
        exact Or.inr ⟨id, id⟩
      · obtain ⟨rfl, rfl⟩ := Prod.mk.inj (Option.some.inj moved)
        exact Or.inl rfl
  | closing detail =>
      simp only [advance] at moved
      split_ifs at moved
      · obtain ⟨rfl, rfl⟩ := Prod.mk.inj (Option.some.inj moved)
        exact Or.inr ⟨id, id⟩
      · obtain ⟨rfl, rfl⟩ := Prod.mk.inj (Option.some.inj moved)
        exact Or.inl rfl
  | readingState target detail =>
      simp only [advance] at moved
      split_ifs at moved <;>
        (obtain ⟨rfl, rfl⟩ := Prod.mk.inj (Option.some.inj moved); exact Or.inr ⟨id, id⟩)
  | readingFlag target detail =>
      simp only [advance] at moved
      split_ifs at moved <;>
        (obtain ⟨rfl, rfl⟩ := Prod.mk.inj (Option.some.inj moved); exact Or.inr ⟨id, id⟩)
  | readingRequest _ _ | leaving _ _ _ | arriving | establishing _ =>
      obtain ⟨rfl, rfl⟩ := Prod.mk.inj (Option.some.inj moved)
      exact Or.inr ⟨id, id⟩
  | resetting _ _ | clearingFlag =>
      obtain ⟨rfl, rfl⟩ := Prod.mk.inj (Option.some.inj moved)
      exact Or.inr ⟨Bool.noConfusion, id⟩
  | clearingFailure =>
      obtain ⟨rfl, rfl⟩ := Prod.mk.inj (Option.some.inj moved)
      exact Or.inr memory.storeFailure_none_calm
  | notifying _ | done => exact absurd moved (by simp [advance])

theorem negotiationSignal_announces : negotiationSignal.Announces where
  advance := by
    intro memory memory' task task' _ moved check among fails holds
    rcases NegotiationTask.calm_of_advance moved with notifies | calm
    · exact notifies
    · exact absurd (holds.symm.trans (calm.check among fails)) Bool.noConfusion
  environment := by
    intro memory event check among fails
    refine Negotiating.Calm.check ?_ among fails
    cases event with
    | setState _ | requestDisconnect _ => exact ⟨id, id⟩
    | poison => exact ⟨id, by simp [negotiationSignal, Negotiating.hasFailure]⟩

theorem inboundSignal_announces : inboundSignal.Announces where
  advance := by
    intro inFlight inFlight' task task' _ moved check among fails holds
    obtain rfl := List.mem_singleton.mp among
    simp only [beq_eq_false_iff_ne, beq_iff_eq] at fails holds
    cases task with
    | reading =>
        obtain ⟨rfl, rfl⟩ := Prod.mk.inj (Option.some.inj moved)
        omega
    | handling =>
        obtain ⟨rfl, rfl⟩ := Prod.mk.inj (Option.some.inj moved)
        rw [if_pos (by omega)]
        rfl
    | notifying | dropped => exact absurd moved (by simp [inboundSignal, InboundFrame.advance])
  environment _ event := event.elim

/-- In no run does a waiter sleep while its condition holds and nobody is about to wake it, neither
in `wait_for_negotiation` nor in `wait_inbound_drained`. -/
theorem wakeups_not_lost (memory : Negotiating) (inFlight : Nat)
    {negotiation : Signalled Negotiating NegotiationTask} {inbound : Signalled Nat InboundFrame}
    (negotiated : negotiationSignal.system.Reaches System.always (.initial memory) negotiation)
    (drained : inboundSignal.system.Reaches System.always (.initial inFlight) inbound) :
    ¬ negotiationSignal.Overslept negotiation ∧ ¬ inboundSignal.Overslept inbound := by
  refine ⟨?_, ?_⟩
  · exact negotiationSignal_announces.not_overslept negotiated
  · exact inboundSignal_announces.not_overslept drained

/-- A waiter of a new client asks, looks and falls asleep; CONNECT_ACK is stored, and the waiters
are not woken yet. -/
def sleptAtAck : List (SignalMove NegotiationCall NegotiationEvent) :=
  [.wait] ++ List.replicate 7 (.waiter 0) ++ [.call .acknowledged, .advance 0]

/-- A waiter falls asleep while a frame is in flight; the guard of the frame has subtracted itself,
and the waiters are not woken yet. -/
def sleptAtFrame : List (SignalMove Unit Empty) :=
  [.call (), .advance 0, .wait] ++ List.replicate 3 (.waiter 0) ++ [.advance 0]

/-- Both waiters sleep while their conditions hold, and both are about to be woken. -/
theorem wakeups_not_lost_asleep :
    ∃ negotiation inbound,
      negotiationSignal.system.Reaches System.always (.initial .new) negotiation ∧
      inboundSignal.system.Reaches System.always (.initial 0) inbound ∧
      (.parked 0 ∈ negotiation.waiters ∧ negotiationSignal.Holds negotiation.memory) ∧
      (.parked 0 ∈ inbound.waiters ∧ inboundSignal.Holds inbound.memory) ∧
      ¬ negotiationSignal.Overslept negotiation ∧ ¬ inboundSignal.Overslept inbound := by
  have ranAck : (negotiationSignal.system.run (.initial .new) sleptAtAck).any (fun pool =>
      pool.waiters.contains (.parked 0) && pool.memory.negotiationCompleted) = true := by decide
  have ranFrame : (inboundSignal.system.run (.initial 0) sleptAtFrame).any (fun pool =>
      pool.waiters.contains (.parked 0) && pool.memory == 0) = true := by decide
  obtain ⟨negotiation, negotiated, asleep⟩ :=
    System.exists_reaches_of_run ranAck (System.permits_always _ _)
  obtain ⟨inbound, drained, alsoAsleep⟩ :=
    System.exists_reaches_of_run ranFrame (System.permits_always _ _)
  simp only [Bool.and_eq_true, List.contains_iff_mem, beq_iff_eq] at asleep alsoAsleep
  refine ⟨negotiation, inbound, negotiated, drained, ⟨asleep.1, ?_⟩, ⟨alsoAsleep.1, ?_⟩,
    wakeups_not_lost .new 0 negotiated drained⟩
  · exact ⟨Negotiating.negotiationCompleted, List.mem_cons_self, asleep.2⟩
  · exact ⟨(· == 0), List.mem_cons_self, by simp [alsoAsleep.2]⟩

end FlareCore.Client
