import FlareCore.Common.HeartbeatConfig
import FlareCore.Foundations.Transition
import Mathlib.Data.Finset.Option

/-!
# The heartbeat

The loop of a heartbeat manager sends a PING at every tick and at every probe, and closes the
connection when a PING goes unanswered.  It keeps two moments only, that of a PING and that of the
last PONG.  A tick records its PING unless an earlier one is still unanswered, and a probe records
its own in any case; both do so before they send.

`HeartbeatHistory` has all PINGs and PONGs that were recorded.  At the head of the loop the recorded
PING is the earliest that is unanswered (`EarliestUnanswered`), so the two moments decide what the
history would (`unansweredPingTimedOut_iff`).  A close is justified by a PING whose send has
completed (`heartbeat_closes_justified`), but the time is counted from its start, and a probe goes
by the timeout that was configured when its wait began; `heartbeat_closes_early` has a run for
each.

Moments and durations count nanoseconds.
-/

namespace FlareCore.Client

open FlareCore.Common FlareCore.Foundations

set_option autoImplicit false

/-! ## The two moments -/

/-- The wait for the answer to a probe is no longer than this. -/
def probeTimeout : Nat :=
  durationOfSecs 8

def heartbeatTimeoutReason : String :=
  "heartbeat timeout: no PONG"

def heartbeatSendFailedReason : String :=
  "heartbeat send failed"

def pongCoversPing (lastPong : Option Nat) (pingTime : Nat) : Bool :=
  lastPong.any fun pongTime => decide (pingTime ≤ pongTime)

def unansweredPingTimedOut (lastPing lastPong : Option Nat) (timeout now : Nat) : Bool :=
  match lastPing with
  | none => false
  | some pingTime =>
      if pongCoversPing lastPong pingTime then false else decide (timeout < now - pingTime)

def recordPingStartIfIdle (lastPing lastPong : Option Nat) (now : Nat) : Option Nat :=
  match lastPing with
  | none => some now
  | some pingTime => if pongCoversPing lastPong pingTime then some now else some pingTime

/-! ## The manager and its loop -/

/-- The policy and its lock, which an update that panics poisons. -/
structure SharedHeartbeatConfig where
  config : HeartbeatConfig
  isPoisoned : Bool
  deriving DecidableEq, Repr

namespace SharedHeartbeatConfig

def readConfig (shared : SharedHeartbeatConfig) : HeartbeatConfig :=
  if shared.isPoisoned then .default else shared.config

/-- An update gives no policy when it panics. -/
def updateConfig (shared : SharedHeartbeatConfig)
    (update : HeartbeatConfig → Option HeartbeatConfig) : SharedHeartbeatConfig :=
  if shared.isPoisoned then shared
  else match update shared.config with
    | some updated => ⟨updated, false⟩
    | none => ⟨shared.config, true⟩

end SharedHeartbeatConfig

/-- What the loop waits for: at its head, for a tick, a probe or the stop; for the parser; for the
PING that was started at `pingAt` to be sent; for the end of a probe's window; for the connection,
to close it. -/
inductive HeartbeatStage where
  | selecting (enteredAt sleepDuration : Nat)
  | serializing (probing : Bool)
  | sending (probing : Bool) (pingAt : Nat)
  | awaitingPong (pingAt sentAt probeWindow : Nat)
  | closing (reason : String)
  | ended
  deriving DecidableEq, Repr

/-- A heartbeat manager and its loop.  `now` is the monotonic clock, `probeWake` the permit that a
notification leaves, and `isStopping` says that the stop has been sent. -/
structure HeartbeatManager where
  now : Nat
  config : SharedHeartbeatConfig
  lastPing : Option Nat
  lastPong : Option Nat
  probeWake : Bool
  isStopping : Bool
  stage : HeartbeatStage
  deriving DecidableEq, Repr

/-- What the loop does next, with the outcome of what it waited for, or what happens beside it. -/
inductive HeartbeatEvent where
  | tick
  | probe
  | stopped
  | serialized (succeeded : Bool)
  | sent (succeeded : Bool)
  | windowOver
  | closed
  | recordPong
  | updateConfig (update : HeartbeatConfig → Option HeartbeatConfig)
  | notifyProbe
  | stop

/-- An event and when it happens. -/
structure HeartbeatMove where
  time : Nat
  event : HeartbeatEvent

namespace HeartbeatManager

/-- To the head of the loop, where the next interval is read. -/
def toHead (manager : HeartbeatManager) : HeartbeatManager :=
  { manager with stage := .selecting manager.now manager.config.readConfig.effectiveInterval }

/-- The loop of a manager is started. -/
def started (config : SharedHeartbeatConfig) (now : Nat) : HeartbeatManager :=
  toHead ⟨now, config, none, none, false, false, .ended⟩

/-- A tick and a probe begin in the same way. -/
def checkUnanswered (manager : HeartbeatManager) (probing : Bool) : HeartbeatManager :=
  if unansweredPingTimedOut manager.lastPing manager.lastPong manager.config.readConfig.timeout
      manager.now then
    { manager with stage := .closing heartbeatTimeoutReason }
  else
    { manager with stage := .serializing probing }

def tick (manager : HeartbeatManager) : Option HeartbeatManager :=
  match manager.stage with
  | .selecting enteredAt sleepDuration =>
      if enteredAt + sleepDuration ≤ manager.now then some (manager.checkUnanswered false) else none
  | _ => none

def probe (manager : HeartbeatManager) : Option HeartbeatManager :=
  match manager.stage with
  | .selecting _ _ =>
      if manager.probeWake then some ({ manager with probeWake := false }.checkUnanswered true)
      else none
  | _ => none

def stopped (manager : HeartbeatManager) : Option HeartbeatManager :=
  match manager.stage with
  | .selecting _ _ => if manager.isStopping then some { manager with stage := .ended } else none
  | _ => none

/-- A PING that cannot be serialized is given up.  Otherwise it is recorded: by a tick if no earlier
one is unanswered, by a probe in any case. -/
def serialized (manager : HeartbeatManager) (succeeded : Bool) : Option HeartbeatManager :=
  match manager.stage with
  | .serializing probing =>
      some <|
        if !succeeded then manager.toHead
        else if probing then
          { manager with lastPing := some manager.now, stage := .sending true manager.now }
        else
          { manager with
            lastPing := recordPingStartIfIdle manager.lastPing manager.lastPong manager.now
            stage := .sending false manager.now }
  | _ => none

def sent (manager : HeartbeatManager) (succeeded : Bool) : Option HeartbeatManager :=
  match manager.stage with
  | .sending probing pingAt =>
      some <|
        if !succeeded then { manager with stage := .closing heartbeatSendFailedReason }
        else if probing then
          { manager with
            stage := .awaitingPong pingAt manager.now
              (min manager.config.readConfig.timeout probeTimeout) }
        else manager.toHead
  | _ => none

def windowOver (manager : HeartbeatManager) : Option HeartbeatManager :=
  match manager.stage with
  | .awaitingPong pingAt sentAt probeWindow =>
      if sentAt + probeWindow ≤ manager.now then
        some <|
          if !pongCoversPing manager.lastPong pingAt then
            { manager with stage := .closing heartbeatTimeoutReason }
          else manager.toHead
      else none
  | _ => none

def closed (manager : HeartbeatManager) : Option HeartbeatManager :=
  match manager.stage with
  | .closing _ => some { manager with stage := .ended }
  | _ => none

def recordPong (manager : HeartbeatManager) : HeartbeatManager :=
  { manager with lastPong := some manager.now }

/-- What an event does at the present moment. -/
def handle (manager : HeartbeatManager) : HeartbeatEvent → Option HeartbeatManager
  | .tick => manager.tick
  | .probe => manager.probe
  | .stopped => manager.stopped
  | .serialized succeeded => manager.serialized succeeded
  | .sent succeeded => manager.sent succeeded
  | .windowOver => manager.windowOver
  | .closed => manager.closed
  | .recordPong => some manager.recordPong
  | .updateConfig update => some { manager with config := manager.config.updateConfig update }
  | .notifyProbe => some { manager with probeWake := true }
  | .stop => some { manager with isStopping := true }

/-- The clock does not go back. -/
def step (manager : HeartbeatManager) (move : HeartbeatMove) : Option HeartbeatManager :=
  if manager.now ≤ move.time then { manager with now := move.time }.handle move.event else none

end HeartbeatManager

/-! ## The history -/

/-- A PING whose send has completed, with the timeout that was configured then. -/
structure SentPing where
  startedAt : Nat
  sentAt : Nat
  timeout : Nat
  deriving DecidableEq, Repr

/-- All PINGs and PONGs that were recorded, and all PINGs that were sent. -/
structure HeartbeatHistory where
  recorded : Finset Nat
  pongs : Finset Nat
  sent : List SentPing

namespace HeartbeatHistory

def empty : HeartbeatHistory :=
  ⟨∅, ∅, []⟩

/-- No PONG has been recorded since a PING. -/
def Unanswered (history : HeartbeatHistory) (ping : Nat) : Prop :=
  ∀ pong ∈ history.pongs, pong < ping

/-- The send of a PING has completed. -/
def WasSent (history : HeartbeatHistory) (ping : Nat) : Prop :=
  ∃ sent ∈ history.sent, sent.startedAt = ping

/-- The PING whose send a step completes. -/
def completedBy (manager : HeartbeatManager) (move : HeartbeatMove) : List SentPing :=
  match manager.stage, move.event with
  | .sending _ pingAt, .sent true => [⟨pingAt, move.time, manager.config.readConfig.timeout⟩]
  | _, _ => []

/-- The PINGs and PONGs that were recorded are the values the two moments have had. -/
def record (before : HeartbeatManager) (move : HeartbeatMove) (after : HeartbeatManager)
    (history : HeartbeatHistory) : HeartbeatHistory where
  recorded := after.lastPing.toFinset ∪ history.recorded
  pongs := after.lastPong.toFinset ∪ history.pongs
  sent := completedBy before move ++ history.sent

end HeartbeatHistory

/-- The manager with its history. -/
def heartbeatSystem : System (HeartbeatManager × HeartbeatHistory) HeartbeatMove :=
  System.recording ⟨HeartbeatManager.step⟩ HeartbeatHistory.record

/-! ## The two moments and the history -/

/-- The recorded PING is the earliest of those that are unanswered, if there are any. -/
def EarliestUnanswered (lastPing : Option Nat) (history : HeartbeatHistory) : Prop :=
  ∀ ping ∈ history.recorded, history.Unanswered ping →
    ∃ last ∈ lastPing, history.Unanswered last ∧ last ≤ ping

/-- The recorded PING is the latest. -/
def LatestRecorded (lastPing : Option Nat) (history : HeartbeatHistory) (pingAt : Nat) : Prop :=
  lastPing = some pingAt ∧ ∀ ping ∈ history.recorded, ping ≤ pingAt

/-- Both moments are in the history, all of which is past, and the last PONG answers what has been
answered. -/
structure Remembers (manager : HeartbeatManager) (history : HeartbeatHistory) : Prop where
  recorded_past : ∀ ping ∈ history.recorded, ping ≤ manager.now
  pongs_past : ∀ pong ∈ history.pongs, pong ≤ manager.now
  lastPing_recorded : ∀ ping ∈ manager.lastPing, ping ∈ history.recorded
  lastPong_recorded : ∀ pong ∈ manager.lastPong, pong ∈ history.pongs
  unanswered_iff : ∀ ping,
    history.Unanswered ping ↔ pongCoversPing manager.lastPong ping = false

/-- What the loop knows of the recorded PING, by where it stands. -/
def Knows (lastPing : Option Nat) (history : HeartbeatHistory) : HeartbeatStage → Prop
  | .selecting _ _ | .serializing _ =>
      EarliestUnanswered lastPing history ∧ ∀ ping ∈ lastPing, history.WasSent ping
  | .sending false pingAt =>
      EarliestUnanswered lastPing history ∧
        ∀ ping ∈ lastPing, ping = pingAt ∨ history.WasSent ping
  | .sending true pingAt => LatestRecorded lastPing history pingAt
  | .awaitingPong pingAt sentAt probeWindow =>
      LatestRecorded lastPing history pingAt ∧ ∃ sent ∈ history.sent, sent.startedAt = pingAt ∧
        sent.sentAt = sentAt ∧ probeWindow = min sent.timeout probeTimeout
  | .closing _ | .ended => True

section

variable {manager after : HeartbeatManager} {history : HeartbeatHistory}

theorem pongCoversPing_eq_false {lastPong : Option Nat} {pingTime : Nat} :
    pongCoversPing lastPong pingTime = false ↔ ∀ pong ∈ lastPong, pong < pingTime := by
  cases lastPong with
  | none => exact ⟨fun _ pong member => absurd member (Option.not_mem_none pong), fun _ => rfl⟩
  | some pongTime => simp [pongCoversPing]

theorem unansweredPingTimedOut_eq_true {lastPing lastPong : Option Nat} {timeout now : Nat} :
    unansweredPingTimedOut lastPing lastPong timeout now = true ↔
      ∃ ping ∈ lastPing, pongCoversPing lastPong ping = false ∧ timeout < now - ping := by
  cases lastPing with
  | none => simp [unansweredPingTimedOut]
  | some pingTime =>
      cases covered : pongCoversPing lastPong pingTime <;>
        simp [unansweredPingTimedOut, covered]

/-- **At the head of the loop the two moments decide what the history would**: some PING has been
unanswered for longer than the timeout. -/
theorem unansweredPingTimedOut_iff (remembers : Remembers manager history)
    (earliest : EarliestUnanswered manager.lastPing history) (timeout now : Nat) :
    unansweredPingTimedOut manager.lastPing manager.lastPong timeout now = true ↔
      ∃ ping ∈ history.recorded, history.Unanswered ping ∧ timeout < now - ping := by
  rw [unansweredPingTimedOut_eq_true]
  constructor
  · rintro ⟨ping, isLast, uncovered, late⟩
    refine ⟨ping, remembers.lastPing_recorded ping isLast, ?_, late⟩
    exact (remembers.unanswered_iff ping).mpr uncovered
  · rintro ⟨ping, recorded, unanswered, late⟩
    obtain ⟨last, isLast, lastUnanswered, earlier⟩ := earliest ping recorded unanswered
    refine ⟨last, isLast, (remembers.unanswered_iff last).mp lastUnanswered, ?_⟩
    omega

/-- When a PONG covers the latest PING, none is unanswered. -/
theorem LatestRecorded.answered {pingAt : Nat}
    (latest : LatestRecorded manager.lastPing history pingAt)
    (remembers : Remembers manager history)
    (covered : pongCoversPing manager.lastPong pingAt = true) :
    ∀ ping ∈ history.recorded, ¬ history.Unanswered ping := by
  intro ping recorded unanswered
  obtain ⟨pong, isLast, covers⟩ := (Option.any_eq_true _ _).mp covered
  have before := unanswered pong (remembers.lastPong_recorded pong isLast)
  have after := latest.2 ping recorded
  have covers := of_decide_eq_true covers
  omega

end

/-! ## One step -/

/-- The steps, with what has been found out when they are taken. -/
inductive HeartbeatStep (manager : HeartbeatManager) :
    HeartbeatEvent → HeartbeatManager → Prop where
  | timedOut {event : HeartbeatEvent} (enteredAt sleepDuration : Nat) (probeWake : Bool)
      (head : manager.stage = .selecting enteredAt sleepDuration)
      (late : unansweredPingTimedOut manager.lastPing manager.lastPong
        manager.config.readConfig.timeout manager.now = true) :
      HeartbeatStep manager event
        { manager with probeWake := probeWake, stage := .closing heartbeatTimeoutReason }
  | goesOn {event : HeartbeatEvent} (enteredAt sleepDuration : Nat) (probeWake probing : Bool)
      (head : manager.stage = .selecting enteredAt sleepDuration)
      (inTime : unansweredPingTimedOut manager.lastPing manager.lastPong
        manager.config.readConfig.timeout manager.now = false) :
      HeartbeatStep manager event
        { manager with probeWake := probeWake, stage := .serializing probing }
  | stopped (enteredAt sleepDuration : Nat)
      (head : manager.stage = .selecting enteredAt sleepDuration) :
      HeartbeatStep manager .stopped { manager with stage := .ended }
  | unserialized (probing : Bool) (waits : manager.stage = .serializing probing) :
      HeartbeatStep manager (.serialized false) manager.toHead
  | pinged (waits : manager.stage = .serializing false) :
      HeartbeatStep manager (.serialized true)
        { manager with
          lastPing := recordPingStartIfIdle manager.lastPing manager.lastPong manager.now
          stage := .sending false manager.now }
  | probed (waits : manager.stage = .serializing true) :
      HeartbeatStep manager (.serialized true)
        { manager with lastPing := some manager.now, stage := .sending true manager.now }
  | unsent (probing : Bool) (pingAt : Nat) (waits : manager.stage = .sending probing pingAt) :
      HeartbeatStep manager (.sent false)
        { manager with stage := .closing heartbeatSendFailedReason }
  | pingSent (pingAt : Nat) (waits : manager.stage = .sending false pingAt) :
      HeartbeatStep manager (.sent true) manager.toHead
  | probeSent (pingAt : Nat) (waits : manager.stage = .sending true pingAt) :
      HeartbeatStep manager (.sent true)
        { manager with
          stage := .awaitingPong pingAt manager.now
            (min manager.config.readConfig.timeout probeTimeout) }
  | unanswered (pingAt sentAt probeWindow : Nat)
      (waits : manager.stage = .awaitingPong pingAt sentAt probeWindow)
      (isOver : sentAt + probeWindow ≤ manager.now)
      (uncovered : pongCoversPing manager.lastPong pingAt = false) :
      HeartbeatStep manager .windowOver { manager with stage := .closing heartbeatTimeoutReason }
  | answered (pingAt sentAt probeWindow : Nat)
      (waits : manager.stage = .awaitingPong pingAt sentAt probeWindow)
      (covered : pongCoversPing manager.lastPong pingAt = true) :
      HeartbeatStep manager .windowOver manager.toHead
  | closed (reason : String) (waits : manager.stage = .closing reason) :
      HeartbeatStep manager .closed { manager with stage := .ended }
  | recordPong : HeartbeatStep manager .recordPong manager.recordPong
  | updateConfig (update : HeartbeatConfig → Option HeartbeatConfig) :
      HeartbeatStep manager (.updateConfig update)
        { manager with config := manager.config.updateConfig update }
  | notifyProbe : HeartbeatStep manager .notifyProbe { manager with probeWake := true }
  | stop : HeartbeatStep manager .stop { manager with isStopping := true }

section

variable {manager after : HeartbeatManager} {history : HeartbeatHistory}

theorem heartbeatStep_of_check {event : HeartbeatEvent} {enteredAt sleepDuration : Nat}
    (head : manager.stage = .selecting enteredAt sleepDuration) (probeWake probing : Bool) :
    HeartbeatStep manager event
      ({ manager with probeWake := probeWake }.checkUnanswered probing) := by
  rw [HeartbeatManager.checkUnanswered]
  split
  · next late => exact .timedOut enteredAt sleepDuration probeWake head late
  · next inTime =>
      exact .goesOn enteredAt sleepDuration probeWake probing head (Bool.eq_false_iff.mpr inTime)

/-- **Inversion of a step.** -/
theorem heartbeatStep_of_handle {event : HeartbeatEvent}
    (handled : manager.handle event = some after) : HeartbeatStep manager event after := by
  cases event with
  | tick =>
      rw [HeartbeatManager.handle, HeartbeatManager.tick] at handled
      split at handled
      · next enteredAt sleepDuration head =>
          obtain ⟨-, taken⟩ := Option.ite_none_right_eq_some.mp handled
          obtain rfl := Option.some.inj taken
          exact heartbeatStep_of_check head manager.probeWake false
      · exact absurd handled (Option.some_ne_none after).symm
  | probe =>
      rw [HeartbeatManager.handle, HeartbeatManager.probe] at handled
      split at handled
      · next enteredAt sleepDuration head =>
          obtain ⟨-, taken⟩ := Option.ite_none_right_eq_some.mp handled
          obtain rfl := Option.some.inj taken
          exact heartbeatStep_of_check head false true
      · exact absurd handled (Option.some_ne_none after).symm
  | stopped =>
      rw [HeartbeatManager.handle, HeartbeatManager.stopped] at handled
      split at handled
      · next enteredAt sleepDuration head =>
          obtain ⟨-, taken⟩ := Option.ite_none_right_eq_some.mp handled
          obtain rfl := Option.some.inj taken
          exact .stopped enteredAt sleepDuration head
      · exact absurd handled (Option.some_ne_none after).symm
  | serialized succeeded =>
      rw [HeartbeatManager.handle, HeartbeatManager.serialized] at handled
      split at handled
      · next probing waits =>
          obtain rfl := Option.some.inj handled
          cases succeeded with
          | false => exact .unserialized probing waits
          | true =>
              cases probing with
              | false => exact .pinged waits
              | true => exact .probed waits
      · exact absurd handled (Option.some_ne_none after).symm
  | sent succeeded =>
      rw [HeartbeatManager.handle, HeartbeatManager.sent] at handled
      split at handled
      · next probing pingAt waits =>
          obtain rfl := Option.some.inj handled
          cases succeeded with
          | false => exact .unsent probing pingAt waits
          | true =>
              cases probing with
              | false => exact .pingSent pingAt waits
              | true => exact .probeSent pingAt waits
      · exact absurd handled (Option.some_ne_none after).symm
  | windowOver =>
      rw [HeartbeatManager.handle, HeartbeatManager.windowOver] at handled
      split at handled
      · next pingAt sentAt probeWindow waits =>
          obtain ⟨isOver, taken⟩ := Option.ite_none_right_eq_some.mp handled
          obtain rfl := Option.some.inj taken
          cases covered : pongCoversPing manager.lastPong pingAt with
          | false => exact .unanswered pingAt sentAt probeWindow waits isOver covered
          | true => exact .answered pingAt sentAt probeWindow waits covered
      · exact absurd handled (Option.some_ne_none after).symm
  | closed =>
      rw [HeartbeatManager.handle, HeartbeatManager.closed] at handled
      split at handled
      · next reason waits =>
          obtain rfl := Option.some.inj handled
          exact .closed reason waits
      · exact absurd handled (Option.some_ne_none after).symm
  | recordPong =>
      obtain rfl := Option.some.inj handled
      exact .recordPong
  | updateConfig update =>
      obtain rfl := Option.some.inj handled
      exact .updateConfig update
  | notifyProbe =>
      obtain rfl := Option.some.inj handled
      exact .notifyProbe
  | stop =>
      obtain rfl := Option.some.inj handled
      exact .stop

/-! ### The moments -/

/-- A moment is kept or set to the present one. -/
def KeptOrNow (before after : Option Nat) (now : Nat) : Prop :=
  after = before ∨ after = some now

/-- The start of a PING is recorded unless the one that is recorded is still uncovered. -/
theorem recordPingStartIfIdle_cases (lastPing lastPong : Option Nat) (now : Nat) :
    recordPingStartIfIdle lastPing lastPong now = lastPing ∨
      (∀ pingTime ∈ lastPing, pongCoversPing lastPong pingTime = true) ∧
        recordPingStartIfIdle lastPing lastPong now = some now := by
  cases lastPing with
  | none => exact .inr ⟨fun pingTime isLast => absurd isLast (Option.not_mem_none pingTime), rfl⟩
  | some pingTime =>
      rw [recordPingStartIfIdle]
      split
      · next covered =>
          refine .inr ⟨fun last isLast => ?_, rfl⟩
          obtain rfl := Option.some.inj isLast
          exact covered
      · exact .inl rfl

theorem HeartbeatStep.moments {event : HeartbeatEvent} (step : HeartbeatStep manager event after) :
    KeptOrNow manager.lastPing after.lastPing manager.now ∧
      KeptOrNow manager.lastPong after.lastPong manager.now ∧ after.now = manager.now := by
  cases step with
  | pinged => exact ⟨(recordPingStartIfIdle_cases _ _ _).imp id And.right, .inl rfl, rfl⟩
  | probed => exact ⟨.inr rfl, .inl rfl, rfl⟩
  | recordPong => exact ⟨.inl rfl, .inr rfl, rfl⟩
  | _ => exact ⟨.inl rfl, .inl rfl, rfl⟩

/-- What a moment can be after a step is past, and was recorded or is the present. -/
theorem mem_union_of_keptOrNow {before after : Option Nat} {now : Nat} {values : Finset Nat}
    (kept : KeptOrNow before after now) (recorded : ∀ value ∈ before, value ∈ values) {value : Nat}
    (member : value ∈ after.toFinset ∪ values) : value ∈ values ∨ value = now := by
  rcases Finset.mem_union.mp member with isNew | old
  · have isNew := Option.mem_toFinset.mp isNew
    rcases kept with rfl | rfl
    · exact .inl (recorded value isNew)
    · exact .inr (Option.some.inj isNew).symm
  · exact .inl old

theorem Remembers.wait (remembers : Remembers manager history) {time : Nat}
    (later : manager.now ≤ time) : Remembers { manager with now := time } history where
  recorded_past ping recorded := Nat.le_trans (remembers.recorded_past ping recorded) later
  pongs_past pong recorded := Nat.le_trans (remembers.pongs_past pong recorded) later
  lastPing_recorded := remembers.lastPing_recorded
  lastPong_recorded := remembers.lastPong_recorded
  unanswered_iff := remembers.unanswered_iff

/-- The history follows the moments. -/
theorem Remembers.record (remembers : Remembers manager history) {event : HeartbeatEvent}
    (step : HeartbeatStep manager event after) (before : HeartbeatManager) (move : HeartbeatMove) :
    Remembers after (history.record before move after) := by
  obtain ⟨ping, pong, now⟩ := step.moments
  refine ⟨fun value member => ?_, fun value member => ?_, fun value member => ?_,
    fun value member => ?_, fun value => ?_⟩
  · rw [now]
    rcases mem_union_of_keptOrNow ping remembers.lastPing_recorded member with old | rfl
    · exact remembers.recorded_past value old
    · exact Nat.le_refl _
  · rw [now]
    rcases mem_union_of_keptOrNow pong remembers.lastPong_recorded member with old | rfl
    · exact remembers.pongs_past value old
    · exact Nat.le_refl _
  · exact Finset.mem_union_left _ (Option.mem_toFinset.mpr member)
  · exact Finset.mem_union_left _ (Option.mem_toFinset.mpr member)
  · rw [pongCoversPing_eq_false]
    constructor
    · intro unanswered last isLast
      exact unanswered last (Finset.mem_union_left _ (Option.mem_toFinset.mpr isLast))
    · intro uncovered answer member
      rcases Finset.mem_union.mp member with isLast | old
      · exact uncovered answer (Option.mem_toFinset.mp isLast)
      · rcases pong with same | isNow
        · rw [same, ← pongCoversPing_eq_false] at uncovered
          exact (remembers.unanswered_iff value).mpr uncovered answer old
        · have past := remembers.pongs_past answer old
          have uncovered := uncovered manager.now isNow
          omega

/-! ### What the loop knows -/

theorem union_of_kept {moment : Option Nat} {values : Finset Nat}
    (recorded : ∀ value ∈ moment, value ∈ values) : moment.toFinset ∪ values = values := by
  refine Finset.union_eq_right.mpr fun value member => ?_
  exact recorded value (Option.mem_toFinset.mp member)

/-- A step that keeps the moments and completes no send leaves the history as it is. -/
theorem Knows.keep {move : HeartbeatMove} (remembers : Remembers manager history)
    (ping : after.lastPing = manager.lastPing) (pong : after.lastPong = manager.lastPong)
    (completed : HeartbeatHistory.completedBy manager move = [])
    (knows : Knows manager.lastPing history after.stage) :
    Knows after.lastPing (history.record manager move after) after.stage := by
  rw [HeartbeatHistory.record, ping, pong, completed, List.nil_append,
    union_of_kept remembers.lastPing_recorded, union_of_kept remembers.lastPong_recorded]
  exact knows

/-- When nothing is unanswered, whatever PING is recorded may count as the earliest. -/
theorem earliestUnanswered_of_answered {lastPing : Option Nat}
    (answered : ∀ ping ∈ history.recorded, ¬ history.Unanswered ping) :
    EarliestUnanswered lastPing history :=
  fun ping recorded unanswered => absurd unanswered (answered ping recorded)

theorem completedBy_eq_nil {before : HeartbeatManager} {move : HeartbeatMove}
    (other : ∀ probing pingAt, before.stage = .sending probing pingAt → move.event ≠ .sent true) :
    HeartbeatHistory.completedBy before move = [] := by
  rw [HeartbeatHistory.completedBy]
  split
  · next probing pingAt waits isSent => exact absurd isSent (other probing pingAt waits)
  · rfl

/-- A step that keeps the moments and completes a send adds its PING to those that were sent. -/
theorem Knows.complete {probing : Bool} {pingAt : Nat} (remembers : Remembers manager history)
    (waits : manager.stage = .sending probing pingAt) (ping : after.lastPing = manager.lastPing)
    (pong : after.lastPong = manager.lastPong)
    (knows : Knows manager.lastPing { history with
      sent := ⟨pingAt, manager.now, manager.config.readConfig.timeout⟩ :: history.sent }
      after.stage) :
    Knows after.lastPing (history.record manager ⟨manager.now, .sent true⟩ after) after.stage := by
  rw [HeartbeatHistory.record, HeartbeatHistory.completedBy, waits, ping, pong,
    union_of_kept remembers.lastPing_recorded, union_of_kept remembers.lastPong_recorded]
  exact knows

/-- A PONG answers every PING so far. -/
theorem Knows.recordPong {lastPing : Option Nat} {later : HeartbeatHistory} {stage : HeartbeatStage}
    (knows : Knows lastPing history stage) (recorded : later.recorded = history.recorded)
    (sent : later.sent = history.sent)
    (answered : ∀ ping ∈ later.recorded, ¬ later.Unanswered ping) :
    Knows lastPing later stage := by
  have earliest : EarliestUnanswered lastPing later := earliestUnanswered_of_answered answered
  have wasSent : later.WasSent = history.WasSent := by
    funext ping
    rw [HeartbeatHistory.WasSent, sent, HeartbeatHistory.WasSent]
  cases stage with
  | selecting enteredAt sleepDuration => exact ⟨earliest, wasSent ▸ knows.2⟩
  | serializing probing => exact ⟨earliest, wasSent ▸ knows.2⟩
  | sending probing pingAt =>
      cases probing with
      | false => exact ⟨earliest, wasSent ▸ knows.2⟩
      | true => exact ⟨knows.1, recorded ▸ knows.2⟩
  | awaitingPong pingAt sentAt probeWindow =>
      exact ⟨⟨knows.1.1, recorded ▸ knows.1.2⟩, sent ▸ knows.2⟩
  | closing reason => trivial
  | ended => trivial

/-- A tick starts a PING: it is recorded when nothing was unanswered, and is the earliest then. -/
theorem earliestUnanswered_of_pinged {later : HeartbeatHistory} {lastPing : Option Nat}
    (remembers : Remembers manager history)
    (earliest : EarliestUnanswered manager.lastPing history)
    (started : recordPingStartIfIdle manager.lastPing manager.lastPong manager.now = lastPing)
    (recorded : later.recorded = lastPing.toFinset ∪ history.recorded)
    (pongs : later.pongs = history.pongs) : EarliestUnanswered lastPing later := by
  have same : later.Unanswered = history.Unanswered := by
    funext ping
    rw [HeartbeatHistory.Unanswered, pongs, HeartbeatHistory.Unanswered]
  intro ping member unanswered
  rw [same] at unanswered ⊢
  rw [recorded, Finset.mem_union] at member
  rcases recordPingStartIfIdle_cases manager.lastPing manager.lastPong manager.now with
    kept | ⟨covered, isNow⟩
  · obtain rfl := kept.symm.trans started
    rcases member with isLast | old
    · exact ⟨ping, Option.mem_toFinset.mp isLast, unanswered, Nat.le_refl ping⟩
    · exact earliest ping old unanswered
  · obtain rfl := isNow.symm.trans started
    rcases member with isLast | old
    · exact ⟨ping, Option.mem_toFinset.mp isLast, unanswered, Nat.le_refl ping⟩
    · -- the PING that was recorded before is the earliest, so it was unanswered too
      obtain ⟨last, isLast, lastUnanswered, -⟩ := earliest ping old unanswered
      have uncovered := (remembers.unanswered_iff last).mp lastUnanswered
      exact absurd (uncovered.symm.trans (covered last isLast)) Bool.false_ne_true

/-- **What the loop knows is kept** by every step. -/
theorem Knows.step {event : HeartbeatEvent} (remembers : Remembers manager history)
    (knows : Knows manager.lastPing history manager.stage)
    (step : HeartbeatStep manager event after) :
    Knows after.lastPing (history.record manager ⟨manager.now, event⟩ after) after.stage := by
  have remembersAfter := remembers.record step manager ⟨manager.now, event⟩
  cases step with
  | timedOut => trivial
  | goesOn enteredAt sleepDuration probeWake probing head inTime =>
      rw [head] at knows
      refine Knows.keep remembers rfl rfl (completedBy_eq_nil fun _ _ waits => ?_) knows
      exact absurd (head.symm.trans waits) HeartbeatStage.noConfusion
  | stopped => trivial
  | unserialized probing waits =>
      rw [waits] at knows
      refine Knows.keep remembers rfl rfl (completedBy_eq_nil fun _ _ sends => ?_) knows
      exact absurd (waits.symm.trans sends) HeartbeatStage.noConfusion
  | pinged waits =>
      rw [waits] at knows
      refine ⟨earliestUnanswered_of_pinged remembers knows.1 rfl rfl ?_, fun ping isLast => ?_⟩
      · exact union_of_kept remembers.lastPong_recorded
      · rcases recordPingStartIfIdle_cases manager.lastPing manager.lastPong manager.now with
          kept | ⟨-, isNow⟩
        · obtain ⟨sent, member, isPing⟩ := knows.2 ping (kept ▸ isLast)
          exact .inr ⟨sent, List.mem_append_right _ member, isPing⟩
        · exact .inl (Option.some.inj (isNow.symm.trans isLast)).symm
  | probed waits => exact ⟨rfl, fun ping recorded => remembersAfter.recorded_past ping recorded⟩
  | unsent => trivial
  | pingSent pingAt waits =>
      rw [waits] at knows
      refine Knows.complete remembers waits rfl rfl ⟨knows.1, fun ping isLast => ?_⟩
      rcases knows.2 ping isLast with rfl | ⟨sent, member, isPing⟩
      · exact ⟨_, List.mem_cons_self, rfl⟩
      · exact ⟨sent, List.mem_cons_of_mem _ member, isPing⟩
  | probeSent pingAt waits =>
      rw [waits] at knows
      refine Knows.complete remembers waits rfl rfl ⟨knows, ?_⟩
      exact ⟨_, List.mem_cons_self, rfl, rfl, rfl⟩
  | unanswered => trivial
  | answered pingAt sentAt probeWindow waits covered =>
      rw [waits] at knows
      refine Knows.keep remembers rfl rfl (completedBy_eq_nil fun _ _ sends => ?_) ?_
      · exact absurd (waits.symm.trans sends) HeartbeatStage.noConfusion
      · refine ⟨earliestUnanswered_of_answered (knows.1.answered remembers covered), ?_⟩
        intro ping isLast
        obtain rfl := Option.some.inj (knows.1.1.symm.trans isLast)
        obtain ⟨sent, member, isPing, -⟩ := knows.2
        exact ⟨sent, member, isPing⟩
  | closed => trivial
  | recordPong =>
      refine knows.recordPong (union_of_kept remembers.lastPing_recorded) ?_ ?_
      · exact congrArg (· ++ history.sent)
          (completedBy_eq_nil fun _ _ _ isSent => HeartbeatEvent.noConfusion isSent)
      · intro ping recorded unanswered
        have past := remembersAfter.recorded_past ping recorded
        have before := unanswered manager.now (remembersAfter.lastPong_recorded _ rfl)
        exact Nat.not_lt.mpr past before
  | updateConfig update =>
      exact Knows.keep remembers rfl rfl
        (completedBy_eq_nil fun _ _ _ isSent => HeartbeatEvent.noConfusion isSent) knows
  | notifyProbe =>
      exact Knows.keep remembers rfl rfl
        (completedBy_eq_nil fun _ _ _ isSent => HeartbeatEvent.noConfusion isSent) knows
  | stop =>
      exact Knows.keep remembers rfl rfl
        (completedBy_eq_nil fun _ _ _ isSent => HeartbeatEvent.noConfusion isSent) knows

/-! ## Whole runs -/

/-- The invariant of a run. -/
def Follows (state : HeartbeatManager × HeartbeatHistory) : Prop :=
  Remembers state.1 state.2 ∧ Knows state.1.lastPing state.2 state.1.stage

theorem follows_started (config : SharedHeartbeatConfig) (now : Nat) :
    Follows (.started config now, .empty) := by
  refine ⟨⟨?_, ?_, ?_, ?_, fun ping => ?_⟩, ?_, ?_⟩
  · exact fun ping member => absurd member (Finset.notMem_empty ping)
  · exact fun pong member => absurd member (Finset.notMem_empty pong)
  · exact fun ping isLast => absurd isLast (Option.not_mem_none ping)
  · exact fun pong isLast => absurd isLast (Option.not_mem_none pong)
  · exact iff_of_true (fun pong member => absurd member (Finset.notMem_empty pong)) rfl
  · exact fun ping member => absurd member (Finset.notMem_empty ping)
  · exact fun ping isLast => absurd isLast (Option.not_mem_none ping)

/-- A step waits until its moment and is then taken. -/
theorem heartbeatStep_of_step {before : HeartbeatManager} {move : HeartbeatMove}
    (stepped : before.step move = some after) :
    before.now ≤ move.time ∧ HeartbeatStep { before with now := move.time } move.event after := by
  obtain ⟨later, handled⟩ := Option.ite_none_right_eq_some.mp stepped
  exact ⟨later, heartbeatStep_of_handle handled⟩

theorem follows_of_reaches {config : SharedHeartbeatConfig} {now : Nat}
    {state : HeartbeatManager × HeartbeatHistory}
    (reached : heartbeatSystem.Reaches System.always (.started config now, .empty) state) :
    Follows state := by
  apply reached.invariant (follows_started config now)
  rintro ⟨before, history⟩ ⟨after, later⟩ ⟨⟨time, event⟩, -, stepped⟩ ⟨remembers, knows⟩
  obtain ⟨taken, recorded⟩ := System.recording_step_eq_some stepped
  obtain ⟨waited, step⟩ := heartbeatStep_of_step taken
  have waiting := remembers.wait waited
  obtain rfl : later = history.record before ⟨time, event⟩ after := recorded
  exact ⟨waiting.record step before ⟨time, event⟩, Knows.step waiting knows step⟩

/-! ## Closes and their delay -/

/-- The loop is at its head. -/
def HeartbeatStage.isHead : HeartbeatStage → Bool
  | .selecting _ _ => true
  | .serializing _ | .sending _ _ | .awaitingPong _ _ _ | .closing _ | .ended => false

/-- A step by which the loop decides to close the connection since nothing answers. -/
def DecidesToClose (before : HeartbeatManager) (move : HeartbeatMove) : Prop :=
  before.stage ≠ .closing heartbeatTimeoutReason ∧
    ∃ after, before.step move = some after ∧ after.stage = .closing heartbeatTimeoutReason

/-- A PING whose send has completed was started more than the timeout ago, and no PONG has been
recorded since. -/
def JustifiedByTimeout (state : HeartbeatManager × HeartbeatHistory) (time : Nat) : Prop :=
  ∃ sent ∈ state.2.sent, state.2.Unanswered sent.startedAt ∧
    state.1.config.readConfig.timeout < time - sent.startedAt

/-- The send of a PING completed at least as long ago as its answer was to be waited for, and no
PONG has been recorded since it was started. -/
def JustifiedByProbe (state : HeartbeatManager × HeartbeatHistory) (time : Nat) : Prop :=
  ∃ sent ∈ state.2.sent, state.2.Unanswered sent.startedAt ∧
    sent.sentAt + min sent.timeout probeTimeout ≤ time

/-- **A close is justified**: at the head of the loop by the timeout, and after a probe by it. -/
theorem Follows.justified {state : HeartbeatManager × HeartbeatHistory} (follows : Follows state)
    {move : HeartbeatMove} (decides : DecidesToClose state.1 move) :
    if state.1.stage.isHead then JustifiedByTimeout state move.time
    else JustifiedByProbe state move.time := by
  obtain ⟨time, event⟩ := move
  obtain ⟨undecided, after, taken, closing⟩ := decides
  obtain ⟨remembers, knows⟩ := follows
  obtain ⟨waited, step⟩ := heartbeatStep_of_step taken
  cases step with
  | timedOut enteredAt sleepDuration probeWake head late =>
      have head : state.1.stage = .selecting enteredAt sleepDuration := head
      obtain ⟨ping, isLast, uncovered, late⟩ := unansweredPingTimedOut_eq_true.mp late
      rw [head] at knows ⊢
      obtain ⟨sent, member, rfl⟩ := knows.2 ping isLast
      exact ⟨sent, member, (remembers.unanswered_iff _).mpr uncovered, late⟩
  | unanswered pingAt sentAt probeWindow waits isOver uncovered =>
      have waits : state.1.stage = .awaitingPong pingAt sentAt probeWindow := waits
      rw [waits] at knows ⊢
      obtain ⟨-, sent, member, rfl, rfl, rfl⟩ := knows
      exact ⟨sent, member, (remembers.unanswered_iff _).mpr uncovered, isOver⟩
  | unsent => exact absurd (HeartbeatStage.closing.inj closing) (by decide)
  | recordPong => exact absurd closing undecided
  | updateConfig => exact absurd closing undecided
  | notifyProbe => exact absurd closing undecided
  | stop => exact absurd closing undecided
  | _ => exact absurd closing HeartbeatStage.noConfusion

/-- **Nothing delays the detection**: at the head of the loop the recorded PING is the earliest that
is unanswered. -/
theorem Follows.earliest {state : HeartbeatManager × HeartbeatHistory} (follows : Follows state)
    (head : state.1.stage.isHead = true) : EarliestUnanswered state.1.lastPing state.2 := by
  obtain ⟨-, knows⟩ := follows
  cases stage : state.1.stage with
  | selecting enteredAt sleepDuration =>
      rw [stage] at knows
      exact knows.1
  | _ =>
      rw [stage] at head
      exact absurd head Bool.false_ne_true

/-- A tick or a probe closes the connection when some PING has been unanswered for longer than the
timeout. -/
theorem Follows.closes {state : HeartbeatManager × HeartbeatHistory} (follows : Follows state)
    {ping time : Nat} (recorded : ping ∈ state.2.recorded) (unanswered : state.2.Unanswered ping)
    (late : state.1.config.readConfig.timeout < time - ping) {event : HeartbeatEvent}
    (isCheck : event = .tick ∨ event = .probe) {after : HeartbeatManager}
    (taken : state.1.step ⟨time, event⟩ = some after) :
    after.stage = .closing heartbeatTimeoutReason := by
  have inTimeIsLate : ∀ enteredAt sleepDuration,
      state.1.stage = .selecting enteredAt sleepDuration →
        unansweredPingTimedOut state.1.lastPing state.1.lastPong
          state.1.config.readConfig.timeout time ≠ false := by
    intro enteredAt sleepDuration head inTime
    have earliest := follows.earliest (by rw [head]; rfl)
    have timedOut := (unansweredPingTimedOut_iff follows.1 earliest
      state.1.config.readConfig.timeout time).mpr ⟨ping, recorded, unanswered, late⟩
    exact absurd (inTime.symm.trans timedOut) Bool.false_ne_true
  obtain ⟨-, step⟩ := heartbeatStep_of_step taken
  rcases isCheck with rfl | rfl
  · cases step with
    | timedOut => rfl
    | goesOn enteredAt sleepDuration _ _ head inTime =>
        exact absurd inTime (inTimeIsLate enteredAt sleepDuration head)
  · cases step with
    | timedOut => rfl
    | goesOn enteredAt sleepDuration _ _ head inTime =>
        exact absurd inTime (inTimeIsLate enteredAt sleepDuration head)

end

/-- **A close is justified, and nothing delays it.**  The loop decides to close the connection at
its head only if a PING that has been sent was started more than the timeout ago, and after a probe
only if the send of the probe's PING completed as long ago as its answer was to be waited for; no
PONG has been recorded since that PING in either case.  At its head the recorded PING is the
earliest that is unanswered, if there are any, and a tick or a probe closes the connection when one
of them has been for longer than the timeout. -/
theorem heartbeat_closes_justified (config : SharedHeartbeatConfig) (now : Nat)
    {state : HeartbeatManager × HeartbeatHistory}
    (reached : heartbeatSystem.Reaches System.always (.started config now, .empty) state) :
    (∀ move, DecidesToClose state.1 move →
      if state.1.stage.isHead then JustifiedByTimeout state move.time
      else JustifiedByProbe state move.time) ∧
    (state.1.stage.isHead = true → ∀ ping ∈ state.2.recorded, state.2.Unanswered ping →
      (∃ last, state.1.lastPing = some last ∧ last ∈ state.2.recorded ∧ state.2.Unanswered last ∧
        ∀ other ∈ state.2.recorded, state.2.Unanswered other → last ≤ other) ∧
      ∀ time event after, event = .tick ∨ event = .probe →
        state.1.config.readConfig.timeout < time - ping →
          state.1.step ⟨time, event⟩ = some after →
            after.stage = .closing heartbeatTimeoutReason) := by
  have follows := follows_of_reaches reached
  refine ⟨fun move decides => follows.justified decides,
    fun head ping recorded unanswered => ⟨?_, ?_⟩⟩
  · have earliest := follows.earliest head
    obtain ⟨last, isLast, lastUnanswered, -⟩ := earliest ping recorded unanswered
    refine ⟨last, isLast, follows.1.lastPing_recorded last isLast, lastUnanswered, ?_⟩
    intro other otherRecorded otherUnanswered
    obtain ⟨first, isFirst, -, earlier⟩ := earliest other otherRecorded otherUnanswered
    obtain rfl := Option.some.inj (isLast.symm.trans isFirst)
    exact earlier
  · intro time event after isCheck late taken
    exact follows.closes recorded unanswered late isCheck taken

/-! ## Runs -/

/-- A tick of the default policy, whose send blocks until 130 s. -/
def blockedSend : List HeartbeatMove :=
  [⟨durationOfSecs 30, .tick⟩, ⟨durationOfSecs 30, .serialized true⟩,
    ⟨durationOfSecs 130, .sent true⟩, ⟨durationOfSecs 130, .notifyProbe⟩]

/-- A probe is waited for with a timeout of 30 ms, which is set to 90 s in the meantime. -/
def raisedTimeout : List HeartbeatMove :=
  [⟨0, .updateConfig fun config => some { config with timeout := durationOfMillis 30 }⟩,
    ⟨0, .notifyProbe⟩, ⟨0, .probe⟩, ⟨0, .serialized true⟩, ⟨0, .sent true⟩,
    ⟨0, .updateConfig fun config => some { config with timeout := durationOfSecs 90 }⟩]

/-- A loop is started with the default policy. -/
def defaultHeartbeat : HeartbeatManager × HeartbeatHistory :=
  (.started ⟨.default, false⟩ 0, .empty)

/-- While the PING of the first tick is unanswered, a tick that comes later than the timeout
closes. -/
theorem heartbeat_closes_justified_blocked :
    ∃ state, heartbeatSystem.Reaches System.always defaultHeartbeat state ∧
      (∃ last, state.1.lastPing = some last ∧ last ∈ state.2.recorded ∧
        state.2.Unanswered last ∧
          ∀ other ∈ state.2.recorded, state.2.Unanswered other → last ≤ other) ∧
      JustifiedByTimeout state (durationOfSecs 160) := by
  have evaluated : ∃ state, heartbeatSystem.run defaultHeartbeat blockedSend = some state ∧
      state.1.stage.isHead = true ∧ durationOfSecs 30 ∈ state.2.recorded ∧
      state.2.pongs = ∅ ∧ state.1.config.readConfig.timeout = durationOfSecs 90 ∧
      (state.1.step ⟨durationOfSecs 160, .tick⟩).isSome = true := by
    refine ⟨_, rfl, ?_⟩
    decide +kernel
  obtain ⟨state, run, head, recorded, pongs, timeout, ticks⟩ := evaluated
  have reached : heartbeatSystem.Reaches System.always defaultHeartbeat state :=
    System.reaches_of_run run (System.permits_always _ _)
  have unanswered : state.2.Unanswered (durationOfSecs 30) := by
    intro pong member
    rw [pongs] at member
    exact absurd member (Finset.notMem_empty pong)
  obtain ⟨justified, detected⟩ := heartbeat_closes_justified ⟨.default, false⟩ 0 reached
  obtain ⟨earliest, closes⟩ := detected head _ recorded unanswered
  obtain ⟨after, taken⟩ := Option.isSome_iff_exists.mp ticks
  have closing := closes (durationOfSecs 160) .tick after (.inl rfl) (by rw [timeout]; decide) taken
  have isOpen : state.1.stage ≠ .closing heartbeatTimeoutReason := by
    intro isClosing
    rw [isClosing] at head
    exact absurd head Bool.false_ne_true
  have decided := justified ⟨durationOfSecs 160, .tick⟩ ⟨isOpen, after, taken, closing⟩
  rw [head] at decided
  exact ⟨state, reached, earliest, decided⟩

/-- The loop decides to close, though the send of no PING that is unanswered completed as long ago
as the timeout at the decision or the longest wait for a probe. -/
def ClosesEarly (state : HeartbeatManager × HeartbeatHistory) (move : HeartbeatMove) : Prop :=
  DecidesToClose state.1 move ∧ ∀ sent ∈ state.2.sent, state.2.Unanswered sent.startedAt →
    move.time < sent.sentAt + min state.1.config.readConfig.timeout probeTimeout

theorem closesEarly_of_sent {state : HeartbeatManager × HeartbeatHistory} {move : HeartbeatMove}
    {sent : SentPing} (undecided : state.1.stage ≠ .closing heartbeatTimeoutReason)
    (closes : (state.1.step move).map HeartbeatManager.stage =
      some (.closing heartbeatTimeoutReason))
    (only : state.2.sent = [sent])
    (early : move.time < sent.sentAt + min state.1.config.readConfig.timeout probeTimeout) :
    ClosesEarly state move := by
  refine ⟨⟨undecided, Option.map_eq_some_iff.mp closes⟩, fun other member _ => ?_⟩
  rw [only] at member
  obtain rfl := List.mem_singleton.mp member
  exact early

/-- **The loop closes early**: right after a send that was blocked for longer than the timeout, and
after a probe whose timeout was raised while it was waited for. -/
theorem heartbeat_closes_early :
    (∃ state move, heartbeatSystem.Reaches System.always defaultHeartbeat state ∧
      state.1.stage.isHead = true ∧ ClosesEarly state move) ∧
    ∃ state move, heartbeatSystem.Reaches System.always defaultHeartbeat state ∧
      state.1.stage.isHead = false ∧ ClosesEarly state move := by
  constructor
  · have evaluated : ∃ state, heartbeatSystem.run defaultHeartbeat blockedSend = some state ∧
        state.1.stage.isHead = true ∧ state.1.stage ≠ .closing heartbeatTimeoutReason ∧
        (state.1.step ⟨durationOfSecs 130, .probe⟩).map HeartbeatManager.stage =
          some (.closing heartbeatTimeoutReason) ∧
        state.2.sent = [⟨durationOfSecs 30, durationOfSecs 130, durationOfSecs 90⟩] ∧
        state.1.config.readConfig.timeout = durationOfSecs 90 := by
      refine ⟨_, rfl, ?_⟩
      decide +kernel
    obtain ⟨state, run, head, undecided, closes, only, timeout⟩ := evaluated
    refine ⟨state, ⟨durationOfSecs 130, .probe⟩,
      System.reaches_of_run run (System.permits_always _ _), head,
      closesEarly_of_sent undecided closes only ?_⟩
    rw [timeout]
    decide
  · have evaluated : ∃ state, heartbeatSystem.run defaultHeartbeat raisedTimeout = some state ∧
        state.1.stage.isHead = false ∧ state.1.stage ≠ .closing heartbeatTimeoutReason ∧
        (state.1.step ⟨durationOfMillis 30, .windowOver⟩).map HeartbeatManager.stage =
          some (.closing heartbeatTimeoutReason) ∧
        state.2.sent = [⟨0, 0, durationOfMillis 30⟩] ∧
        state.1.config.readConfig.timeout = durationOfSecs 90 := by
      refine ⟨_, rfl, ?_⟩
      decide +kernel
    obtain ⟨state, run, waits, undecided, closes, only, timeout⟩ := evaluated
    refine ⟨state, ⟨durationOfMillis 30, .windowOver⟩,
      System.reaches_of_run run (System.permits_always _ _), waits,
      closesEarly_of_sent undecided closes only ?_⟩
    rw [timeout]
    decide

end FlareCore.Client
