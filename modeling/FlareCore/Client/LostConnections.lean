import FlareCore.Client.Manager

/-!
# Lost connections

A reconnect loop connects again when the client is not connected and the state manager of the
connection manager says so.  The client reports that by itself; the state manager is written by the
calls and the loops of the manager only.  When a connection is lost nobody tells it, and after a
successful connect it goes on to say that the client is connected (`lost_unnoticed`).

`ClientConnectionManager.Noticed` are the steps after which the two agree.  In a run of such steps a
lost connection is always noticed, and a loop that runs makes an attempt
(`lost_connection_needs_reconnect`).
-/

namespace FlareCore.Client

open FlareCore.Foundations

set_option autoImplicit false

/-! ## Losing a connection -/

/-- The stages between the announcement of a connect and its result. -/
def LoopStage.isConnecting : LoopStage → Bool
  | .connecting | .inFlight | .succeeded | .failed => true
  | .checking | .rechecking | .announcing | .clearingFlag | .clearingHandle | .finished => false

/-- A call of `disconnect` that has not returned. -/
def ManagerCall.isDisconnect : ManagerCall → Bool
  | .stopping | .clearing | .leaving | .closing => true
  | .entering | .spawning | .storing _ | .queued | .opening | .returned => false

namespace ClientConnectionManager

/-- A connect is in progress. -/
def isConnecting (manager : ClientConnectionManager) : Bool :=
  manager.calls.contains .opening || manager.loops.any (·.stage.isConnecting)

/-- A disconnect is requested. -/
def isDisconnecting (manager : ClientConnectionManager) : Bool :=
  manager.calls.any ManagerCall.isDisconnect

/-- Whether the last connection has been lost without a requested disconnect. -/
def recordLoss (before : ClientConnectionManager) (move : ManagerMove)
    (_ : ClientConnectionManager) (lost : Bool) : Bool :=
  match move with
  | .link true | .disconnect => false
  | .link false => if before.isConnected then !before.isDisconnecting else lost
  | .startAutoReconnect | .connect | .call _ _ | .wake _ | .park _ | .advance _ _ | .reap _ => lost

/-- The manager and whether its last connection has been lost. -/
def lossSystem (limit : Option UInt32) : System (ClientConnectionManager × Bool) ManagerMove :=
  (managerSystem limit).recording recordLoss

/-- Another connect than that of a loop is in progress. -/
def isConnectingBeside (manager : ClientConnectionManager) (index : Nat) : Bool :=
  manager.calls.contains .opening ||
    (manager.loops.eraseIdx index).any (·.stage.isConnecting)

/-- The step leaves the state manager right about a lost connection: a connection is lost while the
state manager says that there is none, or during a connect; a connect succeeds while the client is
connected; and a loop that has been aborted is not dropped within a connect after a loss, unless the
state manager or another connect is right about it. -/
def Noticed (state : ClientConnectionManager × Bool) (move : ManagerMove) : Prop :=
  match move with
  | .link false => state.1.isConnected = true → state.1.isDisconnecting = false →
      state.1.stateManager = .disconnected ∨ state.1.isConnecting = true
  | .call index true => state.1.calls[index]? = some .opening → state.1.isConnected = true
  | .advance index _ => ∀ loop ∈ state.1.loops[index]?, loop.stage = .succeeded →
      state.1.isConnected = true
  | .reap index => state.2 = true → ∀ loop ∈ state.1.loops[index]?,
      loop.stage.isConnecting = true → state.1.stateManager = .disconnected ∨
        state.1.isConnectingBeside index = true
  | .startAutoReconnect | .disconnect | .connect | .link true | .call _ false | .wake _ | .park _ =>
      True

instance (state : ClientConnectionManager × Bool) (move : ManagerMove) :
    Decidable (Noticed state move) :=
  match move with
  | .link false => inferInstanceAs (Decidable (_ → _ → _ ∨ _))
  | .call _ true => inferInstanceAs (Decidable (_ → _))
  | .advance index _ => inferInstanceAs (Decidable (∀ loop ∈ state.1.loops[index]?, _ → _))
  | .reap index => inferInstanceAs (Decidable (_ → ∀ loop ∈ state.1.loops[index]?, _ → _ ∨ _))
  | .startAutoReconnect | .disconnect | .connect | .link true | .call _ false | .wake _ | .park _ =>
      isTrue trivial

/-! ## The invariant -/

/-- A connection that has been lost is not there, and the state manager says so, or will when the
connect in progress ends. -/
def Agrees (state : ClientConnectionManager × Bool) : Prop :=
  state.2 = true → state.1.isConnected = false ∧
    (state.1.stateManager = .disconnected ∨ state.1.isConnecting = true)

section

variable {limit : Option UInt32} {before after : ClientConnectionManager} {lost : Bool}

theorem isConnecting_eq_true_iff {manager : ClientConnectionManager} :
    manager.isConnecting = true ↔ .opening ∈ manager.calls ∨
      ∃ loop ∈ manager.loops, loop.stage.isConnecting = true := by
  rw [isConnecting, Bool.or_eq_true, List.contains_iff_mem, List.any_eq_true]

theorem Agrees.keep (agrees : Agrees (before, lost))
    (isConnected : after.isConnected = before.isConnected)
    (stateManager : after.stateManager = before.stateManager)
    (connecting : before.isConnecting = true → after.isConnecting = true) :
    Agrees (after, lost) := by
  intro isLost
  obtain ⟨gone, noticed⟩ := agrees isLost
  refine ⟨isConnected.trans gone, ?_⟩
  rcases noticed with disconnected | before
  · exact .inl (stateManager.trans disconnected)
  · exact .inr (connecting before)

/-- The state manager is told, or a connect is started. -/
theorem Agrees.become (agrees : Agrees (before, lost))
    (isConnected : after.isConnected = before.isConnected)
    (noticed : after.stateManager = .disconnected ∨ after.isConnecting = true) :
    Agrees (after, lost) :=
  fun isLost => ⟨isConnected.trans (agrees isLost).1, noticed⟩

/-- A success that the client confirms. -/
theorem Agrees.confirm (agrees : Agrees (before, lost)) (isConnected : before.isConnected = true) :
    Agrees (after, lost) :=
  fun isLost => absurd ((agrees isLost).1.symm.trans isConnected) Bool.false_ne_true

theorem mem_set_of_mem {α : Type} {elements : List α} {index : Nat} {element replaced : α}
    (member : element ∈ elements) (found : elements[index]? = some replaced)
    (other : replaced ≠ element) (next : α) : element ∈ elements.set index next := by
  obtain ⟨position, isThere⟩ := List.mem_iff_getElem?.mp member
  refine List.mem_iff_getElem?.mpr ⟨position, ?_⟩
  rw [List.getElem?_set_ne, isThere]
  rintro rfl
  exact other (Option.some.inj (found.symm.trans isThere))

/-- A loop that is connecting goes on to do so. -/
theorem isConnecting_setLoop {index : Nat} {loop next : ReconnectLoop}
    (found : before.loops[index]? = some loop) (calls : after.calls = before.calls)
    (loops : after.loops = before.loops.set index next)
    (kept : loop.stage.isConnecting = true → next.stage.isConnecting = true)
    (connecting : before.isConnecting = true) : after.isConnecting = true := by
  rw [isConnecting_eq_true_iff, calls, loops]
  rcases isConnecting_eq_true_iff.mp connecting with opening | ⟨other, member, isConnecting⟩
  · exact .inl opening
  · right
    by_cases same : loop = other
    · subst same
      have inRange := (List.getElem?_eq_some_iff.mp found).1
      exact ⟨next, List.mem_set inRange next, kept isConnecting⟩
    · exact ⟨other, mem_set_of_mem member found same next, isConnecting⟩

theorem Agrees.rescheduled (agrees : Agrees (before, lost)) {index : Nat}
    {may : ReconnectLoop → Bool} {change : ReconnectLoop → ReconnectLoop}
    (scheduled : before.schedule index may change = some after)
    (stage : ∀ loop, (change loop).stage = loop.stage) : Agrees (after, lost) := by
  obtain ⟨loop, found, -, rfl⟩ := exists_of_schedule scheduled
  refine agrees.keep rfl rfl (isConnecting_setLoop found rfl rfl ?_)
  rw [stage]
  exact id

/-- A call comes in. -/
theorem Agrees.enter (agrees : Agrees (before, lost)) (call : ManagerCall) :
    Agrees (before.enter call, lost) := by
  refine agrees.keep rfl rfl fun connecting => ?_
  rw [isConnecting_eq_true_iff] at connecting ⊢
  rcases connecting with opening | isLoop
  · exact .inl (List.mem_append_left [call] opening)
  · exact .inr isLoop

/-- A step of a call other than the end of a connect. -/
theorem isConnecting_setCall {index : Nat} {call next : ManagerCall}
    (found : before.calls[index]? = some call) (unopened : call ≠ .opening)
    (calls : after.calls = before.calls.set index next)
    (loops : ∀ loop ∈ before.loops, loop.stage.isConnecting = true →
      ∃ later ∈ after.loops, later.stage.isConnecting = true)
    (connecting : before.isConnecting = true) : after.isConnecting = true := by
  rw [isConnecting_eq_true_iff, calls]
  rcases isConnecting_eq_true_iff.mp connecting with opening | ⟨loop, member, isConnecting⟩
  · exact .inl (mem_set_of_mem opening found unopened next)
  · exact .inr (loops loop member isConnecting)

/-- An abort changes the stage of no loop. -/
theorem abortHandle_connecting (manager : ClientConnectionManager) {loop : ReconnectLoop}
    (member : loop ∈ manager.loops) (connecting : loop.stage.isConnecting = true) :
    ∃ later ∈ manager.abortHandle.loops, later.stage.isConnecting = true := by
  unfold abortHandle
  cases manager.reconnectHandle with
  | none => exact ⟨loop, member, connecting⟩
  | some stored =>
      obtain ⟨position, isThere⟩ := List.mem_iff_getElem?.mp member
      have modified : (manager.loops.modify stored .abort)[position]? =
          some (if stored = position then loop.abort else loop) := by
        rw [List.getElem?_modify, isThere]
        split_ifs <;> rfl
      refine ⟨_, List.mem_iff_getElem?.mpr ⟨position, modified⟩, ?_⟩
      split_ifs <;> exact connecting

theorem abortHandle_client (manager : ClientConnectionManager) :
    manager.abortHandle.isConnected = manager.isConnected ∧
      manager.abortHandle.stateManager = manager.stateManager := by
  unfold abortHandle
  cases manager.reconnectHandle <;> exact ⟨rfl, rfl⟩

/-- A step of a call. -/
theorem Agrees.call (agrees : Agrees (before, lost)) {index : Nat} {call next : ManagerCall}
    {succeeded : Bool} (found : before.calls[index]? = some call)
    (noticed : Noticed (before, lost) (.call index succeeded))
    (stepped : before.callStep succeeded call = some (after, next)) :
    Agrees ({ after with calls := before.calls.set index next }, lost) := by
  have inRange := (List.getElem?_eq_some_iff.mp found).1
  have same : ∀ loop ∈ before.loops, loop.stage.isConnecting = true →
      ∃ later ∈ before.loops, later.stage.isConnecting = true :=
    fun loop member connecting => ⟨loop, member, connecting⟩
  cases call with
  | entering =>
      simp only [callStep] at stepped
      split_ifs at stepped <;>
      · obtain ⟨rfl, rfl⟩ := Prod.mk.inj (Option.some.inj stepped)
        exact agrees.keep rfl rfl (isConnecting_setCall found (by decide) rfl same)
  | spawning =>
      obtain ⟨rfl, rfl⟩ := Prod.mk.inj (Option.some.inj stepped)
      refine agrees.keep rfl rfl (isConnecting_setCall found (by decide) rfl ?_)
      exact fun loop member connecting => ⟨loop, List.mem_append_left _ member, connecting⟩
  | storing stored =>
      simp only [callStep, Option.ite_none_left_eq_some] at stepped
      obtain ⟨rfl, rfl⟩ := Prod.mk.inj (Option.some.inj stepped.2)
      exact agrees.keep rfl rfl (isConnecting_setCall found ManagerCall.noConfusion rfl same)
  | stopping =>
      simp only [callStep, Option.ite_none_left_eq_some] at stepped
      obtain ⟨rfl, rfl⟩ := Prod.mk.inj (Option.some.inj stepped.2)
      obtain ⟨isConnected, stateManager⟩ := before.abortHandle_client
      refine agrees.keep isConnected stateManager
        (isConnecting_setCall found (by decide) rfl ?_)
      exact fun loop member connecting => before.abortHandle_connecting member connecting
  | clearing =>
      obtain ⟨rfl, rfl⟩ := Prod.mk.inj (Option.some.inj stepped)
      exact agrees.keep rfl rfl (isConnecting_setCall found (by decide) rfl same)
  | leaving =>
      simp only [callStep, Option.ite_none_left_eq_some] at stepped
      obtain ⟨rfl, rfl⟩ := Prod.mk.inj (Option.some.inj stepped.2)
      exact agrees.keep rfl rfl (isConnecting_setCall found (by decide) rfl same)
  | closing =>
      obtain ⟨rfl, rfl⟩ := Prod.mk.inj (Option.some.inj stepped)
      exact agrees.become rfl (.inl rfl)
  | queued =>
      simp only [callStep] at stepped
      split_ifs at stepped
      · obtain ⟨rfl, rfl⟩ := Prod.mk.inj (Option.some.inj stepped)
        exact agrees.keep rfl rfl (isConnecting_setCall found (by decide) rfl same)
      · obtain ⟨rfl, rfl⟩ := Prod.mk.inj (Option.some.inj stepped)
        refine agrees.become rfl (.inr ?_)
        exact isConnecting_eq_true_iff.mpr (.inl (List.mem_set inRange _))
  | opening =>
      obtain ⟨rfl, rfl⟩ := Prod.mk.inj (Option.some.inj stepped)
      cases succeeded with
      | true => exact agrees.confirm (noticed found)
      | false => exact agrees.become rfl (.inl rfl)
  | returned => exact absurd stepped (by simp [callStep])

/-- A step of a loop. -/
theorem Agrees.advance (agrees : Agrees (before, lost)) {index : Nat} {loop : ReconnectLoop}
    {succeeded : Bool} (found : before.loops[index]? = some loop)
    (noticed : Noticed (before, lost) (.advance index succeeded)) :
    Agrees ({ (before.loopStep limit loop succeeded).1 with
      loops := before.loops.set index (before.loopStep limit loop succeeded).2 }, lost) := by
  have inRange := (List.getElem?_eq_some_iff.mp found).1
  have kept : ∀ {manager : ClientConnectionManager} {next : ReconnectLoop},
      manager.isConnected = before.isConnected → manager.stateManager = before.stateManager →
      manager.calls = before.calls → manager.loops = before.loops.set index next →
      (loop.stage.isConnecting = true → next.stage.isConnecting = true) →
        Agrees (manager, lost) :=
    fun isConnected stateManager calls loops stages =>
      agrees.keep isConnected stateManager (isConnecting_setLoop found calls loops stages)
  unfold loopStep
  cases stage : loop.stage with
  | checking | rechecking | clearingHandle =>
      dsimp only
      have idle : loop.stage.isConnecting = false := congrArg LoopStage.isConnecting stage
      split_ifs <;> exact kept rfl rfl rfl rfl fun connecting =>
        absurd (idle.symm.trans connecting) Bool.false_ne_true
  | clearingFlag | finished =>
      have idle : loop.stage.isConnecting = false := congrArg LoopStage.isConnecting stage
      exact kept rfl rfl rfl rfl fun connecting =>
        absurd (idle.symm.trans connecting) Bool.false_ne_true
  | announcing =>
      refine agrees.become rfl (.inr (isConnecting_eq_true_iff.mpr (.inr ?_)))
      exact ⟨_, List.mem_set inRange _, rfl⟩
  | connecting =>
      dsimp only
      split_ifs
      · exact kept rfl rfl rfl rfl fun connecting => connecting
      · exact kept rfl rfl rfl rfl fun _ => rfl
  | inFlight =>
      refine kept rfl rfl rfl rfl fun _ => ?_
      cases succeeded <;> rfl
  | succeeded => exact agrees.confirm (noticed loop found stage)
  | failed => exact agrees.become rfl (.inl rfl)

/-- The connection comes up or is lost. -/
theorem Agrees.link (agrees : Agrees (before, lost)) (up : Bool)
    (noticed : Noticed (before, lost) (.link up)) :
    Agrees ({ before with isConnected := up }, recordLoss before (.link up) after lost) := by
  cases up with
  | true => exact fun isLost => absurd isLost Bool.false_ne_true
  | false =>
      intro isLost
      refine ⟨rfl, ?_⟩
      by_cases connected : before.isConnected = true
      · simp only [recordLoss, connected, if_true, Bool.not_eq_true'] at isLost
        exact noticed connected isLost
      · simp only [recordLoss, connected] at isLost
        exact (agrees isLost).2

/-- A task that was aborted is dropped. -/
theorem Agrees.reap (agrees : Agrees (before, lost)) {index : Nat}
    (noticed : Noticed (before, lost) (.reap index))
    (stepped : before.step limit (.reap index) = some after) : Agrees (after, lost) := by
  obtain ⟨loop, found, -, rfl⟩ := exists_of_schedule stepped
  have inRange := (List.getElem?_eq_some_iff.mp found).1
  by_cases connecting : loop.stage.isConnecting = true
  · intro isLost
    refine agrees.become rfl ?_ isLost
    rcases noticed isLost loop found connecting with disconnected | beside
    · exact .inl disconnected
    · refine .inr (isConnecting_eq_true_iff.mpr ?_)
      rw [isConnectingBeside, Bool.or_eq_true, List.contains_iff_mem, List.any_eq_true] at beside
      rcases beside with opening | ⟨other, member, isConnecting⟩
      · exact .inl opening
      · obtain ⟨position, apart, isThere⟩ := List.mem_eraseIdx_iff_getElem?.mp member
        refine .inr ⟨other, List.mem_iff_getElem?.mpr ⟨position, ?_⟩, isConnecting⟩
        rw [List.getElem?_set_ne apart.symm, isThere]
  · exact agrees.keep rfl rfl
      (isConnecting_setLoop found rfl rfl fun isConnecting => absurd isConnecting connecting)

theorem Agrees.step {state later : ClientConnectionManager × Bool} {move : ManagerMove}
    (agrees : Agrees state) (noticed : Noticed state move)
    (stepped : (lossSystem limit).step state move = some later) : Agrees later := by
  obtain ⟨before, lost⟩ := state
  obtain ⟨after, record⟩ := later
  obtain ⟨taken, recorded⟩ := System.recording_step_eq_some stepped
  change before.step limit move = some after at taken
  change record = recordLoss before move after lost at recorded
  subst recorded
  cases move with
  | startAutoReconnect | connect =>
      obtain rfl := Option.some.inj taken
      exact agrees.enter _
  | disconnect => exact fun isLost => absurd isLost Bool.false_ne_true
  | call index succeeded =>
      simp only [ClientConnectionManager.step] at taken
      cases found : before.calls[index]? with
      | none => simp [found] at taken
      | some call =>
          simp only [found] at taken
          obtain ⟨⟨manager, next⟩, progress, rfl⟩ := Option.map_eq_some_iff.mp taken
          exact agrees.call found noticed progress
  | wake index => exact agrees.rescheduled taken fun _ => rfl
  | park index => exact agrees.rescheduled taken fun _ => rfl
  | advance index succeeded =>
      simp only [ClientConnectionManager.step] at taken
      cases found : before.loops[index]? with
      | none => simp [found] at taken
      | some loop =>
          simp only [found, Option.ite_none_right_eq_some] at taken
          obtain rfl := Option.some.inj taken.2
          exact agrees.advance found noticed
  | reap index => exact agrees.reap noticed taken
  | link up =>
      obtain rfl := Option.some.inj taken
      exact agrees.link up noticed

theorem agrees_of_reaches {isConnected : Bool} {state : ClientConnectionManager × Bool}
    (reached : (lossSystem limit).Reaches Noticed (.new isConnected, false) state) :
    Agrees state := by
  apply reached.invariant (fun isLost => absurd isLost Bool.false_ne_true)
  rintro before after ⟨move, noticed, stepped⟩ agrees
  exact agrees.step noticed stepped

/-! ## An attempt -/

/-- The loop checks the connection, sleeps, checks again, announces a connect and starts it. -/
def attemptMoves (index : Nat) : List ManagerMove :=
  [.advance index true, .wake index, .advance index true, .advance index true, .advance index true]

theorem advance_eq {manager : ClientConnectionManager} {index : Nat} {loop : ReconnectLoop}
    (found : manager.loops[index]? = some loop) (polled : loop.polled = true) (succeeded : Bool) :
    manager.step limit (.advance index succeeded) =
      some { (manager.loopStep limit loop succeeded).1 with
        loops := manager.loops.set index (manager.loopStep limit loop succeeded).2 } := by
  simp only [ClientConnectionManager.step, found, polled, if_true]

/-- A loop that is not in its connect does not lock the client. -/
theorem clientLocked_set {manager : ClientConnectionManager} (free : manager.clientLocked = false)
    {next : ReconnectLoop} (outside : next.stage ≠ .inFlight) (index : Nat)
    (stateManager : ConnectionState) :
    clientLocked { manager with
      stateManager := stateManager, loops := manager.loops.set index next } = false := by
  rw [clientLocked, Bool.or_eq_false_iff] at free ⊢
  refine ⟨free.1, List.any_eq_false.mpr fun loop member => ?_⟩
  rcases List.mem_or_eq_of_mem_set member with earlier | rfl
  · exact List.any_eq_false.mp free.2 loop earlier
  · simpa using outside

/-- **A loop that runs makes an attempt** when one is needed, the client is free and the limit is
not reached. -/
theorem attempt_of_needsReconnect {manager : ClientConnectionManager} {index : Nat}
    {loop : ReconnectLoop} (found : manager.loops[index]? = some loop)
    (checking : loop.stage = .checking) (polled : loop.polled = true)
    (unaborted : loop.aborted = false) (needed : manager.needsReconnect = true)
    (free : manager.clientLocked = false)
    (within : limit.any (· ≤ loop.attempt) = false) :
    ∃ later, (managerSystem limit).run manager (attemptMoves index) = some later ∧
      later.attempts = manager.attempts + 1 := by
  have inRange := (List.getElem?_eq_some_iff.mp found).1
  let asleep : ReconnectLoop := ⟨.rechecking, loop.attempt + 1, false, false⟩
  let awake : ReconnectLoop := { asleep with polled := true }
  let state (stateManager : ConnectionState) (next : ReconnectLoop) : ClientConnectionManager :=
    { manager with stateManager := stateManager, loops := manager.loops.set index next }
  have there : ∀ stateManager next, (state stateManager next).loops[index]? = some next :=
    fun _ _ => List.getElem?_set_self inRange
  have disconnected : manager.stateManager = .disconnected := by
    simp only [needsReconnect, Bool.and_eq_true, decide_eq_true_eq] at needed
    exact needed.2
  have sleeps : manager.step limit (.advance index true) = some (state .disconnected asleep) := by
    rw [advance_eq found polled]
    simp only [loopStep, checking, free, needed, within, ReconnectLoop.go, ReconnectLoop.park,
      unaborted, Bool.false_eq_true, if_false, if_true, state, asleep, ← disconnected]
  have wakes : (state .disconnected asleep).step limit (.wake index) =
      some (state .disconnected awake) := by
    simp only [ClientConnectionManager.step, schedule, there]
    simp [state, asleep, awake]
  have rechecks : (state .disconnected awake).step limit (.advance index true) =
      some (state .disconnected (awake.go .announcing)) := by
    have stillNeeded : (state .disconnected awake).needsReconnect = true := by
      simp only [needsReconnect, disconnected] at needed
      exact needed
    have stillFree : (state .disconnected awake).clientLocked = false :=
      clientLocked_set free LoopStage.noConfusion index _
    rw [advance_eq (there _ _) rfl]
    simp [loopStep, awake, asleep, stillNeeded, stillFree, ReconnectLoop.go]
    simp [state, List.set_set]
  have announces : (state .disconnected (awake.go .announcing)).step limit
      (.advance index true) = some (state .connecting (awake.go .connecting)) := by
    rw [advance_eq (there _ _) rfl]
    simp [loopStep, awake, asleep, state, List.set_set, ReconnectLoop.go]
  have connects : (state .connecting (awake.go .connecting)).step limit (.advance index true) =
      some { state .connecting (awake.go .inFlight) with attempts := manager.attempts + 1 } := by
    have stillFree : (state .connecting (awake.go .connecting)).clientLocked = false :=
      clientLocked_set free LoopStage.noConfusion index _
    have stage : (awake.go .connecting).stage = .connecting := rfl
    rw [advance_eq (there _ _) rfl]
    simp only [loopStep, stage, stillFree, Bool.false_eq_true, if_false]
    simp [state, List.set_set, ReconnectLoop.go]
  refine ⟨{ state .connecting (awake.go .inFlight) with attempts := manager.attempts + 1 }, ?_, rfl⟩
  simp only [attemptMoves, System.run, managerSystem, sleeps, wakes, rechecks, announces,
    Option.bind_some]
  rw [connects, Option.bind_some]

end

/-- A loop is started, and a connect beside it. -/
def loopAndConnect : List ManagerMove :=
  [.startAutoReconnect, .call 0 true, .call 0 true, .call 0 true, .connect, .call 1 true]

end ClientConnectionManager

open ClientConnectionManager

/-- **A lost connection is noticed, and made up for.**  In a run whose steps leave the state manager
right about losses, when the last connection has been lost and no connect is in progress, one is
needed; and a loop that is about to check makes an attempt. -/
theorem lost_connection_needs_reconnect (limit : Option UInt32) (isConnected : Bool)
    {state : ClientConnectionManager × Bool}
    (reached : (lossSystem limit).Reaches Noticed (.new isConnected, false) state)
    (lost : state.2 = true) (idle : state.1.isConnecting = false) :
    state.1.needsReconnect = true ∧
      ∀ index loop, state.1.loops[index]? = some loop → loop.stage = .checking →
        loop.polled = true → loop.aborted = false → state.1.clientLocked = false →
          limit.any (· ≤ loop.attempt) = false →
            ∃ later, (managerSystem limit).run state.1 (attemptMoves index) = some later ∧
              later.attempts = state.1.attempts + 1 := by
  obtain ⟨gone, noticed⟩ := agrees_of_reaches reached lost
  have disconnected : state.1.stateManager = .disconnected := by
    rcases noticed with disconnected | connecting
    · exact disconnected
    · exact absurd (idle.symm.trans connecting) Bool.false_ne_true
  have needed : state.1.needsReconnect = true := by
    rw [needsReconnect, gone, disconnected]
    rfl
  refine ⟨needed, fun index loop found checking polled unaborted free within => ?_⟩
  exact attempt_of_needsReconnect found checking polled unaborted needed free within

/-- A connection is lost before its connect has returned, which then fails; the loop is polled. -/
theorem lost_connection_needs_reconnect_connecting :
    ∃ state, (lossSystem none).Reaches Noticed (.new false, false) state ∧
      state.1.needsReconnect = true ∧ ∃ later,
        (managerSystem none).run state.1 (attemptMoves 0) = some later ∧
          later.attempts = state.1.attempts + 1 := by
  have evaluated : ∃ state, (lossSystem none).run (.new false, false)
        (loopAndConnect ++ [.link true, .link false, .call 1 false, .wake 0]) = some state ∧
      state.2 = true ∧ state.1.isConnecting = false ∧
      state.1.loops = [⟨.checking, 0, true, false⟩] ∧ state.1.clientLocked = false := by
    refine ⟨_, rfl, ?_⟩
    decide +kernel
  obtain ⟨state, run, lost, idle, loops, free⟩ := evaluated
  have reached : (lossSystem none).Reaches Noticed (.new false, false) state :=
    System.reaches_of_run run (by decide +kernel)
  obtain ⟨needed, attempts⟩ := lost_connection_needs_reconnect none false reached lost idle
  refine ⟨state, reached, needed, attempts 0 ⟨.checking, 0, true, false⟩ ?_ rfl rfl rfl free rfl⟩
  rw [loops]
  rfl

/-- **A connection that is lost after a successful connect is not noticed**: the state manager goes
on to say that the client is connected, no connect is needed, and the loop goes back to sleep. -/
theorem lost_unnoticed :
    ∃ state, (lossSystem none).Reaches System.always (.new false, false) state ∧
      (state.2 = true ∧ state.1.isConnecting = false ∧ state.1.needsReconnect = false ∧
        state.1.loops = [⟨.checking, 0, true, false⟩] ∧
        (state.1.step none (.advance 0 true)).map ClientConnectionManager.loops =
          some [⟨.checking, 0, false, false⟩]) := by
  have evaluated : ∃ state, (lossSystem none).run (.new false, false)
        (loopAndConnect ++ [.link true, .call 1 true, .link false, .wake 0]) = some state ∧
      (state.2 = true ∧ state.1.isConnecting = false ∧ state.1.needsReconnect = false ∧
        state.1.loops = [⟨.checking, 0, true, false⟩] ∧
        (state.1.step none (.advance 0 true)).map ClientConnectionManager.loops =
          some [⟨.checking, 0, false, false⟩]) := by
    refine ⟨_, rfl, ?_⟩
    decide +kernel
  obtain ⟨state, run, unnoticed⟩ := evaluated
  exact ⟨state, System.reaches_of_run run (System.permits_always _ _), unnoticed⟩

end FlareCore.Client
