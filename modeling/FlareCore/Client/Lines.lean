import FlareCore.Client.Session

/-!
# One open connection

A client refers to its connection in two places, its own and the slot of the core, and a call
that is setting one up refers to it as well.  An open connection that carries the observer is
to be in one of these places, since that is where `connect` and `disconnect` find it to close
it; then there is at most one, and none after `disconnect`.

The places are overwritten without closing what was there when a WebSocket client dials, when a
connection is set up, when CONNECT cannot be sent, when the client disconnects, and when a
handler takes the connection out of the slot.  A connection that nothing else refers to is
closed by that; one that a handler or a heartbeat loop still holds stays open.
-/

namespace FlareCore.Client

open FlareCore.Common FlareCore.Server FlareCore.Foundations

set_option autoImplicit false

/-! ## Open lines, and who refers to them -/

/-- The tasks that take the connection out of the slot of the core. -/
def Task.takesConnection : Task → Bool
  | frame ⟨_, _, _, .kicked _ _⟩ => true
  | frame ⟨_, _, negotiated, .closing _ _⟩ => negotiated
  | _ => false

def Call.isDisconnect : Call → Bool
  | disconnect => true
  | connect | send _ | sendAndWait _ | renew _ => false

def Move.isWork : Move → Bool
  | work _ _ => true
  | call _ | submit _ _ | send _ _ | operate _ | read _ _ | handOver _ => false

namespace ClientState

variable (setting : ClientSetting) (state : ClientState)

/-- A line that is open and carries the observer of the client. -/
def isOpen (line : Nat) : Bool :=
  state.isLive line && state.isAttached line

/-- The line of the call that has the client. -/
def callLine : Option Nat :=
  state.operation.bind fun operation => operation.stage.line

/-- A line that the client itself refers to. -/
def Owned (line : Nat) : Prop :=
  state.connection = some line ∨ state.core.clientConnection = some line ∨
    state.callLine = some line

/-- A line that a task holds on to. -/
def isRetained (line : Nat) : Bool :=
  state.tasks.any fun task => task.line = some line

variable [RustText]

/-- The line to which a call gives up its reference without closing it. -/
def abandons (operation : Operation) (answer : Answer) : Option Nat :=
  match operation.stage with
  | .dialing =>
      if answer.succeeds ∧ setting.protocol = .webSocket then
        state.connection.filter fun line => state.core.clientConnection ≠ some line
      else none
  | .settingUp line => state.core.clientConnection.filter (· ≠ line)
  | .greeting line =>
      if (state.transmit setting line (state.connectData setting) answer).toOption.isSome ∨
          state.connection = some line ∨ state.core.clientConnection = some line then none
      else some line
  | _ => none

/-- The line to which a step gives up the last reference of the client without closing it. -/
def releases : Move → Option Nat
  | .call .disconnect => state.core.clientConnection.filter fun line => state.connection ≠ some line
  | .operate answer => state.operation.bind fun operation => state.abandons setting operation answer
  | .work index _ =>
      if state.tasks[index]?.any Task.takesConnection then
        state.core.clientConnection.filter fun line =>
          state.connection ≠ some line && state.callLine ≠ some line
      else none
  | _ => none

/-- A step leaks a line if it gives up an open one that a task holds on to, as does the handler
that takes it out of the slot. -/
def leaks (move : Move) : Bool :=
  (state.releases setting move).any fun line =>
    state.isOpen line && (move.isWork || state.isRetained line)

end ClientState

/-- A step leaks nothing. -/
def NothingLeaks [RustText] (setting : ClientSetting) (state : ClientState) (move : Move) : Prop :=
  state.leaks setting move = false

instance [RustText] (setting : ClientSetting) (state : ClientState) (move : Move) :
    Decidable (NothingLeaks setting state move) :=
  inferInstanceAs (Decidable (_ = _))

/-! ## Lines are opened by `dial` and `watch` only -/

/-- No line opens, and none gets the observer. -/
structure Recedes (before after : ClientState) : Prop where
  live : ∀ line, after.isLive line = true → before.isLive line = true
  attached : ∀ line, after.isAttached line = true → before.isAttached line = true

namespace Recedes

variable {first second third : ClientState}

@[refl]
theorem refl (state : ClientState) : Recedes state state :=
  ⟨fun _ => id, fun _ => id⟩

theorem of_lines_eq (same : second.lines = first.lines) : Recedes first second where
  live line := by
    unfold ClientState.isLive
    rw [same]
    exact id
  attached line := by
    unfold ClientState.isAttached
    rw [same]
    exact id

theorem after (right : Recedes second third) (left : Recedes first second) :
    Recedes first third :=
  ⟨fun line live => left.live line (right.live line live),
    fun line attached => left.attached line (right.attached line attached)⟩

/-- A line that is changed stays closed, and without the observer, if it was. -/
theorem of_modify {line : Nat} {change : Line → Line}
    (changed : second.lines = first.lines.modify line change)
    (live : ∀ line, (change line).live = true → line.live = true)
    (attached : ∀ line, (change line).attached = true → line.attached = true) :
    Recedes first second where
  live index := by
    simp only [ClientState.isLive, changed, List.getElem?_modify, Option.any_eq_true]
    rintro ⟨current, found, isLive⟩
    obtain ⟨earlier, isEarlier, rfl⟩ := Option.map_eq_some_iff.mp found
    refine ⟨earlier, isEarlier, ?_⟩
    split at isLive
    · exact live earlier isLive
    · exact isLive
  attached index := by
    simp only [ClientState.isAttached, changed, List.getElem?_modify, Option.any_eq_true]
    rintro ⟨current, found, isAttached⟩
    obtain ⟨earlier, isEarlier, rfl⟩ := Option.map_eq_some_iff.mp found
    refine ⟨earlier, isEarlier, ?_⟩
    split at isAttached
    · exact attached earlier isAttached
    · exact isAttached

theorem of_shut {line : Nat} (shut : second.lines = (first.shut line).lines) :
    Recedes first second :=
  .of_modify shut (fun _ => Bool.noConfusion) fun _ => id

theorem isOpen (recedes : Recedes first second) {line : Nat} (isOpen : second.isOpen line = true) :
    first.isOpen line = true := by
  simp only [ClientState.isOpen, Bool.and_eq_true] at isOpen ⊢
  exact ⟨recedes.live line isOpen.1, recedes.attached line isOpen.2⟩

theorem not_live (recedes : Recedes first second) {line : Nat} (shut : first.isLive line = false) :
    second.isLive line = false :=
  Bool.eq_false_iff.mpr fun live => Bool.eq_false_iff.mp shut (recedes.live line live)

end Recedes

namespace ClientState

variable (setting : ClientSetting) (state : ClientState)

theorem shut_not_live (line : Nat) : (state.shut line).isLive line = false := by
  cases found : state.lines[line]? <;> simp [isLive, found]

theorem settle_recedes : Recedes state state.settle where
  live line := by
    simp only [isLive, settle_lines, List.getElem?_mapIdx, Option.any_map]
    simp only [Option.any_eq_true]
    rintro ⟨current, found, live⟩
    refine ⟨current, found, ?_⟩
    split at live
    · exact live
    · cases live
  attached line := by
    simp only [isAttached, settle_lines, List.getElem?_mapIdx, Option.any_map]
    simp only [Option.any_eq_true]
    rintro ⟨current, found, attached⟩
    refine ⟨current, found, ?_⟩
    split at attached <;> exact attached

@[simp]
theorem onTerminalEvent_lines (event : ConnectionEvent) :
    (state.onTerminalEvent setting event).lines = state.lines := by
  unfold onTerminalEvent
  split
  · rfl
  · exact state.handleTerminalEvent_lines setting event

theorem announce_recedes (line : Nat) (event : ConnectionEvent) :
    Recedes state (state.announce setting line event) := by
  unfold announce
  split
  · exact .of_modify (onTerminalEvent_lines setting _ event) (fun _ => id)
      fun _ => Bool.noConfusion
  · exact .refl state

theorem tryStartHeartbeat_lines : (state.tryStartHeartbeat setting).lines = state.lines := by
  unfold tryStartHeartbeat
  split
  · rfl
  · split <;> rfl

theorem callsHandler_lines (origin : Origin) (call : HandlerCall) :
    (state.callsHandler setting origin call).lines = state.lines := by
  unfold callsHandler
  split <;> rfl

variable [RustText]

/-- A frame that is handled closes lines, and takes the observer off them. -/
theorem handleFrame_recedes (index : Nat) (task : FrameTask) (answer : Answer)
    (stage : Handling) :
    Recedes state (state.handleFrame setting index task answer stage) := by
  cases stage with
  | matching frame =>
      simp only [handleFrame, matchResponse]
      split
      · exact .of_lines_eq rfl
      · split <;> exact .of_lines_eq rfl
  | dispatching frame =>
      simp only [handleFrame, dispatch]
      split
      · exact .of_lines_eq rfl
      · split
        all_goals first
          | exact .of_lines_eq (callsHandler_lines setting _ _ _)
          | exact .of_lines_eq rfl
          | (split <;> exact .of_lines_eq rfl)
  | acknowledging frame =>
      simp only [handleFrame, acknowledge]
      split
      · split
        · exact .of_lines_eq rfl
        · exact .of_lines_eq (tryStartHeartbeat_lines setting _)
      · exact .of_lines_eq rfl
  | negotiationFailed frame error =>
      exact .of_lines_eq (handleTerminalEvent_lines setting _ _)
  | readying frame =>
      refine .of_lines_eq ((tryStartHeartbeat_lines setting _).trans ?_)
      simp only [sendNegotiationReady]
      split
      · split <;> rfl
      · rfl
  | kicked frame command =>
      simp only [handleFrame, kick]
      split <;> exact .of_lines_eq rfl
  | kickShutting frame reason line | closeShutting frame detail line =>
      exact .of_shut rfl
  | kickAnnouncing frame reason line | closeAnnouncing frame detail line =>
      exact (announce_recedes setting _ _ _).after (.of_lines_eq rfl)
  | kickReporting frame reason =>
      simp only [handleFrame, reportKick]
      split <;> exact .of_lines_eq rfl
  | closing frame command =>
      simp only [handleFrame, handleClose]
      split
      · split <;> exact .of_lines_eq rfl
      · exact .of_lines_eq rfl
  | handlingBusiness frame =>
      simp only [handleFrame, handleBusiness]
      cases businessCall frame with
      | none => exact .of_lines_eq rfl
      | some call => exact .of_lines_eq (callsHandler_lines setting _ _ _)
  | received | reparsing | responding frame | delivering frame system | finished frame
  | dropped => exact .of_lines_eq rfl

theorem work_recedes (index : Nat) (answer : Answer) (task : Task) :
    Recedes state (state.work setting index answer task) := by
  cases task with
  | frame task => exact state.handleFrame_recedes setting index task answer task.stage
  | deferred event => exact .of_lines_eq (handleTerminalEvent_lines setting _ event)
  | heartbeat line beat =>
      cases beat with
      | beating =>
          simp only [work, ClientState.beat]
          split
          · split <;> exact .of_lines_eq rfl
          · exact .of_lines_eq rfl
      | shutting reason => exact .of_shut rfl
      | announcing reason => exact (announce_recedes setting _ _ _).after (.of_lines_eq rfl)
  | clearing | informing event | done => exact .of_lines_eq rfl

omit [RustText] in
theorem clearReading_recedes (line : Nat) : Recedes state (state.clearReading line) :=
  .of_modify rfl (fun _ => id) fun _ => id

theorem deliver_recedes (line : Nat) (event : ConnectionEvent) :
    Recedes state (state.deliver setting line event) := by
  cases event with
  | message data => exact .of_lines_eq rfl
  | connected => exact .refl state
  | disconnected reason => exact state.announce_recedes setting line (.disconnected reason)
  | error error => exact state.announce_recedes setting line (.error error)

end ClientState

/-! ## The slot of the core -/

@[simp]
theorem ClientCore.handleTerminalEvent_clientConnection (core : ClientCore)
    (event : ConnectionEvent) :
    (core.handleTerminalEvent event).1.clientConnection = core.clientConnection := by
  have lost : ∀ (core : ClientCore) state detail,
      (core.lose state detail).1.clientConnection = core.clientConnection := by
    intro core state detail
    simp only [ClientCore.lose, ClientCore.closeReport]
    split <;> cases core.pendingKick <;> rfl
  cases event with
  | connected | message data => rfl
  | disconnected reason => simp [ClientCore.handleTerminalEvent, lost]
  | error error => simp [ClientCore.handleTerminalEvent, lost]

namespace ClientState

variable (setting : ClientSetting) (state : ClientState)

@[simp]
theorem onTerminalEvent_slot (event : ConnectionEvent) :
    (state.onTerminalEvent setting event).core.clientConnection = state.core.clientConnection := by
  obtain kept | lost := state.onTerminalEvent_core setting event
  · rw [kept]
  · rw [lost, ClientCore.handleTerminalEvent_clientConnection]

@[simp]
theorem announce_slot (line : Nat) (event : ConnectionEvent) :
    (state.announce setting line event).core.clientConnection = state.core.clientConnection := by
  obtain kept | lost := state.announce_core setting line event
  · rw [kept]
  · rw [lost, ClientCore.handleTerminalEvent_clientConnection]

theorem tryStartHeartbeat_slot :
    (state.tryStartHeartbeat setting).core.clientConnection = state.core.clientConnection := by
  unfold tryStartHeartbeat
  split
  · rfl
  · split <;> rfl

variable [RustText]

theorem deliver_slot (line : Nat) (event : ConnectionEvent) :
    (state.deliver setting line event).core.clientConnection = state.core.clientConnection := by
  cases event with
  | message data =>
      simp only [deliver, receive, spawn_core, withCore_core]
      split
      · rfl
      · cases setting.rejection data <;> rfl
  | connected => rfl
  | disconnected reason => exact state.announce_slot setting line (.disconnected reason)
  | error error => exact state.announce_slot setting line (.error error)

/-- The tasks never fill the slot, and only two kinds of them empty it. -/
theorem work_slot (index : Nat) (answer : Answer) (task : Task) :
    (state.work setting index answer task).core.clientConnection =
      if task.takesConnection then none else state.core.clientConnection := by
  cases task with
  | frame task =>
      obtain ⟨line, data, negotiated, stage⟩ := task
      cases stage with
      | matching frame =>
          simp only [work, handleFrame, matchResponse]
          split
          · rfl
          · split <;> rfl
      | dispatching frame =>
          simp only [work, handleFrame, dispatch]
          split
          · rfl
          · split
            all_goals first
              | exact congrArg ClientCore.clientConnection (callsHandler_core setting _ _ _)
              | rfl
              | (split <;> rfl)
      | acknowledging frame =>
          simp only [work, handleFrame, acknowledge]
          split
          · split
            · rfl
            · exact tryStartHeartbeat_slot setting _
          · rfl
      | negotiationFailed frame error =>
          exact ClientCore.handleTerminalEvent_clientConnection _ (.error error)
      | readying frame =>
          refine (tryStartHeartbeat_slot setting _).trans ?_
          simp only [sendNegotiationReady]
          split
          · split <;> rfl
          · rfl
      | kicked frame command =>
          simp only [work, handleFrame, kick]
          split <;> rfl
      | kickAnnouncing frame reason line => exact announce_slot setting _ line _
      | kickReporting frame reason =>
          simp only [work, handleFrame, reportKick, ClientCore.takeUnreportedKick]
          split
          · rfl
          · simp only [withCore_core, advance_core, notifyAll_core]
            split <;> rfl
      | closing frame command =>
          simp only [work, handleFrame, handleClose]
          cases negotiated with
          | false => rfl
          | true =>
              cases filled : state.core.clientConnection with
              | none => rfl
              | some line => rfl
      | closeAnnouncing frame detail line => exact announce_slot setting _ line _
      | handlingBusiness frame =>
          simp only [work, handleFrame, handleBusiness]
          cases businessCall frame with
          | none => rfl
          | some call =>
              exact congrArg ClientCore.clientConnection (callsHandler_core setting _ _ _)
      | received | reparsing | responding frame | kickShutting frame reason line
      | closeShutting frame detail line | delivering frame system | finished frame | dropped => rfl
  | deferred event => exact ClientCore.handleTerminalEvent_clientConnection _ event
  | heartbeat line beat =>
      cases beat with
      | beating =>
          simp only [work, ClientState.beat]
          split
          · split <;> rfl
          · rfl
      | shutting reason => rfl
      | announcing reason => exact announce_slot setting _ line _
  | clearing | informing event | done => rfl

end ClientState

/-! ## Where a call stands -/

/-- The stages of `disconnect`. -/
def Stage.isDeparting : Stage → Bool
  | disconnecting _ | disconnected _ | leaving => true
  | pausing | retiring _ | retired _ | establishing | replacing _ | replaced _ | dialing
  | settingUp _ | attaching _ | connecting _ _ | watching _ | greeting _ | confirming _
  | announcing _ _ | registering | sending | waiting _ => false

/-- Both places are empty, on request. -/
structure ClientState.Vacant (state : ClientState) : Prop where
  connection : state.connection = none
  slot : state.core.clientConnection = none
  requested : state.core.disconnectRequested = true

/-- What the two places hold at each stage of a call, and which lines are closed. -/
def ClientState.Placed (setting : ClientSetting) (state : ClientState) : Stage → Prop
  | .retired line => state.isLive line = false
  | .replacing _ => state.connection = none
  | .replaced line => state.connection = none ∧ state.isLive line = false
  | .dialing => setting.protocol ≠ .webSocket → state.connection = none
  | .settingUp line => ∀ other ∈ state.connection, other = line
  | .attaching line | .connecting line _ | .watching line | .greeting line =>
      (∀ other ∈ state.connection, other = line) ∧
        ∀ other ∈ state.core.clientConnection, other = line
  | .confirming line | .announcing line _ => state.connection = some line
  | .disconnecting _ | .leaving => state.Vacant
  | .disconnected line => state.Vacant ∧ state.isLive line = false
  | .pausing | .retiring _ | .establishing | .registering | .sending | .waiting _ => True

/-- A call agrees with the state at its stage. -/
structure Operation.Fits (setting : ClientSetting) (state : ClientState) (operation : Operation) :
    Prop where
  placed : state.Placed setting operation.stage
  departing : operation.call = .disconnect → operation.stage.isDeparting = true

/-- The client refers to a line, or no task holds on to it. -/
def ClientState.Accounted (state : ClientState) (line : Nat) : Prop :=
  state.Owned line ∨ state.isRetained line = false

/-- What holds before the lines that nothing refers to are closed. -/
structure ClientState.Orderly (setting : ClientSetting) (state : ClientState) : Prop where
  accounted : ∀ line, state.isOpen line = true → state.Accounted line
  unique : ∀ first second, state.isOpen first = true → state.isOpen second = true → first = second
  fits : ∀ operation ∈ state.operation, operation.Fits setting state
  vacant : state.operation = none →
    (state.returned.any fun returned => returned.1.isDisconnect) = true → state.Vacant

/-- The invariant of the client: every open line is one that the client refers to. -/
structure ClientState.Tidy (setting : ClientSetting) (state : ClientState) : Prop
    extends state.Orderly setting where
  owned : ∀ line, state.isOpen line = true → state.Owned line

namespace ClientState

variable {setting : ClientSetting} {state after : ClientState}

theorem isHeld_iff {line : Nat} :
    state.isHeld line = true ↔ state.Owned line ∨ state.isRetained line = true := by
  cases current : state.operation <;>
    simp [isHeld, Owned, isRetained, callLine, current, or_assoc]

/-- A line that is open after the lines that nothing refers to are closed is referred to. -/
theorem isHeld_of_settle_isOpen {line : Nat} (isOpen : state.settle.isOpen line = true) :
    state.isHeld line = true := by
  simp only [ClientState.isOpen, isLive, settle_lines, List.getElem?_mapIdx, Bool.and_eq_true,
    Option.any_map, Option.any_eq_true] at isOpen
  obtain ⟨⟨current, -, live⟩, -⟩ := isOpen
  split at live
  · assumption
  · cases live

theorem Vacant.recede (vacant : state.Vacant) (connection : after.connection = state.connection)
    (slot : ∀ line ∈ after.core.clientConnection, line ∈ state.core.clientConnection)
    (requested : after.core.disconnectRequested = state.core.disconnectRequested) :
    after.Vacant where
  connection := connection.trans vacant.connection
  slot := by
    refine Option.eq_none_iff_forall_not_mem.mpr fun line filled => ?_
    rw [vacant.slot] at slot
    exact Option.not_mem_none line (slot line filled)
  requested := requested.trans vacant.requested

/-- What a call knows about the two places stays true when the slot is emptied and lines are
closed. -/
theorem Placed.recede {stage : Stage} (placed : state.Placed setting stage)
    (recedes : Recedes state after) (connection : after.connection = state.connection)
    (slot : ∀ line ∈ after.core.clientConnection, line ∈ state.core.clientConnection)
    (requested : after.core.disconnectRequested = state.core.disconnectRequested) :
    after.Placed setting stage := by
  cases stage with
  | retired line => exact recedes.not_live placed
  | replacing line | confirming line | announcing line already => exact connection.trans placed
  | replaced line => exact ⟨connection.trans placed.1, recedes.not_live placed.2⟩
  | dialing => exact fun other => connection.trans (placed other)
  | settingUp line =>
      unfold Placed
      rw [connection]
      exact placed
  | attaching line | connecting line already | watching line | greeting line =>
      unfold Placed
      rw [connection]
      exact ⟨placed.1, fun other filled => placed.2 other (slot other filled)⟩
  | disconnecting line | leaving => exact Vacant.recede placed connection slot requested
  | disconnected line =>
      exact ⟨placed.1.recede connection slot requested, recedes.not_live placed.2⟩
  | pausing | retiring line | establishing | registering | sending | waiting request => trivial

theorem Orderly.settle (orderly : state.Orderly setting) : state.settle.Tidy setting := by
  have owned : ∀ line, state.settle.isOpen line = true → state.settle.Owned line := by
    intro line isOpen
    obtain owned | unretained :=
      orderly.accounted line (state.settle_recedes.isOpen isOpen)
    · exact owned
    · obtain owned | retained := isHeld_iff.mp (isHeld_of_settle_isOpen isOpen)
      · exact owned
      · rw [unretained] at retained
        cases retained
  exact {
    owned := owned
    accounted := fun line isOpen => .inl (owned line isOpen)
    unique := fun first second firstOpen secondOpen =>
      orderly.unique first second (state.settle_recedes.isOpen firstOpen)
        (state.settle_recedes.isOpen secondOpen)
    fits := fun operation current =>
      ⟨(orderly.fits operation current).placed.recede state.settle_recedes rfl (fun _ => id) rfl,
        (orderly.fits operation current).departing⟩
    vacant := fun free returned =>
      (orderly.vacant free returned).recede rfl (fun _ => id) rfl }

end ClientState

/-! ## The tasks and the readers -/

/-- What happens beside the call that has the client: lines are closed, and the slot may be
emptied. -/
structure Beside (before after : ClientState) : Prop where
  recedes : Recedes before after
  operation : after.operation = before.operation
  connection : after.connection = before.connection
  returned : after.returned = before.returned
  slot : ∀ line ∈ after.core.clientConnection, line ∈ before.core.clientConnection
  requested : after.core.disconnectRequested = before.core.disconnectRequested

theorem Beside.of_senderOnly {state after : ClientState} (only : SenderOnly state after) :
    Beside state after where
  recedes := .of_lines_eq only.lines
  operation := only.operation
  connection := only.connection
  returned := only.returned
  slot _ filled := only.clientConnection ▸ filled
  requested := only.agrees.disconnectRequested

namespace ClientState

variable {setting : ClientSetting} {state after : ClientState}

theorem callLine_of_beside (beside : Beside state after) : after.callLine = state.callLine := by
  unfold callLine
  rw [beside.operation]

theorem Tidy.beside (tidy : state.Tidy setting) (beside : Beside state after)
    (slot : ∀ line, state.isOpen line = true → state.core.clientConnection = some line →
      after.Owned line) : after.Orderly setting where
  accounted line isOpen := by
    obtain connection | filled | called := tidy.owned line (beside.recedes.isOpen isOpen)
    · exact .inl (.inl (beside.connection.trans connection))
    · exact .inl (slot line (beside.recedes.isOpen isOpen) filled)
    · exact .inl (.inr (.inr ((callLine_of_beside beside).trans called)))
  unique first second firstOpen secondOpen :=
    tidy.unique first second (beside.recedes.isOpen firstOpen) (beside.recedes.isOpen secondOpen)
  fits operation current := by
    rw [beside.operation] at current
    have fits := tidy.fits operation current
    exact ⟨fits.placed.recede beside.recedes beside.connection beside.slot beside.requested,
      fits.departing⟩
  vacant free returned := by
    rw [beside.operation] at free
    rw [beside.returned] at returned
    exact (tidy.vacant free returned).recede beside.connection beside.slot beside.requested

theorem Tidy.sender (tidy : state.Tidy setting) (index : Nat) (stage : SenderStage) :
    (state.sender index stage).Tidy setting where
  toOrderly := tidy.beside (.of_senderOnly (.sender state index stage))
    fun _ _ isSlot => .inr (.inl isSlot)
  owned := tidy.owned

/-- A reader closes its line with the event that ends the connection. -/
theorem read_beside {line : Nat} {event : ConnectionEvent}
    (taken : state.read line event = some after) :
    Beside state after ∧ after.core.clientConnection = state.core.clientConnection := by
  simp only [read, Option.ite_none_right_eq_some] at taken
  obtain ⟨-, read⟩ := taken
  obtain rfl := Option.some.inj read
  refine ⟨⟨.of_modify rfl ?_ fun _ => id, rfl, rfl, rfl, fun _ => id, rfl⟩, rfl⟩
  intro line live
  exact Bool.and_elim_left live

variable [RustText]

theorem handOver_beside {line : Nat} (handed : state.handOver setting line = some after) :
    Beside state after ∧ after.core.clientConnection = state.core.clientConnection := by
  obtain ⟨event, -, rfl⟩ := Option.map_eq_some_iff.mp handed
  have slot := deliver_slot setting (state.clearReading line) line event
  have undisturbed := deliver_undisturbed setting (state.clearReading line) line event
  refine ⟨⟨?_, undisturbed.operation, undisturbed.connection, undisturbed.returned, ?_, ?_⟩, slot⟩
  · exact (deliver_recedes setting _ line event).after (state.clearReading_recedes line)
  · intro other filled
    exact slot ▸ filled
  · exact (deliver_effect setting (state.clearReading line) line event).disconnectRequested_eq

theorem work_beside (index : Nat) (answer : Answer) (task : Task) :
    Beside state (state.work setting index answer task) where
  recedes := state.work_recedes setting index answer task
  operation := (state.work_undisturbed setting index answer task).operation
  connection := (state.work_undisturbed setting index answer task).connection
  returned := (state.work_undisturbed setting index answer task).returned
  slot line filled := by
    rw [work_slot] at filled
    split at filled
    · cases filled
    · exact filled
  requested := (state.work_effect setting index answer task).disconnectRequested_eq

/-- A handler that takes the connection out of the slot leaves it in another place, or the
connection is closed. -/
theorem Tidy.work {index : Nat} {answer : Answer} {task : Task} (tidy : state.Tidy setting)
    (isTask : state.tasks[index]? = some task)
    (sealed : NothingLeaks setting state (.work index answer)) :
    (state.work setting index answer task).Orderly setting := by
  have beside : Beside state (state.work setting index answer task) :=
    work_beside index answer task
  refine tidy.beside beside ?_
  intro line isOpen filled
  cases taken : task.takesConnection with
  | false =>
      right; left
      rw [work_slot, taken]
      exact filled
  | true =>
      simp only [NothingLeaks, leaks, releases, isTask, Option.any_some, taken, if_true, filled,
        Move.isWork, Bool.true_or, Bool.and_true, Option.any_filter] at sealed
      simp only [isOpen, Bool.and_true, Bool.and_eq_false_iff, decide_eq_false_iff_not, not_not]
        at sealed
      obtain connection | called := sealed
      · exact .inl (beside.connection.trans connection)
      · exact .inr (.inr ((callLine_of_beside beside).trans called))

end ClientState

/-! ## The calls -/

theorem Operation.Fits.advance {setting : ClientSetting} {state after : ClientState}
    {operation : Operation} {stage : Stage} (fits : operation.Fits setting state)
    (staying : operation.stage.isDeparting = false) (placed : after.Placed setting stage) :
    { operation with stage := stage }.Fits setting after where
  placed := placed
  departing disconnects := by
    rw [fits.departing disconnects] at staying
    cases staying

namespace ClientState

variable {setting : ClientSetting} {state after : ClientState} {operation : Operation}

theorem placed_of_isUnbound {stage : Stage} (unbound : stage.isUnbound = true) :
    state.Placed setting stage := by
  cases stage <;> trivial

/-- A step of a call, by what becomes of the line in each place. -/
theorem Tidy.proceeds {next : Operation} (tidy : state.Tidy setting)
    (opens : ∀ line, after.isOpen line = true → state.isOpen line = true)
    (proceeds : after.operation = some next) (fits : next.Fits setting after)
    (connection : ∀ line, state.isOpen line = true → state.connection = some line →
      after.Accounted line)
    (slot : ∀ line, state.isOpen line = true → state.core.clientConnection = some line →
      after.Accounted line)
    (called : ∀ line, state.isOpen line = true → state.callLine = some line →
      after.Accounted line) : after.Orderly setting where
  accounted line isOpen := by
    obtain isConnection | isSlot | isCalled := tidy.owned line (opens line isOpen)
    · exact connection line (opens line isOpen) isConnection
    · exact slot line (opens line isOpen) isSlot
    · exact called line (opens line isOpen) isCalled
  unique first second firstOpen secondOpen :=
    tidy.unique first second (opens first firstOpen) (opens second secondOpen)
  fits current isCurrent := by
    rw [proceeds] at isCurrent
    obtain rfl := Option.some.inj isCurrent
    exact fits
  vacant free := by
    rw [proceeds] at free
    cases free

/-- A call that leaves both places as they are. -/
theorem Tidy.unbinds (tidy : state.Tidy setting) (unbinds : Unbinds state operation after)
    (notDisconnect : operation.call ≠ .disconnect)
    (called : ∀ line, state.isOpen line = true → state.callLine = some line →
      after.Accounted line) : after.Orderly setting := by
  have recedes : Recedes state after := .of_lines_eq unbinds.lines
  obtain ⟨free, result, returned⟩ | ⟨next, proceeds, sameCall, unbound⟩ := unbinds.outcome
  · refine ⟨?_, ?_, ?_, ?_⟩
    · intro line isOpen
      obtain isConnection | isSlot | isCalled := tidy.owned line (recedes.isOpen isOpen)
      · exact .inl (.inl (unbinds.connection.trans isConnection))
      · exact .inl (.inr (.inl (unbinds.slot.trans isSlot)))
      · exact called line (recedes.isOpen isOpen) isCalled
    · intro first second firstOpen secondOpen
      exact tidy.unique first second (recedes.isOpen firstOpen) (recedes.isOpen secondOpen)
    · intro current isCurrent
      rw [free] at isCurrent
      cases isCurrent
    · intro _ disconnected
      rw [returned] at disconnected
      refine absurd ?_ notDisconnect
      cases call : operation.call <;> simp only [call] at disconnected <;> trivial
  · refine tidy.proceeds (fun line => recedes.isOpen) proceeds
      ⟨placed_of_isUnbound unbound, fun disconnects =>
        absurd (sameCall.symm.trans disconnects) notDisconnect⟩ ?_ ?_ called
    · intro line _ isConnection
      exact .inl (.inl (unbinds.connection.trans isConnection))
    · intro line _ isSlot
      exact .inl (.inr (.inl (unbinds.slot.trans isSlot)))

/-- A call starts while nothing else has the client. -/
theorem Tidy.start {call : Call} (tidy : state.Tidy setting) (free : state.operation = none)
    (notDisconnect : call ≠ .disconnect) : (state.start setting call).Orderly setting := by
  obtain ⟨operation, rfl, unbinds⟩ := state.start_unbinds setting notDisconnect
  refine tidy.unbinds unbinds notDisconnect ?_
  intro line _ called
  unfold callLine at called
  rw [free] at called
  cases called

variable [RustText]

/-- `disconnect` empties both places; the connection of the client is the one it closes. -/
theorem Tidy.startDisconnect (tidy : state.Tidy setting) (free : state.operation = none)
    (sealed : NothingLeaks setting state (.call .disconnect)) :
    state.startDisconnect.Orderly setting := by
  have closes : ∀ line, state.connection = some line →
      state.startDisconnect.Accounted line := by
    intro line isConnection
    refine .inl (.inr (.inr ?_))
    simp [ClientState.startDisconnect, callLine, isConnection, Stage.line]
  refine tidy.proceeds (fun _ => id) rfl ⟨?_, fun _ => ?_⟩ (fun line _ => closes line) ?_ ?_
  · cases state.connection <;> exact ⟨rfl, rfl, rfl⟩
  · cases state.connection <;> rfl
  · intro line isOpen isSlot
    by_cases isConnection : state.connection = some line
    · exact closes line isConnection
    · have unretained : state.isRetained line = false := by
        simpa [NothingLeaks, leaks, releases, isSlot, isConnection, isOpen, Move.isWork,
          Option.filter] using sealed
      exact .inr unretained
  · intro line _ called
    unfold callLine at called
    rw [free] at called
    cases called

omit [RustText] in
/-- A step in which the places stay as they are, and the line of the call is closed or stays. -/
theorem Tidy.moves {next : Operation} (tidy : state.Tidy setting) (recedes : Recedes state after)
    (connection : after.connection = state.connection)
    (slot : after.core.clientConnection = state.core.clientConnection)
    (proceeds : after.operation = some next) (fits : next.Fits setting after)
    (called : ∀ line, state.callLine = some line → state.isLive line = true →
      next.stage.line = some line) : after.Orderly setting := by
  refine tidy.proceeds (fun line => recedes.isOpen) proceeds fits ?_ ?_ ?_
  · intro line _ isConnection
    exact .inl (.inl (connection.trans isConnection))
  · intro line _ isSlot
    exact .inl (.inr (.inl (slot.trans isSlot)))
  · intro line isOpen isCalled
    refine .inl (.inr (.inr ?_))
    simp only [callLine, proceeds, Option.bind_some]
    exact called line isCalled (Bool.and_elim_left isOpen)

omit [RustText] in
theorem callLine_of_operation (current : state.operation = some operation) :
    state.callLine = operation.stage.line := by
  simp [callLine, current]

omit [RustText] in
/-- The connection of the client goes over to the call. -/
theorem Tidy.takes {next : Stage} {line : Nat} (tidy : state.Tidy setting)
    (current : state.operation = some operation) (idle : operation.stage.line = none)
    (staying : operation.stage.isDeparting = false) (isConnection : state.connection = some line)
    (lines : after.lines = state.lines) (core : after.core = state.core)
    (proceeds : after.operation = some { operation with stage := next })
    (taken : next.line = some line) (placed : after.Placed setting next) :
    after.Orderly setting := by
  refine tidy.proceeds (fun line => (Recedes.of_lines_eq lines).isOpen) proceeds
    ((tidy.fits operation current).advance staying placed) ?_ ?_ ?_
  · intro other _ isOther
    obtain rfl := Option.some.inj (isConnection.symm.trans isOther)
    exact .inl (.inr (.inr ((callLine_of_operation proceeds).trans taken)))
  · intro other _ isSlot
    exact .inl (.inr (.inl (core ▸ isSlot)))
  · intro other _ isCalled
    rw [callLine_of_operation current, idle] at isCalled
    cases isCalled

omit [RustText] in
/-- A call that has no line goes on, and the places stay as they are. -/
theorem Tidy.idles {next : Stage} (tidy : state.Tidy setting)
    (current : state.operation = some operation) (idle : operation.stage.line = none)
    (staying : operation.stage.isDeparting = false) (lines : after.lines = state.lines)
    (connection : after.connection = state.connection)
    (slot : after.core.clientConnection = state.core.clientConnection)
    (proceeds : after.operation = some { operation with stage := next })
    (placed : after.Placed setting next) : after.Orderly setting := by
  refine tidy.moves (.of_lines_eq lines) connection slot proceeds
    ((tidy.fits operation current).advance staying placed) ?_
  intro line isCalled
  rw [callLine_of_operation current, idle] at isCalled
  cases isCalled

omit [RustText] in
theorem Tidy.establish (tidy : state.Tidy setting) (current : state.operation = some operation)
    (stage : operation.stage = .establishing) :
    (state.establish setting operation).Orderly setting := by
  have idle : operation.stage.line = none := by rw [stage]; rfl
  have staying : operation.stage.isDeparting = false := by rw [stage]; rfl
  unfold ClientState.establish
  split
  next line _ isConnection _ =>
    refine tidy.idles current idle staying rfl rfl rfl rfl ?_
    intro other isOther
    exact Option.some.inj (isOther.symm.trans isConnection)
  next isWebSocket _ =>
    refine tidy.idles current idle staying rfl rfl rfl rfl ?_
    intro other
    exact absurd isWebSocket other
  next isConnection _ =>
    refine tidy.takes current idle staying isConnection rfl rfl rfl rfl ?_
    intro other isOther
    cases isOther
  next isConnection _ =>
    refine tidy.takes current idle staying isConnection rfl rfl rfl rfl ?_
    intro other isOther
    cases isOther
  next isConnection _ =>
    exact tidy.takes current idle staying isConnection rfl rfl rfl rfl rfl
  next isConnection _ =>
    exact tidy.takes current idle staying isConnection rfl rfl rfl rfl rfl
  next isConnection =>
    exact tidy.idles current idle staying rfl rfl rfl rfl fun _ => isConnection
  next isConnection =>
    exact tidy.idles current idle staying rfl rfl rfl rfl fun _ => isConnection

omit [RustText] in
/-- A call goes on with its line, and the places stay as they are. -/
theorem Tidy.stays {next : Stage} {line : Nat} (tidy : state.Tidy setting)
    (current : state.operation = some operation) (isLine : operation.stage.line = some line)
    (staying : operation.stage.isDeparting = false) (recedes : Recedes state after)
    (connection : after.connection = state.connection)
    (slot : after.core.clientConnection = state.core.clientConnection)
    (proceeds : after.operation = some { operation with stage := next })
    (stays : next.line = some line) (placed : after.Placed setting next) :
    after.Orderly setting := by
  refine tidy.moves recedes connection slot proceeds
    ((tidy.fits operation current).advance staying placed) ?_
  intro other isCalled _
  rw [callLine_of_operation current, isLine] at isCalled
  exact stays.trans isCalled

omit [RustText] in
/-- A call gives up its line, which is closed, and the places stay as they are. -/
theorem Tidy.lets {next : Stage} {line : Nat} (tidy : state.Tidy setting)
    (current : state.operation = some operation) (isLine : operation.stage.line = some line)
    (staying : operation.stage.isDeparting = false) (shut : state.isLive line = false)
    (recedes : Recedes state after) (connection : after.connection = state.connection)
    (slot : after.core.clientConnection = state.core.clientConnection)
    (proceeds : after.operation = some { operation with stage := next })
    (placed : after.Placed setting next) : after.Orderly setting := by
  refine tidy.moves recedes connection slot proceeds
    ((tidy.fits operation current).advance staying placed) ?_
  intro other isCalled live
  rw [callLine_of_operation current, isLine] at isCalled
  obtain rfl := Option.some.inj isCalled
  rw [shut] at live
  cases live

omit [RustText] in
theorem isOpen_of_append {line : Nat} {live : Bool} {reading : Option ConnectionEvent}
    (lines : after.lines = state.lines ++ [⟨live, false, reading⟩])
    (isOpen : after.isOpen line = true) : state.isOpen line = true := by
  simp only [ClientState.isOpen, isLive, isAttached, lines, Bool.and_eq_true,
    List.getElem?_append] at isOpen ⊢
  split at isOpen
  · exact isOpen
  · obtain ⟨found, isFound, attached⟩ := (Option.any_eq_true _ _).mp isOpen.2
    obtain rfl := List.mem_singleton.mp (List.mem_of_getElem? isFound)
    cases attached

/-- A WebSocket client that dials gives up the connection it had. -/
theorem Tidy.dial {answer : Answer} (tidy : state.Tidy setting)
    (current : state.operation = some operation) (stage : operation.stage = .dialing)
    (sealed : NothingLeaks setting state (.operate answer)) :
    (state.dial setting operation answer).Orderly setting := by
  have fits := tidy.fits operation current
  have placed : state.Placed setting .dialing := stage ▸ fits.placed
  have staying : operation.stage.isDeparting = false := by rw [stage]; rfl
  have called : ∀ line, state.callLine ≠ some line := by
    intro line isCalled
    rw [callLine_of_operation current, stage] at isCalled
    cases isCalled
  unfold ClientState.dial
  split
  next succeeds =>
    refine tidy.proceeds (fun line => isOpen_of_append rfl) rfl (fits.advance staying ?_) ?_ ?_
      fun line _ isCalled => absurd isCalled (called line)
    · intro other isOther
      simp only [proceed_connection] at isOther
      split at isOther
      · exact (Option.some.inj isOther).symm
      next other =>
        rw [placed other] at isOther
        cases isOther
    · intro line isOpen isConnection
      by_cases isSlot : state.core.clientConnection = some line
      · exact .inl (.inr (.inl isSlot))
      by_cases isWebSocket : setting.protocol = .webSocket
      · have unretained : state.isRetained line = false := by
          simpa [NothingLeaks, leaks, releases, abandons, current, stage, succeeds, isWebSocket,
            isConnection, isSlot, isOpen, Move.isWork, Option.filter] using sealed
        exact .inr unretained
      · refine .inl (.inl ?_)
        rw [proceed_connection, if_neg isWebSocket]
        exact isConnection
    · intro line _ isSlot
      exact .inl (.inr (.inl isSlot))
  next =>
    exact tidy.unbinds (state.failConnect_unbinds setting operation answer.error)
      (fun disconnects => Bool.noConfusion (staying.symm.trans (fits.departing disconnects)))
      fun line _ isCalled => absurd isCalled (called line)

/-- The connection that is set up takes the slot. -/
theorem Tidy.setUp {answer : Answer} {line : Nat} (tidy : state.Tidy setting)
    (current : state.operation = some operation) (stage : operation.stage = .settingUp line)
    (sealed : NothingLeaks setting state (.operate answer)) :
    ((state.withCore { state.core with clientConnection := some line }).proceed operation
      (.attaching line)).Orderly setting := by
  have fits := tidy.fits operation current
  have placed : state.Placed setting (.settingUp line) := stage ▸ fits.placed
  have staying : operation.stage.isDeparting = false := by rw [stage]; rfl
  refine tidy.proceeds (fun _ => id) rfl (fits.advance staying ⟨placed, ?_⟩) ?_ ?_ ?_
  · intro other isOther
    exact (Option.some.inj isOther).symm
  · intro other _ isConnection
    exact .inl (.inl isConnection)
  · intro other isOpen isSlot
    by_cases same : other = line
    · exact .inl (.inr (.inl (congrArg some same.symm)))
    · have unretained : state.isRetained other = false := by
        simpa [NothingLeaks, leaks, releases, abandons, current, stage, isSlot, same, isOpen,
          Move.isWork, Option.filter] using sealed
      exact .inr unretained
  · intro other _ isCalled
    rw [callLine_of_operation current, stage] at isCalled
    exact .inl (.inr (.inr isCalled))

omit [RustText] in
/-- A call that finds its line closed while it attaches the observer. -/
theorem Tidy.findsClosed {line : Nat} {event : ConnectionEvent} (tidy : state.Tidy setting)
    (current : state.operation = some operation) (isLine : operation.stage.line = some line)
    (staying : operation.stage.isDeparting = false)
    (placed : state.Placed setting (.greeting line)) :
    ((state.proceed operation (.greeting line)).onTerminalEvent setting event).Orderly
      setting := by
  have undisturbed := onTerminalEvent_undisturbed setting
    (state.proceed operation (.greeting line)) event
  have slot := onTerminalEvent_slot setting (state.proceed operation (.greeting line)) event
  have connection := undisturbed.connection
  refine tidy.stays current isLine staying (.of_lines_eq (onTerminalEvent_lines setting _ event))
    connection slot undisturbed.operation rfl ?_
  unfold Placed
  rw [slot, connection]
  exact placed

omit [RustText] in
theorem Tidy.attach {line : Nat} (tidy : state.Tidy setting)
    (current : state.operation = some operation) (stage : operation.stage = .attaching line) :
    (state.attach setting operation line).Orderly setting := by
  have placed : state.Placed setting (.attaching line) :=
    stage ▸ (tidy.fits operation current).placed
  have isLine : operation.stage.line = some line := by rw [stage]; rfl
  have staying : operation.stage.isDeparting = false := by rw [stage]; rfl
  unfold ClientState.attach
  split
  · exact tidy.stays current isLine staying (.of_lines_eq rfl) rfl rfl rfl rfl placed
  · exact tidy.findsClosed current isLine staying placed

omit [RustText] in
/-- The observer is put on the line of the call, and no other line is open: the places hold
nothing else. -/
theorem Tidy.watch {line : Nat} (tidy : state.Tidy setting)
    (current : state.operation = some operation) (stage : operation.stage = .watching line) :
    (state.watch setting operation line).Orderly setting := by
  have fits := tidy.fits operation current
  have placed : state.Placed setting (.watching line) := stage ▸ fits.placed
  have isLine : operation.stage.line = some line := by rw [stage]; rfl
  have staying : operation.stage.isDeparting = false := by rw [stage]; rfl
  have onlyLine : ∀ other, state.isOpen other = true → other = line := by
    intro other isOpen
    obtain isConnection | isSlot | isCalled := tidy.owned other isOpen
    · exact placed.1 other isConnection
    · exact placed.2 other isSlot
    · rw [callLine_of_operation current, isLine] at isCalled
      exact (Option.some.inj isCalled).symm
  unfold ClientState.watch
  split
  · set watched : ClientState := { state with
      lines := state.lines.modify line fun line => { line with attached := true }
      }.proceed operation (.greeting line) with isWatched
    have nowOpen : ∀ other, watched.isOpen other = true → other = line := by
      intro other isOpen
      by_contra different
      refine different (onlyLine other ?_)
      simpa [isWatched, ClientState.isOpen, isLive, isAttached, List.getElem?_modify,
        Ne.symm different] using isOpen
    refine ⟨?_, ?_, ?_, ?_⟩
    · intro other isOpen
      rw [nowOpen other isOpen]
      exact .inl (.inr (.inr rfl))
    · intro first second firstOpen secondOpen
      exact (nowOpen first firstOpen).trans (nowOpen second secondOpen).symm
    · intro next isNext
      obtain rfl := Option.some.inj isNext
      exact fits.advance staying placed
    · intro free
      cases free
  · exact tidy.findsClosed current isLine staying placed

/-- A connection that carries CONNECT is the client's; one that does not is given up. -/
theorem Tidy.greet {answer : Answer} {line : Nat} (tidy : state.Tidy setting)
    (current : state.operation = some operation) (stage : operation.stage = .greeting line)
    (sealed : NothingLeaks setting state (.operate answer)) :
    (state.greet setting operation line answer).Orderly setting := by
  have fits := tidy.fits operation current
  have placed : state.Placed setting (.greeting line) := stage ▸ fits.placed
  have staying : operation.stage.isDeparting = false := by rw [stage]; rfl
  have isLine : ∀ other, state.callLine = some other → other = line := by
    intro other isCalled
    rw [callLine_of_operation current, stage] at isCalled
    exact (Option.some.inj isCalled).symm
  simp only [ClientState.greet]
  split
  next =>
    refine tidy.proceeds (fun _ => id) rfl (fits.advance staying rfl) ?_ ?_ ?_
    · intro other _ isConnection
      exact .inl (.inl (congrArg some (placed.1 other isConnection).symm))
    · intro other _ isSlot
      exact .inl (.inr (.inl isSlot))
    · intro other _ isCalled
      exact .inl (.inl (congrArg some (isLine other isCalled).symm))
  next error unsent =>
    have unbinds : Unbinds state operation _ :=
      (failConnect_unbinds setting { state with frames := state.frames + 1 } operation error).of_eq
        rfl rfl rfl
    refine tidy.unbinds unbinds
      (fun disconnects => Bool.noConfusion (staying.symm.trans (fits.departing disconnects))) ?_
    intro other isOpen isCalled
    obtain rfl := isLine other isCalled
    by_cases isConnection : state.connection = some other
    · exact .inl (.inl (unbinds.connection.trans isConnection))
    by_cases isSlot : state.core.clientConnection = some other
    · exact .inl (.inr (.inl (unbinds.slot.trans isSlot)))
    right
    have unretained : state.isRetained other = false := by
      simpa [NothingLeaks, leaks, releases, abandons, current, stage, unsent, isConnection, isSlot,
        isOpen, Move.isWork, Except.toOption] using sealed
    unfold isRetained
    rw [failConnect_tasks]
    exact unretained

omit [RustText] in
/-- A client that refers to no line has no open one. -/
theorem Tidy.isOpen_eq_false (tidy : state.Tidy setting) (connection : state.connection = none)
    (slot : state.core.clientConnection = none) (idle : state.callLine = none) (line : Nat) :
    state.isOpen line = false := by
  refine Bool.eq_false_iff.mpr fun isOpen => ?_
  obtain isConnection | isSlot | isCalled := tidy.owned line isOpen
  · cases connection.symm.trans isConnection
  · cases slot.symm.trans isSlot
  · cases idle.symm.trans isCalled

omit [RustText] in
/-- The last step of `disconnect`. -/
theorem Tidy.leaves (tidy : state.Tidy setting) (current : state.operation = some operation)
    (stage : operation.stage = .leaving) (lines : after.lines = state.lines)
    (connection : after.connection = state.connection)
    (slot : after.core.clientConnection = state.core.clientConnection)
    (requested : after.core.disconnectRequested = state.core.disconnectRequested)
    (free : after.operation = none) : after.Orderly setting := by
  have placed : state.Placed setting .leaving := stage ▸ (tidy.fits operation current).placed
  have vacant : state.Vacant := placed
  have noneOpen : ∀ line, after.isOpen line ≠ true := by
    intro line isOpen
    have idle : state.callLine = none := by rw [callLine_of_operation current, stage]; rfl
    have wasOpen := (Recedes.of_lines_eq lines).isOpen isOpen
    rw [tidy.isOpen_eq_false vacant.connection vacant.slot idle line] at wasOpen
    cases wasOpen
  refine ⟨fun line isOpen => absurd isOpen (noneOpen line),
    fun first _ isOpen => absurd isOpen (noneOpen first), ?_, fun _ _ => ?_⟩
  · intro next isNext
    rw [free] at isNext
    cases isNext
  · exact vacant.recede connection (fun line filled => slot ▸ filled) requested

theorem Tidy.operate {answer : Answer} (tidy : state.Tidy setting)
    (current : state.operation = some operation)
    (sealed : NothingLeaks setting state (.operate answer))
    (operated : state.operate setting operation answer = some after) :
    after.Orderly setting := by
  have fits := tidy.fits operation current
  have called := callLine_of_operation current
  have stays : operation.stage.isDeparting = false → operation.call ≠ .disconnect :=
    fun staying disconnects => Bool.noConfusion (staying.symm.trans (fits.departing disconnects))
  have placed := fits.placed
  have lineOf : ∀ {stage : Stage}, operation.stage = stage → operation.stage.line = stage.line :=
    congrArg Stage.line
  have departing : ∀ {stage : Stage}, operation.stage = stage →
      operation.stage.isDeparting = stage.isDeparting := congrArg Stage.isDeparting
  cases stage : operation.stage <;>
    simp only [ClientState.operate, stage, Option.some.injEq, Option.map_eq_some_iff,
      Option.bind_eq_some_iff] at operated <;>
    rw [stage] at placed stays called
  case pausing =>
    subst operated
    cases isConnection : state.connection with
    | none =>
        exact tidy.idles current (lineOf stage) (departing stage) rfl isConnection.symm rfl rfl
          trivial
    | some line =>
        exact tidy.takes current (lineOf stage) (departing stage) isConnection rfl rfl rfl rfl
          trivial
  case retiring line =>
    subst operated
    exact tidy.stays current (lineOf stage) (departing stage) (.of_shut rfl) rfl rfl rfl rfl
      (state.shut_not_live line)
  case retired line =>
    subst operated
    have undisturbed := announce_undisturbed setting (state.proceed operation .establishing) line
      (.disconnected setting.protocol.closeReason)
    exact tidy.lets current (lineOf stage) (departing stage) placed
      ((announce_recedes setting _ _ _).after (.of_lines_eq rfl)) undisturbed.connection
      (announce_slot setting _ _ _) undisturbed.operation trivial
  case establishing =>
    subst operated
    exact tidy.establish current stage
  case replacing line =>
    subst operated
    exact tidy.stays current (lineOf stage) (departing stage) (.of_shut rfl) rfl rfl rfl rfl
      ⟨placed, state.shut_not_live line⟩
  case replaced line =>
    subst operated
    have undisturbed := announce_undisturbed setting (state.proceed operation .dialing) line
      (.disconnected setting.protocol.closeReason)
    exact tidy.lets current (lineOf stage) (departing stage) placed.2
      ((announce_recedes setting _ _ _).after (.of_lines_eq rfl)) undisturbed.connection
      (announce_slot setting _ _ _) undisturbed.operation
      (fun _ => undisturbed.connection.trans placed.1)
  case dialing =>
    subst operated
    exact tidy.dial current stage sealed
  case settingUp line =>
    subst operated
    exact tidy.setUp current stage sealed
  case attaching line =>
    subst operated
    exact tidy.attach current stage
  case connecting line already =>
    subst operated
    have connection := (state.handleConnected_undisturbed setting already).connection
    have slot := state.handleConnected_slot setting already
    refine tidy.stays current (lineOf stage) (departing stage)
      (.of_lines_eq (state.handleConnected_lines setting already)) connection slot rfl rfl ?_
    unfold Placed
    rw [proceed_connection, proceed_core, connection, slot]
    exact placed
  case watching line =>
    subst operated
    exact tidy.watch current stage
  case greeting line =>
    subst operated
    exact tidy.greet current stage sealed
  case confirming line =>
    subst operated
    exact tidy.stays current (lineOf stage) (departing stage) (.of_lines_eq rfl) rfl rfl rfl rfl
      placed
  case announcing line already =>
    subst operated
    have unbinds := state.connectDone_unbinds setting operation already
    refine tidy.unbinds unbinds (stays rfl) ?_
    intro other _ isCalled
    obtain rfl := Option.some.inj (called.symm.trans isCalled)
    exact .inl (.inl (unbinds.connection.trans placed))
  case registering =>
    obtain ⟨frame, -, rfl⟩ := operated
    have unbinds := startSend_unbinds setting { state with
      requests := state.requests + 1
      core := { state.core with
        pending := state.core.pending.insert frame.messageId state.requests } }
      { operation with request := some state.requests }
    refine tidy.unbinds (unbinds.of_eq rfl rfl rfl) (stays rfl) ?_
    intro line _ isCalled
    cases called.symm.trans isCalled
  case sending =>
    obtain ⟨frame, -, rfl⟩ := operated
    refine tidy.unbinds (state.sendFrame_unbinds setting operation frame answer) (stays rfl) ?_
    intro line _ isCalled
    cases called.symm.trans isCalled
  case waiting request =>
    obtain ⟨frame, -, awaited⟩ := operated
    obtain ⟨core, result, -, slot, rfl⟩ := await_eq_some awaited
    have unbinds := finish_unbinds (state.withCore core) operation result
    refine tidy.unbinds (unbinds.of_eq rfl rfl slot) (stays rfl) ?_
    intro line _ isCalled
    cases called.symm.trans isCalled
  case disconnecting line =>
    subst operated
    refine tidy.moves (.of_shut rfl) rfl rfl rfl
      ⟨⟨Vacant.recede placed rfl (fun _ => id) rfl, state.shut_not_live line⟩, fun _ => rfl⟩ ?_
    intro other isCalled _
    exact called.symm.trans isCalled
  case disconnected line =>
    subst operated
    have undisturbed := announce_undisturbed setting (state.proceed operation .leaving) line
      (.disconnected setting.protocol.closeReason)
    have slot := announce_slot setting (state.proceed operation .leaving) line
      (.disconnected setting.protocol.closeReason)
    have requested := ((state.proceed operation .leaving).announce_effect setting line
      (.disconnected setting.protocol.closeReason) none).disconnectRequested_eq
    refine tidy.moves ((announce_recedes setting _ _ _).after (.of_lines_eq rfl))
      undisturbed.connection slot undisturbed.operation ⟨?_, fun _ => rfl⟩ ?_
    · exact placed.1.recede undisturbed.connection (fun other filled => slot ▸ filled) requested
    · intro other isCalled live
      obtain rfl := Option.some.inj (called.symm.trans isCalled)
      cases placed.2.symm.trans live
  case leaving =>
    subst operated
    have undisturbed := handleTerminalEvent_undisturbed setting
      (state.withCore { state.core with pending := ∅ }) (.disconnected "Client disconnected")
    exact tidy.leaves current stage (by simp) (by simpa using undisturbed.connection) (by simp)
      (by simp [ClientCore.handleTerminalEvent_disconnectRequested]) (finish_operation _ _ _)

end ClientState

/-! ## Runs -/

namespace ClientState

variable [RustText] {setting : ClientSetting} {state next : ClientState}

theorem Tidy.step {move : Move} (tidy : state.Tidy setting)
    (sealed : NothingLeaks setting state move) (stepped : state.step setting move = some next) :
    next.Tidy setting := by
  obtain ⟨after, performed, rfl⟩ := Option.map_eq_some_iff.mp stepped
  refine Orderly.settle ?_
  cases move with
  | call call =>
      simp only [perform, Option.ite_none_right_eq_some] at performed
      obtain ⟨⟨free, -⟩, started⟩ := performed
      obtain rfl := Option.some.inj started
      rw [Option.isNone_iff_eq_none] at free
      by_cases disconnects : call = .disconnect
      · subst disconnects
        exact tidy.startDisconnect free sealed
      · exact tidy.start free disconnects
  | submit frame waits =>
      obtain rfl := Option.some.inj performed
      exact tidy.beside ⟨.of_lines_eq rfl, rfl, rfl, rfl, fun _ => id, rfl⟩
        fun line _ isSlot => .inr (.inl isSlot)
  | send index answer =>
      obtain ⟨sender, -, sent⟩ := Option.bind_eq_some_iff.mp performed
      obtain only | ⟨free, stage, call, made, rfl⟩ := sendStep_eq_some sent
      · exact tidy.beside (.of_senderOnly only) fun line _ isSlot =>
          .inr (.inl (only.clientConnection.trans isSlot))
      · refine (tidy.sender index stage).start free ?_
        rintro rfl
        cases made
  | operate answer =>
      obtain ⟨operation, current, operated⟩ := Option.bind_eq_some_iff.mp performed
      exact tidy.operate current sealed operated
  | read line event =>
      obtain ⟨beside, slot⟩ := read_beside performed
      exact tidy.beside beside fun other _ isSlot => .inr (.inl (slot.trans isSlot))
  | handOver line =>
      obtain ⟨beside, slot⟩ := handOver_beside performed
      exact tidy.beside beside fun other _ isSlot => .inr (.inl (slot.trans isSlot))
  | work index answer =>
      obtain ⟨task, found, rfl⟩ := Option.map_eq_some_iff.mp performed
      exact tidy.work (Option.filter_eq_some_iff.mp found).1 sealed

omit [RustText] in
theorem tidy_of_isInitial {start : ClientState} (initial : start.IsInitial setting.config) :
    start.Tidy setting := by
  have noneOpen : ∀ line, start.isOpen line ≠ true := by
    intro line
    obtain rfl | rfl := initial
    · simp [isOpen, isLive, new]
    · cases line <;> simp [isOpen, isAttached, prepared]
  have free : start.operation = none := by obtain rfl | rfl := initial <;> rfl
  have unreturned : start.returned = none := by obtain rfl | rfl := initial <;> rfl
  refine ⟨⟨fun line isOpen => absurd isOpen (noneOpen line),
    fun first _ isOpen => absurd isOpen (noneOpen first), ?_, ?_⟩,
    fun line isOpen => absurd isOpen (noneOpen line)⟩
  · intro operation current
    rw [free] at current
    cases current
  · intro _ returned
    rw [unreturned] at returned
    cases returned

end ClientState

/-! ## After `disconnect` -/

/-- Both places are empty, no call refers to a line, and the client is offline. -/
structure ClientState.Departed (state : ClientState) : Prop where
  connection : state.connection = none
  slot : state.core.clientConnection = none
  idle : state.callLine = none
  offline : state.Offline

theorem Unbinds.callLine_eq_none {before after : ClientState} {operation : Operation}
    (unbinds : Unbinds before operation after) : after.callLine = none := by
  unfold ClientState.callLine
  obtain ⟨free, -⟩ | ⟨next, proceeds, -, unbound⟩ := unbinds.outcome
  · rw [free]
    rfl
  · rw [proceeds]
    exact Stage.line_of_isUnbound unbound

namespace ClientState

variable {setting : ClientSetting} {state after : ClientState}

theorem Departed.of_unbinds {operation : Operation} (departed : state.Departed)
    (unbinds : Unbinds state operation after) (offline : after.Offline) : after.Departed where
  connection := unbinds.connection.trans departed.connection
  slot := unbinds.slot.trans departed.slot
  idle := unbinds.callLine_eq_none
  offline := offline

theorem Departed.of_beside (departed : state.Departed) (beside : Beside state after)
    (offline : after.Offline) : after.Departed where
  connection := beside.connection.trans departed.connection
  slot := by
    refine Option.eq_none_iff_forall_not_mem.mpr fun line filled => ?_
    have isSlot := beside.slot line filled
    rw [departed.slot] at isSlot
    cases isSlot
  idle := (callLine_of_beside beside).trans departed.idle
  offline := offline

theorem Departed.start {call : Call} (departed : state.Departed)
    (offline : (state.start setting call).Offline) : (state.start setting call).Departed := by
  by_cases disconnects : call = .disconnect
  · subst disconnects
    refine ⟨rfl, rfl, ?_, offline⟩
    simp [ClientState.start, startDisconnect, callLine, departed.connection, Stage.line]
  · obtain ⟨operation, -, unbinds⟩ := state.start_unbinds setting disconnects
    exact departed.of_unbinds unbinds offline

variable [RustText]

theorem Departed.operate {operation : Operation} {answer : Answer} (departed : state.Departed)
    (current : state.operation = some operation) (offline : after.Offline)
    (operated : state.operate setting operation answer = some after) : after.Departed := by
  have idle := departed.offline.idle operation current
  have called := (callLine_of_operation current).symm.trans departed.idle
  cases stage : operation.stage <;> rw [stage] at idle called <;>
    simp only [ClientState.operate, stage, Option.some.injEq, Option.map_eq_some_iff,
      Option.bind_eq_some_iff] at operated
  case registering =>
    obtain ⟨frame, -, rfl⟩ := operated
    have unbinds := startSend_unbinds setting { state with
      requests := state.requests + 1
      core := { state.core with
        pending := state.core.pending.insert frame.messageId state.requests } }
      { operation with request := some state.requests }
    exact departed.of_unbinds (unbinds.of_eq rfl rfl rfl) offline
  case sending =>
    obtain ⟨frame, -, rfl⟩ := operated
    exact departed.of_unbinds (state.sendFrame_unbinds setting operation frame answer) offline
  case waiting request =>
    obtain ⟨frame, -, awaited⟩ := operated
    obtain ⟨core, result, -, slot, rfl⟩ := await_eq_some awaited
    have unbinds := finish_unbinds (state.withCore core) operation result
    exact departed.of_unbinds (unbinds.of_eq rfl rfl slot) offline
  case leaving =>
    subst operated
    have unbinds := finish_unbinds ((state.withCore { state.core with pending := ∅
      }).handleTerminalEvent setting (.disconnected "Client disconnected")) operation
      (if answer.succeeds then .ok () else .error answer.error)
    refine departed.of_unbinds (unbinds.of_eq (by simp) ?_ (by simp)) offline
    exact (handleTerminalEvent_undisturbed setting _ _).connection
  case disconnecting | disconnected => cases called
  all_goals cases idle

/-- Until the application connects, nothing fills the two places. -/
theorem Departed.step {next : ClientState} {move : Move} (departed : state.Departed)
    (stepped : state.step setting move = some next) (notConnect : move.isConnect = false) :
    next.Departed := by
  have offline := departed.offline.step stepped notConnect
  obtain ⟨after, performed, rfl⟩ := Option.map_eq_some_iff.mp stepped
  replace offline : after.Offline := ⟨offline.closed, offline.idle⟩
  suffices after.Departed from
    ⟨this.connection, this.slot, this.idle, ⟨this.offline.closed, this.offline.idle⟩⟩
  cases move with
  | call call =>
      simp only [perform, Option.ite_none_right_eq_some] at performed
      obtain ⟨-, started⟩ := performed
      obtain rfl := Option.some.inj started
      exact departed.start offline
  | submit frame waits =>
      obtain rfl := Option.some.inj performed
      exact ⟨departed.connection, departed.slot, departed.idle, offline⟩
  | send index answer =>
      obtain ⟨sender, -, sent⟩ := Option.bind_eq_some_iff.mp performed
      obtain only | ⟨-, stage, call, -, rfl⟩ := sendStep_eq_some sent
      · exact departed.of_beside (.of_senderOnly only) offline
      · have moved : (state.sender index stage).Departed :=
          ⟨departed.connection, departed.slot, departed.idle,
            ⟨departed.offline.closed, departed.offline.idle⟩⟩
        exact moved.start offline
  | operate answer =>
      obtain ⟨operation, current, operated⟩ := Option.bind_eq_some_iff.mp performed
      exact departed.operate current offline operated
  | read line event => exact departed.of_beside (read_beside performed).1 offline
  | handOver line => exact departed.of_beside (handOver_beside performed).1 offline
  | work index answer =>
      obtain ⟨task, -, rfl⟩ := Option.map_eq_some_iff.mp performed
      exact departed.of_beside (work_beside index answer task) offline

end ClientState

section Runs

variable [RustText]

/-- **At most one open connection carries the observer of the client, and from the return of
`disconnect` until the application connects none does**, in every run in which no step gives up
an open connection that a task still holds on to. -/
theorem at_most_one_open_line (setting : ClientSetting) {start state : ClientState}
    (initial : start.IsInitial setting.config)
    (reached : (clientSystem setting).Reaches (NothingLeaks setting) start state) :
    (∀ first second, state.isOpen first = true → state.isOpen second = true → first = second) ∧
      (state.operation = none →
        (state.returned.any fun returned => returned.1.isDisconnect) = true →
        ∀ later, (clientSystem setting).Reaches
          (fun state move => NothingLeaks setting state move ∧ move.isConnect = false) state later →
        ∀ line, later.isOpen line = false) := by
  have tidy : state.Tidy setting := by
    refine System.Reaches.invariant (I := ClientState.Tidy setting) reached
      (ClientState.tidy_of_isInitial initial) ?_
    rintro before after ⟨move, sealed, stepped⟩ tidy
    exact tidy.step sealed stepped
  refine ⟨tidy.unique, fun free returned later continued line => ?_⟩
  have vacant := tidy.vacant free returned
  have departed : state.Departed :=
    ⟨vacant.connection, vacant.slot, by simp [ClientState.callLine, free],
      ClientState.offline_of_free (.inr vacant.requested) free⟩
  have kept : later.Tidy setting ∧ later.Departed := by
    refine System.Reaches.invariant
      (I := fun state : ClientState => state.Tidy setting ∧ state.Departed) continued
      ⟨tidy, departed⟩ ?_
    rintro before after ⟨move, ⟨sealed, notConnect⟩, stepped⟩ ⟨tidy, departed⟩
    exact ⟨tidy.step sealed stepped, departed.step stepped notConnect⟩
  exact kept.1.isOpen_eq_false kept.2.connection kept.2.slot kept.2.idle line

end Runs

/-! ## Concrete runs -/

section Examples

open scoped AsciiText

/-- A client that connects, negotiates and disconnects: the theorem applies. -/
theorem at_most_one_open_line_disconnected :
    ∃ state, (clientSystem kickable).Reaches (NothingLeaks kickable) (.new kickable.config) state ∧
      state.lines.length = 1 ∧ ∀ line, state.isOpen line = false := by
  have run : ((clientSystem kickable).run (.new kickable.config)
      (connectsAndNegotiates ++ .call .disconnect :: operates 3)).any (fun state =>
        decide (state.operation.isNone ∧ state.lines.length = 1 ∧
          (state.returned.any fun returned => returned.1.isDisconnect) = true)) = true := by
    decide +kernel
  have permitted : (clientSystem kickable).Permits (NothingLeaks kickable) (.new kickable.config)
      (connectsAndNegotiates ++ .call .disconnect :: operates 3) := by
    decide +kernel
  obtain ⟨state, reached, holds⟩ := System.exists_reaches_of_run run permitted
  obtain ⟨free, one, returned⟩ := of_decide_eq_true holds
  have closed := (at_most_one_open_line kickable (.inl rfl) reached).2
    (Option.isNone_iff_eq_none.mp free) returned state .refl
  exact ⟨state, reached, one, closed⟩

/-- **Two open connections carry the observer.**  The handler of a KICKED has taken the
connection out of the slot and not yet closed it when the application connects again: a
WebSocket client dials and forgets the connection it had. -/
theorem two_lines_open_behind_kick :
    ∃ state, (clientSystem kickable).Reaches System.always (.new kickable.config) state ∧
      state.isOpen 0 = true ∧ state.isOpen 1 = true := by
  have run : ((clientSystem kickable).run (.new kickable.config)
      (connectsAndNegotiates ++ arrives 0 conflictKick ++ works 4 4 ++ .call .connect ::
        operates 6)).any (fun state => state.isOpen 0 && state.isOpen 1) = true := by
    decide +kernel
  obtain ⟨state, reached, holds⟩ :=
    System.exists_reaches_of_run run (System.permits_always _ _)
  obtain ⟨first, second⟩ := Bool.and_eq_true_iff.mp holds
  exact ⟨state, reached, first, second⟩

end Examples
end FlareCore.Client
