import FlareCore.Client.Runtime

/-!
# What a step changes in the core

The tasks and the readers of a client run beside the call that has the client.  They never
touch what belongs to the call, and `TaskEffect` lists what they can do to the core: every
property of the core that is to survive them is checked against that list once.  The slot of
the current connection, the heartbeat, the requests in flight and the mark of a server shutdown
are left aside by `ClientCore.Agrees`, since no outcome of a connection depends on them.
-/

namespace FlareCore.Client

open FlareCore.Common FlareCore.Server FlareCore.Foundations

set_option autoImplicit false

/-! ## What belongs to the call -/

/-- The part of a client that only its calls and senders change. -/
structure Undisturbed (before after : ClientState) : Prop where
  operation : after.operation = before.operation
  connection : after.connection = before.connection
  connectionPrepared : after.connectionPrepared = before.connectionPrepared
  senders : after.senders = before.senders
  returned : after.returned = before.returned

namespace Undisturbed

variable {first second third : ClientState}

@[refl]
theorem refl (state : ClientState) : Undisturbed state state :=
  ⟨rfl, rfl, rfl, rfl, rfl⟩

theorem after (right : Undisturbed second third) (left : Undisturbed first second) :
    Undisturbed first third :=
  ⟨right.operation.trans left.operation, right.connection.trans left.connection,
    right.connectionPrepared.trans left.connectionPrepared, right.senders.trans left.senders,
    right.returned.trans left.returned⟩

end Undisturbed

namespace ClientState

variable (setting : ClientSetting) (state : ClientState)

theorem inform_undisturbed (event : ConnectionEvent) :
    Undisturbed state (state.inform setting event) := by
  unfold inform
  split <;> exact ⟨rfl, rfl, rfl, rfl, rfl⟩

theorem handleTerminalEvent_undisturbed (event : ConnectionEvent) :
    Undisturbed state (state.handleTerminalEvent setting event) := by
  have informed := state.inform_undisturbed setting event
  exact ⟨informed.operation, informed.connection, informed.connectionPrepared, informed.senders,
    informed.returned⟩

theorem handleConnected_undisturbed (alreadyConnected : Bool) :
    Undisturbed state (state.handleConnected setting alreadyConnected) := by
  have informed := state.inform_undisturbed setting .connected
  exact ⟨informed.operation, informed.connection, informed.connectionPrepared, informed.senders,
    informed.returned⟩

theorem onTerminalEvent_undisturbed (event : ConnectionEvent) :
    Undisturbed state (state.onTerminalEvent setting event) := by
  unfold onTerminalEvent
  split
  · exact ⟨rfl, rfl, rfl, rfl, rfl⟩
  · exact state.handleTerminalEvent_undisturbed setting event

theorem announce_undisturbed (line : Nat) (event : ConnectionEvent) :
    Undisturbed state (state.announce setting line event) := by
  unfold announce
  split
  · exact (onTerminalEvent_undisturbed setting _ event).after ⟨rfl, rfl, rfl, rfl, rfl⟩
  · exact .refl state

theorem tryStartHeartbeat_undisturbed : Undisturbed state (state.tryStartHeartbeat setting) := by
  unfold tryStartHeartbeat
  split
  · exact .refl state
  · split <;> exact ⟨rfl, rfl, rfl, rfl, rfl⟩

theorem callsHandler_undisturbed (origin : Origin) (call : HandlerCall) :
    Undisturbed state (state.callsHandler setting origin call) := by
  unfold callsHandler
  split <;> exact ⟨rfl, rfl, rfl, rfl, rfl⟩

section Work

variable [RustText]

theorem handleFrame_undisturbed (index : Nat) (task : FrameTask) (answer : Answer)
    (stage : Handling) :
    Undisturbed state (state.handleFrame setting index task answer stage) := by
  cases stage with
  | matching frame =>
      simp only [handleFrame, matchResponse]
      split
      · exact ⟨rfl, rfl, rfl, rfl, rfl⟩
      · split <;> exact ⟨rfl, rfl, rfl, rfl, rfl⟩
  | dispatching frame =>
      simp only [handleFrame, dispatch]
      split
      · exact ⟨rfl, rfl, rfl, rfl, rfl⟩
      · split
        all_goals first
          | exact (callsHandler_undisturbed setting _ _ _).after ⟨rfl, rfl, rfl, rfl, rfl⟩
          | exact ⟨rfl, rfl, rfl, rfl, rfl⟩
          | (split <;> exact ⟨rfl, rfl, rfl, rfl, rfl⟩)
  | acknowledging frame =>
      simp only [handleFrame, acknowledge]
      split
      · split
        · exact ⟨rfl, rfl, rfl, rfl, rfl⟩
        · exact (tryStartHeartbeat_undisturbed setting _).after ⟨rfl, rfl, rfl, rfl, rfl⟩
      · exact ⟨rfl, rfl, rfl, rfl, rfl⟩
  | negotiationFailed frame error =>
      exact (handleTerminalEvent_undisturbed setting _ _).after ⟨rfl, rfl, rfl, rfl, rfl⟩
  | readying frame =>
      refine (tryStartHeartbeat_undisturbed setting _).after ?_
      simp only [sendNegotiationReady]
      split
      · split <;> exact ⟨rfl, rfl, rfl, rfl, rfl⟩
      · exact ⟨rfl, rfl, rfl, rfl, rfl⟩
  | kicked frame command =>
      simp only [handleFrame, kick]
      split <;> exact ⟨rfl, rfl, rfl, rfl, rfl⟩
  | kickAnnouncing frame reason line =>
      exact (announce_undisturbed setting _ _ _).after ⟨rfl, rfl, rfl, rfl, rfl⟩
  | kickReporting frame reason =>
      simp only [handleFrame, reportKick]
      split <;> exact ⟨rfl, rfl, rfl, rfl, rfl⟩
  | closing frame command =>
      simp only [handleFrame, handleClose]
      split
      · split <;> exact ⟨rfl, rfl, rfl, rfl, rfl⟩
      · exact ⟨rfl, rfl, rfl, rfl, rfl⟩
  | closeAnnouncing frame detail line =>
      exact (announce_undisturbed setting _ _ _).after ⟨rfl, rfl, rfl, rfl, rfl⟩
  | handlingBusiness frame =>
      simp only [handleFrame, handleBusiness]
      cases businessCall frame with
      | none => exact ⟨rfl, rfl, rfl, rfl, rfl⟩
      | some call => exact (callsHandler_undisturbed setting _ _ _).after ⟨rfl, rfl, rfl, rfl, rfl⟩
  | received | reparsing | responding frame | kickShutting frame reason line
  | closeShutting frame detail line | delivering frame system | finished frame | dropped =>
      exact ⟨rfl, rfl, rfl, rfl, rfl⟩

theorem work_undisturbed (index : Nat) (answer : Answer) (task : Task) :
    Undisturbed state (state.work setting index answer task) := by
  cases task with
  | frame task => exact state.handleFrame_undisturbed setting index task answer task.stage
  | deferred event =>
      exact (handleTerminalEvent_undisturbed setting _ event).after ⟨rfl, rfl, rfl, rfl, rfl⟩
  | heartbeat line beat =>
      cases beat with
      | beating =>
          simp only [work, ClientState.beat]
          split
          · split <;> exact ⟨rfl, rfl, rfl, rfl, rfl⟩
          · exact ⟨rfl, rfl, rfl, rfl, rfl⟩
      | shutting reason => exact ⟨rfl, rfl, rfl, rfl, rfl⟩
      | announcing reason =>
          exact (announce_undisturbed setting _ _ _).after ⟨rfl, rfl, rfl, rfl, rfl⟩
  | clearing | informing event | done => exact ⟨rfl, rfl, rfl, rfl, rfl⟩

end Work

end ClientState

/-! ## What happens to the core -/

/-- Agreement on everything that the outcome of a connection depends on. -/
structure ClientCore.Agrees (first second : ClientCore) : Prop where
  state : second.state = first.state
  parser : second.parser = first.parser
  negotiationCompleted : second.negotiationCompleted = first.negotiationCompleted
  negotiationFailure : second.negotiationFailure = first.negotiationFailure
  disconnectRequested : second.disconnectRequested = first.disconnectRequested
  sessionEndedByServer : second.sessionEndedByServer = first.sessionEndedByServer
  pendingKick : second.pendingKick = first.pendingKick
  kickReported : second.kickReported = first.kickReported

namespace ClientCore.Agrees

theorem refl (core : ClientCore) : core.Agrees core :=
  ⟨rfl, rfl, rfl, rfl, rfl, rfl, rfl, rfl⟩

variable {first second : ClientCore}

theorem lose (agrees : first.Agrees second) (state : ConnectionState) (detail : String) :
    (first.lose state detail).1.Agrees (second.lose state detail).1 := by
  have during : second.closedDuringNegotiation = first.closedDuringNegotiation := by
    simp only [closedDuringNegotiation, agrees.state, agrees.negotiationCompleted,
      agrees.disconnectRequested]
  simp only [ClientCore.lose, closeReport, during, agrees.pendingKick]
  cases first.pendingKick <;> cases first.closedDuringNegotiation <;>
    constructor <;> simp [failNegotiationOnClose, agrees.parser, agrees.negotiationFailure,
      agrees.disconnectRequested, agrees.sessionEndedByServer, agrees.kickReported,
      agrees.pendingKick]

/-- The end of a connection only looks at what the outcome depends on. -/
theorem handleTerminalEvent (agrees : first.Agrees second) (event : ConnectionEvent) :
    (first.handleTerminalEvent event).1.Agrees (second.handleTerminalEvent event).1 := by
  cases event with
  | connected | message data => exact agrees
  | disconnected reason =>
      have marked : Agrees
          { first with
            serverShutdown := first.serverShutdown || isServerShutdownReason reason }
          { second with
            serverShutdown := second.serverShutdown || isServerShutdownReason reason } :=
        { agrees with }
      exact marked.lose .disconnected reason
  | error error => exact agrees.lose .failed error.text

end ClientCore.Agrees

namespace ClientCore

variable (core : ClientCore)

theorem lose_state (state : ConnectionState) (detail : String) :
    (core.lose state detail).1.state = state := by
  simp only [lose]
  split <;> rfl

theorem lose_disconnectRequested (state : ConnectionState)
    (detail : String) :
    (core.lose state detail).1.disconnectRequested = core.disconnectRequested := by
  simp only [lose, closeReport]
  split <;> cases core.pendingKick <;> rfl

theorem lose_sessionEndedByServer (state : ConnectionState)
    (detail : String) :
    (core.lose state detail).1.sessionEndedByServer = core.sessionEndedByServer := by
  simp only [lose, closeReport]
  split <;> cases core.pendingKick <;> rfl

/-- The end of a connection does not make a client connected. -/
theorem handleTerminalEvent_state_ne_connected
    (unconnected : core.state ≠ .connected) (event : ConnectionEvent) :
    (core.handleTerminalEvent event).1.state ≠ .connected := by
  cases event with
  | connected | message data => exact unconnected
  | disconnected reason =>
      simp [handleTerminalEvent, lose_state]
  | error error =>
      simp [handleTerminalEvent, lose_state]

theorem handleTerminalEvent_disconnectRequested (event : ConnectionEvent) :
    (core.handleTerminalEvent event).1.disconnectRequested = core.disconnectRequested := by
  cases event with
  | connected | message data => rfl
  | disconnected reason => simp [handleTerminalEvent, lose_disconnectRequested]
  | error error => simp [handleTerminalEvent, lose_disconnectRequested]

theorem handleTerminalEvent_sessionEndedByServer (event : ConnectionEvent) :
    (core.handleTerminalEvent event).1.sessionEndedByServer = core.sessionEndedByServer := by
  cases event with
  | connected | message data => rfl
  | disconnected reason => simp [handleTerminalEvent, lose_sessionEndedByServer]
  | error error => simp [handleTerminalEvent, lose_sessionEndedByServer]

end ClientCore

/-- What a task, or a reader, can do to the core. -/
inductive TaskEffect [RustText] (setting : ClientSetting) (core after : ClientCore) :
    Option Task → Prop
  | keeps {doer : Option Task} (agrees : core.Agrees after) : TaskEffect setting core after doer
  | rejects {doer : Option Task} (command : SystemCommand)
      (agrees : (core.recordConnectRejection command).Agrees after) :
      TaskEffect setting core after doer
  | loses {doer : Option Task} (event : ConnectionEvent)
      (agrees : (core.handleTerminalEvent event).1.Agrees after) :
      TaskEffect setting core after doer
  | reports {doer : Option Task} (agrees : core.takeUnreportedKick.1.Agrees after) :
      TaskEffect setting core after doer
  | fails {doer : Option Task} (error : FlareError)
      (agrees : { core with negotiationFailure := some error }.Agrees after) :
      TaskEffect setting core after doer
  | acknowledges {task : FrameTask} {frame : Frame} {profile : Profile}
      (stage : task.stage = .acknowledging frame) (read : handleConnectAck frame = .ok profile)
      (agrees : (core.completeNegotiation setting.config profile).Agrees after) :
      TaskEffect setting core after (some (.frame task))
  | kicks {task : FrameTask} {frame : Frame} {command : SystemCommand}
      (stage : task.stage = .kicked frame command)
      (agrees : (core.recordKick (kickReason command)
        (task.negotiated && !core.disconnectRequested)).Agrees after) :
      TaskEffect setting core after (some (.frame task))

namespace ClientState

variable (setting : ClientSetting) (state : ClientState)

@[simp]
theorem inform_core (event : ConnectionEvent) : (state.inform setting event).core = state.core := by
  unfold inform
  split <;> rfl

@[simp]
theorem callsHandler_core (origin : Origin) (call : HandlerCall) :
    (state.callsHandler setting origin call).core = state.core := by
  unfold callsHandler
  split <;> rfl

@[simp]
theorem handleTerminalEvent_core (event : ConnectionEvent) :
    (state.handleTerminalEvent setting event).core = (state.core.handleTerminalEvent event).1 :=
  rfl

@[simp]
theorem handleConnected_core (alreadyConnected : Bool) :
    (state.handleConnected setting alreadyConnected).core =
      state.core.handleConnected alreadyConnected :=
  rfl

@[simp]
theorem inform_lines (event : ConnectionEvent) :
    (state.inform setting event).lines = state.lines := by
  unfold inform
  split <;> rfl

@[simp]
theorem handleTerminalEvent_lines (event : ConnectionEvent) :
    (state.handleTerminalEvent setting event).lines = state.lines :=
  state.inform_lines setting event

@[simp]
theorem handleConnected_lines (alreadyConnected : Bool) :
    (state.handleConnected setting alreadyConnected).lines = state.lines :=
  state.inform_lines setting .connected

@[simp]
theorem handleConnected_slot (alreadyConnected : Bool) :
    (state.handleConnected setting alreadyConnected).core.clientConnection =
      state.core.clientConnection := by
  simp only [handleConnected_core, ClientCore.handleConnected]
  split <;> rfl

theorem tryStartHeartbeat_agrees : state.core.Agrees (state.tryStartHeartbeat setting).core := by
  unfold tryStartHeartbeat
  split
  · exact .refl _
  · split <;> exact ⟨rfl, rfl, rfl, rfl, rfl, rfl, rfl, rfl⟩

theorem onTerminalEvent_core (event : ConnectionEvent) :
    (state.onTerminalEvent setting event).core = state.core ∨
      (state.onTerminalEvent setting event).core = (state.core.handleTerminalEvent event).1 := by
  unfold onTerminalEvent
  split
  · exact .inl rfl
  · exact .inr rfl

theorem announce_core (line : Nat) (event : ConnectionEvent) :
    (state.announce setting line event).core = state.core ∨
      (state.announce setting line event).core = (state.core.handleTerminalEvent event).1 := by
  unfold announce
  split
  · exact onTerminalEvent_core setting _ event
  · exact .inl rfl

variable [RustText]

/-- The end of a line, reported or not. -/
theorem announce_effect (line : Nat) (event : ConnectionEvent) (doer : Option Task) :
    TaskEffect setting state.core (state.announce setting line event).core doer := by
  obtain kept | lost := state.announce_core setting line event
  · exact .keeps (kept ▸ .refl _)
  · exact .loses event (lost ▸ .refl _)

theorem receive_effect (line : Nat) (data : Bytes) :
    TaskEffect setting state.core (state.receive setting line data).core none := by
  simp only [receive, spawn_core, withCore_core]
  split
  · exact .keeps (.refl _)
  · cases setting.rejection data with
    | none => exact .keeps (.refl _)
    | some command => exact .rejects command (.refl _)

theorem deliver_effect (line : Nat) (event : ConnectionEvent) :
    TaskEffect setting state.core (state.deliver setting line event).core none := by
  cases event with
  | message data => exact state.receive_effect setting line data
  | connected => exact .keeps (.refl _)
  | disconnected reason => exact state.announce_effect setting line (.disconnected reason) none
  | error error => exact state.announce_effect setting line (.error error) none

theorem deliver_undisturbed (line : Nat) (event : ConnectionEvent) :
    Undisturbed state (state.deliver setting line event) := by
  cases event with
  | message data => exact ⟨rfl, rfl, rfl, rfl, rfl⟩
  | connected => exact .refl state
  | disconnected reason => exact state.announce_undisturbed setting line (.disconnected reason)
  | error error => exact state.announce_undisturbed setting line (.error error)

omit [RustText] in
/-- What a KICKED does to the core, besides taking the connection out of its slot. -/
theorem kick_agrees (index : Nat) (task : FrameTask) (frame : Frame) (command : SystemCommand) :
    (state.core.recordKick (kickReason command)
      (task.negotiated && !state.core.disconnectRequested)).Agrees
        (state.kick index task frame command).core := by
  unfold kick
  split <;> exact ⟨rfl, rfl, rfl, rfl, rfl, rfl, rfl, rfl⟩

/-- Every stage of a frame has one of the listed effects. -/
theorem handleFrame_effect (index : Nat) (task : FrameTask) (answer : Answer) :
    TaskEffect setting state.core (state.handleFrame setting index task answer task.stage).core
      (some (.frame task)) := by
  cases stage : task.stage with
  | matching frame =>
      simp only [handleFrame, matchResponse]
      split
      · exact .keeps ⟨rfl, rfl, rfl, rfl, rfl, rfl, rfl, rfl⟩
      · split <;> exact .keeps ⟨rfl, rfl, rfl, rfl, rfl, rfl, rfl, rfl⟩
  | dispatching frame =>
      simp only [handleFrame, dispatch]
      split
      · exact .keeps (.refl _)
      next command _ =>
        split
        all_goals try simp only [callsHandler_core, advance_core]
        all_goals try exact .keeps (.refl _)
        split
        · exact .keeps (.refl _)
        · exact .rejects command (.refl _)
  | acknowledging frame =>
      simp only [handleFrame, acknowledge]
      split
      next profile read =>
        split
        · exact .acknowledges stage read ⟨rfl, rfl, rfl, rfl, rfl, rfl, rfl, rfl⟩
        · have started := tryStartHeartbeat_agrees setting
            ((state.withCore (state.core.completeNegotiation setting.config profile)).advance index
              task (.readying frame))
          exact .acknowledges stage read started
      next error _ =>
        exact .fails (.protocolError error.text) ⟨rfl, rfl, rfl, rfl, rfl, rfl, rfl, rfl⟩
  | negotiationFailed frame error =>
      have kept : state.core.Agrees { state.core with pending := ∅ } :=
        ⟨rfl, rfl, rfl, rfl, rfl, rfl, rfl, rfl⟩
      exact .loses (.error error) (kept.handleTerminalEvent (.error error))
  | readying frame =>
      refine .keeps ?_
      have started := tryStartHeartbeat_agrees setting
        ((state.advance index task (.delivering frame true)).sendNegotiationReady setting answer)
      have kept : ((state.advance index task (.delivering frame true)).sendNegotiationReady setting
          answer).core = state.core := by
        simp only [sendNegotiationReady]
        split
        · split <;> rfl
        · rfl
      exact kept ▸ started
  | kicked frame command =>
      exact .kicks stage (state.kick_agrees index task frame command)
  | kickAnnouncing frame reason line =>
      exact (state.advance index task (.kickReporting frame reason)).announce_effect setting line
        _ _
  | kickReporting frame reason =>
      simp only [handleFrame, reportKick]
      split
      · exact .keeps ⟨rfl, rfl, rfl, rfl, rfl, rfl, rfl, rfl⟩
      · refine .reports ?_
        simp only [ClientCore.takeUnreportedKick, notifyAll_core, withCore_core, advance_core]
        split <;> exact ⟨rfl, rfl, rfl, rfl, rfl, rfl, rfl, rfl⟩
  | closing frame command =>
      simp only [handleFrame, handleClose]
      split
      · split <;> exact .keeps ⟨rfl, rfl, rfl, rfl, rfl, rfl, rfl, rfl⟩
      · exact .rejects command ⟨rfl, rfl, rfl, rfl, rfl, rfl, rfl, rfl⟩
  | closeAnnouncing frame detail line =>
      exact (state.advance index task (.delivering frame true)).announce_effect setting line _ _
  | handlingBusiness frame =>
      refine .keeps ?_
      simp only [handleFrame, handleBusiness]
      cases businessCall frame with
      | none => exact .refl _
      | some call => simpa using .refl _
  | received | reparsing | responding frame | kickShutting frame reason line
  | closeShutting frame detail line | delivering frame system | finished frame | dropped =>
      exact .keeps (.refl _)

theorem work_effect (index : Nat) (answer : Answer) (task : Task) :
    TaskEffect setting state.core (state.work setting index answer task).core (some task) := by
  cases task with
  | frame task => exact state.handleFrame_effect setting index task answer
  | deferred event => exact .loses event (.refl _)
  | heartbeat line beat =>
      cases beat with
      | beating =>
          simp only [work, ClientState.beat]
          split
          · split <;> exact .keeps (.refl _)
          · exact .keeps (.refl _)
      | shutting reason => exact .keeps (.refl _)
      | announcing reason => exact (state.put index .done).announce_effect setting line _ _
  | clearing => exact .keeps ⟨rfl, rfl, rfl, rfl, rfl, rfl, rfl, rfl⟩
  | informing event | done => exact .keeps (.refl _)

end ClientState

namespace TaskEffect

variable [RustText] {setting : ClientSetting} {core after : ClientCore} {doer : Option Task}

/-- No task makes a client connected; that is the work of the calls. -/
theorem state_ne_connected (effect : TaskEffect setting core after doer)
    (unconnected : core.state ≠ .connected) : after.state ≠ .connected := by
  cases effect with
  | keeps agrees | rejects command agrees | fails error agrees | acknowledges stage read agrees =>
      rw [agrees.state]
      exact unconnected
  | loses event agrees =>
      rw [agrees.state]
      exact core.handleTerminalEvent_state_ne_connected unconnected event
  | reports agrees =>
      rw [agrees.state]
      simp only [ClientCore.takeUnreportedKick]
      split <;> exact unconnected
  | kicks stage agrees =>
      rw [agrees.state]
      simp only [ClientCore.recordKick]
      split <;> exact ConnectionState.noConfusion

/-- Whether a disconnection was requested is for `disconnect` alone to say. -/
theorem disconnectRequested_eq (effect : TaskEffect setting core after doer) :
    after.disconnectRequested = core.disconnectRequested := by
  cases effect with
  | keeps agrees | rejects command agrees | fails error agrees | acknowledges stage read agrees =>
      exact agrees.disconnectRequested
  | loses event agrees =>
      rw [agrees.disconnectRequested]
      exact core.handleTerminalEvent_disconnectRequested event
  | reports agrees =>
      rw [agrees.disconnectRequested]
      simp only [ClientCore.takeUnreportedKick]
      split <;> rfl
  | kicks stage agrees =>
      rw [agrees.disconnectRequested]
      simp only [ClientCore.recordKick]
      split <;> rfl

end TaskEffect

/-! ## Calls -/

namespace ClientState

variable (setting : ClientSetting) (state : ClientState)

@[simp]
theorem finish_core (operation : Operation) (result : Result Unit) :
    (state.finish operation result).core = state.core := by
  unfold finish
  split <;> rfl

@[simp]
theorem finish_operation (operation : Operation) (result : Result Unit) :
    (state.finish operation result).operation = none := by
  unfold finish
  split <;> rfl

@[simp]
theorem finish_lines (operation : Operation) (result : Result Unit) :
    (state.finish operation result).lines = state.lines := by
  unfold finish
  split <;> rfl

@[simp]
theorem finish_tasks (operation : Operation) (result : Result Unit) :
    (state.finish operation result).tasks = state.tasks := by
  unfold finish
  split <;> rfl

@[simp]
theorem finish_connection (operation : Operation) (result : Result Unit) :
    (state.finish operation result).connection = state.connection := by
  unfold finish
  split <;> rfl

@[simp]
theorem finish_returned (operation : Operation) (result : Result Unit) :
    (state.finish operation result).returned = some (operation.call, result) := by
  unfold finish
  split <;> rfl

/-- A call that waits for a response ends when it stops waiting. -/
theorem await_eq_some {state after : ClientState} {operation : Operation} {frame : Frame}
    {request : Nat} {answer : Answer}
    (awaited : state.await operation frame request answer = some after) :
    ∃ core result, state.core.Agrees core ∧
      core.clientConnection = state.core.clientConnection ∧
        after = (state.withCore core).finish operation result := by
  have cancelled : state.core.Agrees
      { state.core with pending := state.core.pending.erase frame.messageId } :=
    ⟨rfl, rfl, rfl, rfl, rfl, rfl, rfl, rfl⟩
  simp only [await] at awaited
  split at awaited
  · exact ⟨state.core, _, .refl _, rfl, (Option.some.inj awaited).symm⟩
  · split at awaited
    · exact ⟨_, _, cancelled, rfl, (Option.some.inj awaited).symm⟩
    · split at awaited
      · exact ⟨_, _, cancelled, rfl, (Option.some.inj awaited).symm⟩
      · cases awaited

end ClientState

/-- The stages at which a call refers to no line, and nothing is known about the two places. -/
def Stage.isUnbound : Stage → Bool
  | pausing | establishing | registering | sending | waiting _ => true
  | retiring _ | retired _ | replacing _ | replaced _ | dialing | settingUp _ | attaching _
  | connecting _ _ | watching _ | greeting _ | confirming _ | announcing _ _ | disconnecting _
  | disconnected _ | leaving => false

theorem Stage.line_of_isUnbound {stage : Stage} (unbound : stage.isUnbound = true) :
    stage.line = none := by
  cases stage <;> trivial

/-- A call that goes on without a line, or returns, and leaves both places as they are. -/
structure Unbinds (before : ClientState) (operation : Operation) (after : ClientState) : Prop where
  lines : after.lines = before.lines
  connection : after.connection = before.connection
  slot : after.core.clientConnection = before.core.clientConnection
  outcome : (after.operation = none ∧ ∃ result, after.returned = some (operation.call, result)) ∨
    ∃ next, after.operation = some next ∧ next.call = operation.call ∧
      next.stage.isUnbound = true

theorem Unbinds.of_eq {state before after : ClientState} {operation : Operation}
    (unbinds : Unbinds before operation after) (lines : before.lines = state.lines)
    (connection : before.connection = state.connection)
    (slot : before.core.clientConnection = state.core.clientConnection) :
    Unbinds state operation after :=
  ⟨unbinds.lines.trans lines, unbinds.connection.trans connection, unbinds.slot.trans slot,
    unbinds.outcome⟩

namespace ClientState

variable (setting : ClientSetting) (state : ClientState)

theorem finish_unbinds (operation : Operation) (result : Result Unit) :
    Unbinds state operation (state.finish operation result) where
  lines := state.finish_lines operation result
  connection := state.finish_connection operation result
  slot := by rw [finish_core]
  outcome := .inl ⟨state.finish_operation operation result, result,
    state.finish_returned operation result⟩

theorem tryReconnect_unbinds (operation : Operation) :
    Unbinds state operation (state.tryReconnect setting operation) := by
  unfold tryReconnect
  split
  · exact (finish_unbinds _ operation _).of_eq rfl rfl rfl
  · exact ⟨rfl, rfl, rfl, .inr ⟨_, rfl, rfl, rfl⟩⟩

theorem failConnect_unbinds (operation : Operation) (error : FlareError) :
    Unbinds state operation (state.failConnect setting operation error) := by
  simp only [failConnect]
  split
  · exact (tryReconnect_unbinds setting _ operation).of_eq rfl rfl rfl
  · exact (finish_unbinds _ operation _).of_eq rfl rfl rfl

theorem startSend_unbinds (operation : Operation) :
    Unbinds state operation (state.startSend setting operation) := by
  unfold startSend
  split
  · exact state.tryReconnect_unbinds setting operation
  · exact ⟨rfl, rfl, rfl, .inr ⟨_, rfl, rfl, rfl⟩⟩

theorem startConnect_unbinds (call : Call) :
    Unbinds state ⟨call, none, setting.canReconnect, .establishing⟩
      (state.startConnect setting call) := by
  simp only [startConnect]
  split
  · exact ⟨rfl, rfl, rfl, .inr ⟨_, rfl, rfl, rfl⟩⟩
  · exact state.finish_unbinds _ _

theorem start_unbinds {call : Call} (notDisconnect : call ≠ .disconnect) :
    ∃ operation : Operation, operation.call = call ∧
      Unbinds state operation (state.start setting call) := by
  cases call with
  | connect => exact ⟨_, rfl, state.startConnect_unbinds setting .connect⟩
  | renew index => exact ⟨_, rfl, state.startConnect_unbinds setting (.renew index)⟩
  | disconnect => exact absurd rfl notDisconnect
  | send frame => exact ⟨_, rfl, state.startSend_unbinds setting _⟩
  | sendAndWait frame =>
      simp only [start]
      split
      · exact ⟨_, rfl, state.finish_unbinds _ _⟩
      · exact ⟨_, rfl, ⟨rfl, rfl, rfl, .inr ⟨_, rfl, rfl, rfl⟩⟩⟩

theorem failConnect_tasks (operation : Operation) (error : FlareError) :
    (state.failConnect setting operation error).tasks = state.tasks := by
  simp only [failConnect, tryReconnect]
  split
  · split
    · simp
    · rfl
  · simp

variable [RustText]

theorem sendFrame_unbinds (operation : Operation) (frame : Frame) (answer : Answer) :
    Unbinds state operation (state.sendFrame setting operation frame answer) := by
  unfold sendFrame
  split
  · exact (finish_unbinds _ operation _).of_eq rfl rfl rfl
  · exact ⟨rfl, rfl, rfl, .inr ⟨_, rfl, rfl, rfl⟩⟩
  · exact state.finish_unbinds operation _

omit [RustText] in
theorem connectDone_unbinds (operation : Operation) (alreadyConnected : Bool) :
    Unbinds state operation (state.connectDone setting operation alreadyConnected) := by
  have lines := state.handleConnected_lines setting alreadyConnected
  have connection := (state.handleConnected_undisturbed setting alreadyConnected).connection
  have slot := state.handleConnected_slot setting alreadyConnected
  unfold connectDone
  split
  · exact ⟨lines, connection, slot, .inr ⟨_, rfl, rfl, rfl⟩⟩
  · exact ⟨lines, connection, slot, .inr ⟨_, rfl, rfl, rfl⟩⟩
  all_goals exact (finish_unbinds _ operation _).of_eq lines connection slot

end ClientState

/-! ## What the steps of a call are made of -/

/-- Neither the tasks nor the logs change, nor the parser and whether the negotiation is completed,
nor what is to be reported. -/
structure SameRecords (before after : ClientState) : Prop where
  tasks : after.tasks = before.tasks
  notified : after.notified = before.notified
  callbacks : after.callbacks = before.callbacks
  parser : after.core.parser = before.core.parser
  negotiationCompleted : after.core.negotiationCompleted = before.core.negotiationCompleted
  pendingKick : after.core.pendingKick = before.core.pendingKick

namespace SameRecords

variable {first second third : ClientState}

theorem after (right : SameRecords second third) (left : SameRecords first second) :
    SameRecords first third :=
  ⟨right.tasks.trans left.tasks, right.notified.trans left.notified,
    right.callbacks.trans left.callbacks, right.parser.trans left.parser,
    right.negotiationCompleted.trans left.negotiationCompleted,
    right.pendingKick.trans left.pendingKick⟩

end SameRecords

/-- What a step of a call at a stage does to the records: it keeps them, leaves something to a
task, reports the end of a connection, or reports `Connected`, and any of these one after the
other. -/
inductive CallEffect (setting : ClientSetting) (stage : Stage) :
    ClientState → ClientState → Prop
  | keeps {before after : ClientState} (same : SameRecords before after) :
      CallEffect setting stage before after
  | spawns (before : ClientState) (task : Task) :
      CallEffect setting stage before (before.spawn task)
  | ends (before : ClientState) (event : ConnectionEvent) :
      CallEffect setting stage before (before.handleTerminalEvent setting event)
  | connects (before : ClientState) {line : Nat} {alreadyConnected : Bool}
      (reached : stage = .connecting line alreadyConnected ∨
        stage = .announcing line alreadyConnected) :
      CallEffect setting stage before (before.handleConnected setting alreadyConnected)
  | followed {first second third : ClientState} (left : CallEffect setting stage first second)
      (right : CallEffect setting stage second third) : CallEffect setting stage first third

theorem CallEffect.after {setting : ClientSetting} {stage : Stage}
    {first second third : ClientState} (right : CallEffect setting stage second third)
    (same : SameRecords first second) : CallEffect setting stage first third :=
  .followed (.keeps same) right

namespace ClientState

variable (setting : ClientSetting) (state : ClientState) {stage : Stage}

theorem onTerminalEvent_callEffect (event : ConnectionEvent) :
    CallEffect setting stage state (state.onTerminalEvent setting event) := by
  unfold onTerminalEvent
  split
  · exact .spawns state (.deferred event)
  · exact .ends state event

theorem announce_callEffect (line : Nat) (event : ConnectionEvent) :
    CallEffect setting stage state (state.announce setting line event) := by
  unfold announce
  split
  · exact (onTerminalEvent_callEffect setting _ event).after ⟨rfl, rfl, rfl, rfl, rfl, rfl⟩
  · exact .keeps ⟨rfl, rfl, rfl, rfl, rfl, rfl⟩

theorem finish_sameRecords (operation : Operation) (result : Result Unit) :
    SameRecords state (state.finish operation result) := by
  unfold finish
  split <;> exact ⟨rfl, rfl, rfl, rfl, rfl, rfl⟩

theorem tryReconnect_sameRecords (operation : Operation) :
    SameRecords state (state.tryReconnect setting operation) := by
  unfold tryReconnect
  split
  · exact (finish_sameRecords _ operation _).after ⟨rfl, rfl, rfl, rfl, rfl, rfl⟩
  · exact ⟨rfl, rfl, rfl, rfl, rfl, rfl⟩

theorem failConnect_sameRecords (operation : Operation) (error : FlareError) :
    SameRecords state (state.failConnect setting operation error) := by
  unfold failConnect
  split
  · exact (tryReconnect_sameRecords setting _ operation).after ⟨rfl, rfl, rfl, rfl, rfl, rfl⟩
  · exact (finish_sameRecords _ operation _).after ⟨rfl, rfl, rfl, rfl, rfl, rfl⟩

theorem startSend_sameRecords (operation : Operation) :
    SameRecords state (state.startSend setting operation) := by
  unfold startSend
  split
  · exact state.tryReconnect_sameRecords setting operation
  · exact ⟨rfl, rfl, rfl, rfl, rfl, rfl⟩

theorem startConnect_sameRecords (call : Call) :
    SameRecords state (state.startConnect setting call) := by
  unfold startConnect
  split
  · exact ⟨rfl, rfl, rfl, rfl, rfl, rfl⟩
  · exact state.finish_sameRecords _ _

/-- A call that begins keeps the records. -/
theorem start_sameRecords (call : Call) : SameRecords state (state.start setting call) := by
  cases call with
  | connect | renew index => exact state.startConnect_sameRecords setting _
  | disconnect => exact ⟨rfl, rfl, rfl, rfl, rfl, rfl⟩
  | send frame => exact state.startSend_sameRecords setting _
  | sendAndWait frame =>
      simp only [start]
      split
      · exact state.finish_sameRecords _ _
      · exact ⟨rfl, rfl, rfl, rfl, rfl, rfl⟩

variable [RustText]

/-- **Every step of a call is made of these.** -/
theorem operate_callEffect {state after : ClientState} {operation : Operation} {answer : Answer}
    (operated : state.operate setting operation answer = some after) :
    CallEffect setting operation.stage state after := by
  unfold operate at operated
  cases stage : operation.stage with
  | pausing | retiring line | replacing line | settingUp line | confirming line
  | disconnecting line =>
      simp only [stage, Option.some.injEq] at operated
      subst operated
      exact .keeps ⟨rfl, rfl, rfl, rfl, rfl, rfl⟩
  | retired line | replaced line | disconnected line =>
      simp only [stage, Option.some.injEq] at operated
      subst operated
      exact (announce_callEffect setting _ _ _).after ⟨rfl, rfl, rfl, rfl, rfl, rfl⟩
  | establishing =>
      simp only [stage, Option.some.injEq] at operated
      subst operated
      unfold establish
      split <;> exact .keeps ⟨rfl, rfl, rfl, rfl, rfl, rfl⟩
  | dialing =>
      simp only [stage, Option.some.injEq] at operated
      subst operated
      unfold dial
      split
      · exact .keeps ⟨rfl, rfl, rfl, rfl, rfl, rfl⟩
      · exact .keeps (state.failConnect_sameRecords setting operation _)
  | attaching line =>
      simp only [stage, Option.some.injEq] at operated
      subst operated
      unfold attach
      split
      · exact .keeps ⟨rfl, rfl, rfl, rfl, rfl, rfl⟩
      · exact (onTerminalEvent_callEffect setting _ _).after ⟨rfl, rfl, rfl, rfl, rfl, rfl⟩
  | connecting line already =>
      simp only [stage, Option.some.injEq] at operated
      subst operated
      exact .followed (.connects state (.inl rfl)) (.keeps ⟨rfl, rfl, rfl, rfl, rfl, rfl⟩)
  | watching line =>
      simp only [stage, Option.some.injEq] at operated
      subst operated
      unfold watch
      split
      · exact .keeps ⟨rfl, rfl, rfl, rfl, rfl, rfl⟩
      · exact (onTerminalEvent_callEffect setting _ _).after ⟨rfl, rfl, rfl, rfl, rfl, rfl⟩
  | greeting line =>
      simp only [stage, Option.some.injEq] at operated
      subst operated
      simp only [greet]
      split
      · exact .keeps ⟨rfl, rfl, rfl, rfl, rfl, rfl⟩
      · exact .keeps ((failConnect_sameRecords setting _ operation _).after
          ⟨rfl, rfl, rfl, rfl, rfl, rfl⟩)
  | announcing line already =>
      simp only [stage, Option.some.injEq] at operated
      subst operated
      have connects : CallEffect setting (.announcing line already) state
          (state.handleConnected setting already) := .connects state (.inr rfl)
      simp only [connectDone]
      split
      all_goals first
        | exact connects.followed (.keeps ⟨rfl, rfl, rfl, rfl, rfl, rfl⟩)
        | exact connects.followed (.keeps ((finish_sameRecords _ operation _).after
            ⟨rfl, rfl, rfl, rfl, rfl, rfl⟩))
  | registering =>
      simp only [stage, Option.map_eq_some_iff] at operated
      obtain ⟨frame, -, rfl⟩ := operated
      exact .keeps ((startSend_sameRecords setting _ _).after ⟨rfl, rfl, rfl, rfl, rfl, rfl⟩)
  | sending =>
      simp only [stage, Option.map_eq_some_iff] at operated
      obtain ⟨frame, -, rfl⟩ := operated
      simp only [sendFrame]
      split
      · exact .keeps ((finish_sameRecords _ operation _).after ⟨rfl, rfl, rfl, rfl, rfl, rfl⟩)
      · exact .keeps ⟨rfl, rfl, rfl, rfl, rfl, rfl⟩
      · exact .keeps (finish_sameRecords _ operation _)
  | waiting request =>
      simp only [stage, Option.bind_eq_some_iff] at operated
      obtain ⟨frame, -, awaited⟩ := operated
      obtain ⟨core, result, agrees, -, rfl⟩ := await_eq_some awaited
      exact .keeps ((finish_sameRecords _ operation _).after
        ⟨rfl, rfl, rfl, agrees.parser, agrees.negotiationCompleted, agrees.pendingKick⟩)
  | leaving =>
      simp only [stage, Option.some.injEq] at operated
      subst operated
      refine .followed ?_ (.keeps (finish_sameRecords _ operation _))
      exact (CallEffect.ends _ _).after ⟨rfl, rfl, rfl, rfl, rfl, rfl⟩

end ClientState

/-! ## Senders -/

/-- What a sender does short of a call: it takes the pause after a shutdown upon itself. -/
structure SenderOnly (before after : ClientState) : Prop where
  operation : after.operation = before.operation
  connection : after.connection = before.connection
  lines : after.lines = before.lines
  tasks : after.tasks = before.tasks
  notified : after.notified = before.notified
  callbacks : after.callbacks = before.callbacks
  returned : after.returned = before.returned
  clientConnection : after.core.clientConnection = before.core.clientConnection
  agrees : before.core.Agrees after.core

namespace SenderOnly

variable (state : ClientState)

theorem sender (index : Nat) (stage : SenderStage) : SenderOnly state (state.sender index stage) :=
  ⟨rfl, rfl, rfl, rfl, rfl, rfl, rfl, rfl, .refl _⟩

theorem leaveGate (index : Nat) (stage : SenderStage) :
    SenderOnly state (state.leaveGate index stage) :=
  ⟨rfl, rfl, rfl, rfl, rfl, rfl, rfl, rfl, .refl _⟩

end SenderOnly

/-- The calls a sender makes: it connects for its own sake, if nothing forbids it, and at the
end it sends. -/
inductive SenderCall (setting : ClientSetting) (state : ClientState) (index : Nat) : Call → Prop
  | renew (unconnected : state.isConnected setting = false)
      (permitted : state.renewalRefusal setting = none) :
      SenderCall setting state index (.renew index)
  | send (frame : Frame) : SenderCall setting state index (.send frame)
  | sendAndWait (frame : Frame) : SenderCall setting state index (.sendAndWait frame)

namespace ClientState

variable {setting : ClientSetting} {state after : ClientState}

theorem sendStep_eq_some {index : Nat} {sender : Sender} {answer : Answer}
    (sent : state.sendStep setting index sender answer = some after) :
    SenderOnly state after ∨ (state.operation = none ∧ ∃ stage call,
      SenderCall setting state index call ∧
        after = (state.sender index stage).start setting call) := by
  unfold sendStep at sent
  split at sent
  next => exact .inl (Option.some.inj sent ▸ .sender state index _)
  next => exact .inl (Option.some.inj sent ▸ .sender state index _)
  next =>
    split at sent
    · cases sent
    · obtain rfl := Option.some.inj sent
      exact .inl ⟨rfl, rfl, rfl, rfl, rfl, rfl, rfl, rfl, .refl _⟩
  next =>
    obtain rfl := Option.some.inj sent
    split
    · exact .inl (.leaveGate state index _)
    · exact .inl (.sender state index _)
  next =>
    obtain rfl := Option.some.inj sent
    split
    · exact .inl (.sender state index _)
    · exact .inl ⟨rfl, rfl, rfl, rfl, rfl, rfl, rfl, rfl, ⟨rfl, rfl, rfl, rfl, rfl, rfl, rfl, rfl⟩⟩
  next free =>
    obtain rfl := Option.some.inj sent
    split
    · exact .inl (.sender state index _)
    next unconnected =>
      split
      · exact .inl (.leaveGate state index _)
      next permitted =>
        exact .inr ⟨free, _, _, .renew (Bool.eq_false_iff.mpr unconnected) permitted, rfl⟩
  next =>
    split at sent
    · exact .inl (Option.some.inj sent ▸ .leaveGate state index _)
    · exact .inl (Option.some.inj sent ▸ .leaveGate state index _)
    · split at sent
      · exact .inl (Option.some.inj sent ▸ .leaveGate state index _)
      · cases sent
  next free =>
    obtain rfl := Option.some.inj sent
    refine .inr ⟨free, _, _, ?_, rfl⟩
    split
    · exact .sendAndWait sender.frame
    · exact .send sender.frame
  next => cases sent

end ClientState

end FlareCore.Client
