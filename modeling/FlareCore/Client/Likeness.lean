import FlareCore.Client.Lines

/-!
# Clients that differ in their texts only

The WebSocket, the TCP and the QUIC client give different reasons when they close a connection
and different errors when they fail.  None of these texts is ever looked at again, except for
the reason of a shutdown, which none of the three gives.  Two states are alike if they are the
same but for such texts, and whatever the tasks and the readers do keeps them alike.

Observers and the event handler hear the texts, so what they heard is not compared.
-/

namespace FlareCore.Client

open FlareCore.Common FlareCore.Server

set_option autoImplicit false

/-- The same setting on another transport. -/
@[simps]
def ClientSetting.on (setting : ClientSetting) (protocol : TransportProtocol) : ClientSetting :=
  { setting with protocol := protocol }

/-! ## Texts -/

/-- An event without its text, but for the reason of a shutdown. -/
def ConnectionEvent.plain : ConnectionEvent → ConnectionEvent
  | disconnected reason =>
      disconnected (if isServerShutdownReason reason then serverShutdownReason else "")
  | error _ => error (.system "")
  | connected => connected
  | message data => message data

/-- A task without the text of an event. -/
def Task.plain : Task → Task
  | deferred event => deferred event.plain
  | informing event => informing event.plain
  | frame task => frame task
  | clearing => clearing
  | heartbeat line beat => heartbeat line beat
  | done => done

theorem TransportProtocol.plain_closeReason (first second : TransportProtocol) :
    (ConnectionEvent.disconnected first.closeReason).plain =
      (ConnectionEvent.disconnected second.closeReason).plain := by
  cases first <;> cases second <;> decide

theorem TransportProtocol.plain_closedReason (first second : TransportProtocol) :
    (ConnectionEvent.disconnected first.closedReason).plain =
      (ConnectionEvent.disconnected second.closedReason).plain := by
  cases first <;> cases second <;> decide

namespace Task

@[simp]
theorem plain_inFlight (task : Task) : task.plain.inFlight = task.inFlight := by
  cases task <;> rfl

@[simp]
theorem plain_line (task : Task) : task.plain.line = task.line := by
  cases task <;> rfl

/-- Only the tasks with an event have a text. -/
theorem plain_cases {first second : Task} (same : second.plain = first.plain) :
    second = first ∨ (∃ event other, first = .deferred event ∧ second = .deferred other ∧
        other.plain = event.plain) ∨
      ∃ event other, first = .informing event ∧ second = .informing other ∧
        other.plain = event.plain := by
  cases first <;> cases second <;> simp_all [plain]

end Task

/-! ## Cores -/

/-- The same core, but for the text with which a negotiation failed. -/
structure ClientCore.Alike (first second : ClientCore) : Prop where
  rest : second = { first with negotiationFailure := second.negotiationFailure }
  failure : second.negotiationFailure.isSome = first.negotiationFailure.isSome

namespace ClientCore.Alike

variable {first second : ClientCore}

@[refl]
theorem refl (core : ClientCore) : core.Alike core :=
  ⟨rfl, rfl⟩

theorem eq_with (alike : first.Alike second) :
    ∃ failure, second = { first with negotiationFailure := failure } ∧
      failure.isSome = first.negotiationFailure.isSome :=
  ⟨second.negotiationFailure, alike.rest, alike.failure⟩

theorem recordConnectRejection (alike : first.Alike second) (command : SystemCommand) :
    (first.recordConnectRejection command).Alike (second.recordConnectRejection command) := by
  obtain ⟨failure, rfl, -⟩ := alike.eq_with
  exact ⟨rfl, rfl⟩

theorem lose (alike : first.Alike second) (state : ConnectionState) (detail other : String) :
    (first.lose state detail).1.Alike (second.lose state other).1 := by
  obtain ⟨failure, rfl, isSome⟩ := alike.eq_with
  obtain ⟨core, parser, completed, failed, requested, shutdown, ended, kick, reported, slot,
    heartbeat, pending⟩ := first
  have during : ClientCore.closedDuringNegotiation ⟨core, parser, completed, failure, requested,
      shutdown, ended, kick, reported, slot, heartbeat, pending⟩ =
    ClientCore.closedDuringNegotiation ⟨core, parser, completed, failed, requested, shutdown, ended,
      kick, reported, slot, heartbeat, pending⟩ := rfl
  simp only [ClientCore.lose, during]
  cases kick <;> split <;> first | exact ⟨rfl, isSome⟩ | exact ⟨rfl, rfl⟩

theorem handleTerminalEvent (alike : first.Alike second) {event other : ConnectionEvent}
    (same : other.plain = event.plain) :
    (first.handleTerminalEvent event).1.Alike (second.handleTerminalEvent other).1 := by
  cases event <;> cases other <;>
    simp only [ConnectionEvent.plain, reduceCtorEq, ConnectionEvent.disconnected.injEq] at same
  case disconnected.disconnected reason text =>
    have shutdown : isServerShutdownReason text = isServerShutdownReason reason := by
      by_cases before : isServerShutdownReason reason = true <;>
        by_cases after : isServerShutdownReason text = true <;>
        simp_all [serverShutdownReason]
    obtain ⟨failure, rfl, isSome⟩ := alike.eq_with
    simp only [ClientCore.handleTerminalEvent, shutdown]
    refine ClientCore.Alike.lose ?_ .disconnected reason text
    exact ⟨rfl, isSome⟩
  case error.error => exact alike.lose .failed _ _
  case connected.connected | message.message => exact alike

theorem handleConnected (alike : first.Alike second) (alreadyConnected : Bool) :
    (first.handleConnected alreadyConnected).Alike (second.handleConnected alreadyConnected) := by
  obtain ⟨failure, rfl, isSome⟩ := alike.eq_with
  simp only [ClientCore.handleConnected]
  split
  · exact ⟨rfl, isSome⟩
  · exact ⟨rfl, rfl⟩

/-- A KICKED takes the connection out of its slot. -/
theorem kicked (alike : first.Alike second) (reason : String) (notified : Bool) :
    ClientCore.Alike { first.recordKick reason notified with clientConnection := none }
      { second.recordKick reason notified with clientConnection := none } := by
  obtain ⟨failure, rfl, isSome⟩ := alike.eq_with
  simp only [ClientCore.recordKick]
  -- which reasons end the session is not looked at
  generalize endsSession reason = ends
  split <;> exact ⟨rfl, isSome⟩

end ClientCore.Alike

/-! ## States -/

/-- The same but for texts, apart from where the calls stand and what they hold. -/
structure ClientState.Alike (first second : ClientState) : Prop where
  core : first.core.Alike second.core
  lines : second.lines = first.lines
  tasks : second.tasks.map Task.plain = first.tasks.map Task.plain
  reconnectAttempts : second.reconnectAttempts = first.reconnectAttempts
  requests : second.requests = first.requests
  answered : second.answered = first.answered
  frames : second.frames = first.frames
  written : second.written = first.written

namespace ClientState.Alike

variable {first second : ClientState} (alike : first.Alike second)

include alike

theorem isLive (line : Nat) : second.isLive line = first.isLive line := by
  simp only [ClientState.isLive, alike.lines]

theorem isAttached (line : Nat) : second.isAttached line = first.isAttached line := by
  simp only [ClientState.isAttached, alike.lines]

theorem length_tasks : second.tasks.length = first.tasks.length := by
  simpa using congrArg List.length alike.tasks

theorem any_inFlight : second.tasks.any Task.inFlight = first.tasks.any Task.inFlight := by
  simpa [List.any_map, Function.comp_def] using
    congrArg (fun tasks => tasks.any Task.inFlight) alike.tasks

theorem any_line (line : Nat) :
    (second.tasks.any fun task => task.line = some line) =
      first.tasks.any fun task => task.line = some line := by
  simpa [List.any_map, Function.comp_def] using
    congrArg (fun tasks => tasks.any fun task => decide (task.line = some line)) alike.tasks

theorem task {index : Nat} {task : Task} (isTask : first.tasks[index]? = some task) :
    ∃ other, second.tasks[index]? = some other ∧ other.plain = task.plain := by
  have same := congrArg (fun tasks : List Task => tasks[index]?) alike.tasks
  simp only [List.getElem?_map, isTask, Option.map_some, Option.map_eq_some_iff] at same
  exact same

theorem withCore {core other : ClientCore} (same : core.Alike other) :
    (first.withCore core).Alike (second.withCore other) :=
  { alike with core := same }

theorem spawn {task other : Task} (same : other.plain = task.plain) :
    (first.spawn task).Alike (second.spawn other) :=
  { alike with tasks := by simp [alike.tasks, same] }

theorem put (index : Nat) {task other : Task} (same : other.plain = task.plain) :
    (first.put index task).Alike (second.put index other) :=
  { alike with tasks := by simp [List.map_set, alike.tasks, same] }

theorem advance (index : Nat) (task : FrameTask) (stage : Handling) :
    (first.advance index task stage).Alike (second.advance index task stage) :=
  { alike with tasks := by simp [List.map_set, alike.tasks] }

theorem notifyAll (events others : List ConnectionEvent) :
    (first.notifyAll events).Alike (second.notifyAll others) :=
  { alike with }

theorem shut (line : Nat) : (first.shut line).Alike (second.shut line) :=
  { alike with lines := by simp [alike.lines] }

theorem clearReading (line : Nat) : (first.clearReading line).Alike (second.clearReading line) :=
  { alike with lines := by simp [alike.lines] }

variable (setting : ClientSetting) (protocol : TransportProtocol)

theorem inform {event other : ConnectionEvent} (same : other.plain = event.plain) :
    (first.inform setting event).Alike (second.inform (setting.on protocol) other) := by
  simp only [ClientState.inform, ClientSetting.on_hasHandler]
  split
  · exact alike.spawn (by simp [Task.plain, same])
  · exact alike

theorem handleTerminalEvent {event other : ConnectionEvent} (same : other.plain = event.plain) :
    (first.handleTerminalEvent setting event).Alike
      (second.handleTerminalEvent (setting.on protocol) other) := by
  refine notifyAll ?_ _ _
  refine spawn ?_ rfl
  exact (alike.inform setting protocol same).withCore (alike.core.handleTerminalEvent same)

theorem handleConnected (alreadyConnected : Bool) :
    (first.handleConnected setting alreadyConnected).Alike
      (second.handleConnected (setting.on protocol) alreadyConnected) := by
  refine notifyAll ?_ _ _
  exact (alike.inform setting protocol rfl).withCore (alike.core.handleConnected alreadyConnected)

theorem shouldDefer : second.shouldDefer = first.shouldDefer := by
  obtain ⟨failure, same, -⟩ := alike.core.eq_with
  simp only [ClientState.shouldDefer, same, alike.any_inFlight]

theorem onTerminalEvent {event other : ConnectionEvent} (same : other.plain = event.plain) :
    (first.onTerminalEvent setting event).Alike
      (second.onTerminalEvent (setting.on protocol) other) := by
  simp only [ClientState.onTerminalEvent, alike.shouldDefer]
  split
  · exact alike.spawn (by simp [Task.plain, same])
  · exact alike.handleTerminalEvent setting protocol same

theorem announce (line : Nat) {event other : ConnectionEvent} (same : other.plain = event.plain) :
    (first.announce setting line event).Alike
      (second.announce (setting.on protocol) line other) := by
  simp only [ClientState.announce, alike.isAttached]
  split
  · refine onTerminalEvent ?_ setting protocol same
    exact { alike with lines := by simp [alike.lines] }
  · exact alike

theorem tryStartHeartbeat :
    (first.tryStartHeartbeat setting).Alike (second.tryStartHeartbeat (setting.on protocol)) := by
  obtain ⟨failure, same, isSome⟩ := alike.core.eq_with
  simp only [ClientState.tryStartHeartbeat, same]
  cases first.core.clientConnection with
  | none => exact alike
  | some line =>
      simp only [ClientSetting.on_heartbeatEnabled, alike.length_tasks]
      split
      · refine spawn ?_ rfl
        exact { alike with core := ⟨rfl, isSome⟩ }
      · exact alike

theorem callsHandler (origin : Origin) (call : HandlerCall) :
    (first.callsHandler setting origin call).Alike
      (second.callsHandler (setting.on protocol) origin call) := by
  simp only [ClientState.callsHandler, ClientSetting.on_hasHandler]
  split
  · exact { alike with }
  · exact alike

section Tasks

variable [RustText]

theorem receive (line : Nat) (data : Bytes) :
    (first.receive setting line data).Alike
      (second.receive (setting.on protocol) line data) := by
  obtain ⟨failure, same, isSome⟩ := alike.core.eq_with
  have negotiated : second.core.negotiationCompleted = first.core.negotiationCompleted := by
    rw [same]
  simp only [ClientState.receive, negotiated]
  refine spawn (alike.withCore ?_) rfl
  split
  · exact alike.core
  · have rejection : (setting.on protocol).rejection data = setting.rejection data := rfl
    rw [rejection]
    cases setting.rejection data with
    | none => exact alike.core
    | some command => exact alike.core.recordConnectRejection command

theorem parseMessage (data : Bytes) :
    second.parseMessage (setting.on protocol) data = first.parseMessage setting data := by
  obtain ⟨failure, same, -⟩ := alike.core.eq_with
  simp only [ClientState.parseMessage, same, ClientSetting.on_registries]

theorem parse (task : FrameTask) :
    second.parse (setting.on protocol) task = first.parse setting task := by
  obtain ⟨failure, same, -⟩ := alike.core.eq_with
  have parsed : (setting.on protocol).parsePreNegotiation task.data =
      setting.parsePreNegotiation task.data := rfl
  simp only [ClientState.parse, alike.parseMessage, parsed, same]

omit [RustText] in
theorem matchResponse (calls : second.operation = first.operation) (index : Nat) (task : FrameTask)
    (frame : Frame) :
    (first.matchResponse index task frame).Alike (second.matchResponse index task frame) := by
  obtain ⟨failure, same, isSome⟩ := alike.core.eq_with
  have awaited : ∀ request, second.isAwaited request = first.isAwaited request := by
    intro request
    simp only [ClientState.isAwaited, calls]
  simp only [ClientState.matchResponse, same, awaited, alike.answered]
  cases first.core.pending.lookup frame.messageId with
  | none => exact alike.advance index task _
  | some request =>
      have taken : (first.withCore { first.core with
          pending := first.core.pending.erase frame.messageId }).Alike
            (second.withCore { second.core with
              pending := second.core.pending.erase frame.messageId }) := by
        refine alike.withCore ?_
        rw [same]
        exact ⟨rfl, isSome⟩
      rw [same] at taken
      dsimp only
      split
      · exact { taken.advance index task (.responding frame) with answered := rfl }
      · exact taken.advance index task _

omit [RustText] in
theorem dispatch (index : Nat) (task : FrameTask) (frame : Frame) :
    (first.dispatch setting index task frame).Alike
      (second.dispatch (setting.on protocol) index task frame) := by
  simp only [ClientState.dispatch]
  cases systemCommand frame with
  | none => exact alike.advance index task _
  | some command =>
      dsimp only
      split
      case h_5 =>
        split
        · exact alike.advance index task _
        · exact (alike.withCore (alike.core.recordConnectRejection command)).advance index task _
      all_goals first
        | exact (alike.advance index task _).callsHandler setting protocol _ _
        | exact alike.advance index task _

theorem acknowledge (index : Nat) (task : FrameTask) (frame : Frame) :
    (first.acknowledge setting index task frame).Alike
      (second.acknowledge (setting.on protocol) index task frame) := by
  obtain ⟨failure, same, isSome⟩ := alike.core.eq_with
  simp only [ClientState.acknowledge, ClientSetting.on_config]
  cases handleConnectAck frame with
  | error error =>
      refine advance (alike.withCore ?_) index task _
      rw [same]
  | ok profile =>
      have completed : (first.core.completeNegotiation setting.config profile).Alike
          (second.core.completeNegotiation setting.config profile) := by
        rw [same]
        exact ⟨rfl, isSome⟩
      have next := (alike.withCore completed).advance index task (.readying frame)
      dsimp only
      split
      · exact next
      · exact next.tryStartHeartbeat setting protocol

theorem sendNegotiationReady (answer : Answer) :
    (first.sendNegotiationReady setting answer).Alike
      (second.sendNegotiationReady (setting.on protocol) answer) := by
  obtain ⟨failure, same, isSome⟩ := alike.core.eq_with
  have stamped : ClientState.Alike { first with frames := first.frames + 1 }
      { second with frames := second.frames + 1 } :=
    { alike with frames := congrArg (· + 1) alike.frames }
  have slot : second.core.clientConnection = first.core.clientConnection := by rw [same]
  simp only [ClientState.sendNegotiationReady, slot, alike.frames, ClientSetting.on_registries,
    ClientSetting.on_stamps, alike.isLive]
  rw [alike.frames] at stamped
  split
  · split
    · exact { stamped with written := by simp [alike.written] }
    · exact stamped
  · exact stamped

omit [RustText] in
theorem kick (index : Nat) (task : FrameTask) (frame : Frame) (command : SystemCommand) :
    (first.kick index task frame command).Alike (second.kick index task frame command) := by
  obtain ⟨failure, same, isSome⟩ := alike.core.eq_with
  have slot : second.core.clientConnection = first.core.clientConnection := by rw [same]
  have requested : second.core.disconnectRequested = first.core.disconnectRequested := by rw [same]
  simp only [ClientState.kick, slot, requested]
  cases first.core.clientConnection with
  | none => exact (alike.withCore (alike.core.kicked _ _)).advance index task _
  | some line => exact (alike.withCore (alike.core.kicked _ _)).advance index task _

omit [RustText] in
theorem reportKick (index : Nat) (task : FrameTask) (frame : Frame) (reason : Option String) :
    (first.reportKick index task frame reason).Alike
      (second.reportKick index task frame reason) := by
  obtain ⟨failure, same, isSome⟩ := alike.core.eq_with
  have cleared : ClientCore.Alike { first.core with pending := ∅ }
      { second.core with pending := ∅ } := by
    rw [same]
    exact ⟨rfl, isSome⟩
  have next := (alike.withCore cleared).advance index task (.delivering frame true)
  simp only [ClientState.reportKick]
  cases reason with
  | none => exact next
  | some reason =>
      refine notifyAll (next.withCore ?_) _ _
      simp only [ClientState.advance_core, ClientState.withCore_core, same,
        ClientCore.takeUnreportedKick]
      split <;> exact ⟨rfl, isSome⟩

omit [RustText] in
theorem handleClose (index : Nat) (task : FrameTask) (frame : Frame) (command : SystemCommand) :
    (first.handleClose index task frame command).Alike
      (second.handleClose index task frame command) := by
  obtain ⟨failure, same, isSome⟩ := alike.core.eq_with
  have slot : second.core.clientConnection = first.core.clientConnection := by rw [same]
  simp only [ClientState.handleClose, slot]
  split
  · cases first.core.clientConnection with
    | none =>
        refine advance (alike.withCore ?_) index task _
        rw [same]
        exact ⟨rfl, isSome⟩
    | some line =>
        refine advance (alike.withCore ?_) index task _
        rw [same]
        exact ⟨rfl, isSome⟩
  · refine advance (alike.withCore (ClientCore.Alike.recordConnectRejection ?_ command)) index
      task _
    rw [same]
    exact ⟨rfl, isSome⟩

omit [RustText] in
theorem handleBusiness (index : Nat) (task : FrameTask) (frame : Frame) :
    (first.handleBusiness setting index task frame).Alike
      (second.handleBusiness (setting.on protocol) index task frame) := by
  have next := alike.advance index task (.finished frame)
  simp only [ClientState.handleBusiness]
  cases businessCall frame with
  | none => exact next
  | some call => exact next.callsHandler setting protocol _ call

theorem handleFrame (calls : second.operation = first.operation) (index : Nat) (task : FrameTask)
    (answer : Answer) (stage : Handling) :
    (first.handleFrame setting index task answer stage).Alike
      (second.handleFrame (setting.on protocol) index task answer stage) := by
  cases stage with
  | received =>
      simp only [ClientState.handleFrame, alike.parse]
      exact alike.advance index task _
  | reparsing =>
      simp only [ClientState.handleFrame, alike.parseMessage]
      exact alike.advance index task _
  | matching frame => exact alike.matchResponse calls index task frame
  | responding frame => exact { alike.advance index task (.finished frame) with }
  | dispatching frame => exact alike.dispatch setting protocol index task frame
  | acknowledging frame => exact alike.acknowledge setting protocol index task frame
  | negotiationFailed frame error =>
      refine handleTerminalEvent ?_ setting protocol rfl
      refine advance (alike.withCore ?_) index task _
      obtain ⟨failure, same, isSome⟩ := alike.core.eq_with
      rw [same]
      exact ⟨rfl, isSome⟩
  | readying frame =>
      refine tryStartHeartbeat ?_ setting protocol
      exact (alike.advance index task _).sendNegotiationReady setting protocol answer
  | kicked frame command => exact alike.kick index task frame command
  | kickShutting frame reason line | closeShutting frame reason line =>
      exact (alike.shut line).advance index task _
  | kickAnnouncing frame reason line =>
      refine (alike.advance index task _).announce setting protocol line ?_
      cases reason with
      | none => exact TransportProtocol.plain_closeReason protocol setting.protocol
      | some reason => rfl
  | kickReporting frame reason => exact alike.reportKick index task frame reason
  | closing frame command => exact alike.handleClose index task frame command
  | closeAnnouncing frame detail line =>
      exact (alike.advance index task _).announce setting protocol line rfl
  | delivering frame system => exact { alike.advance index task _ with }
  | handlingBusiness frame => exact alike.handleBusiness setting protocol index task frame
  | finished frame | dropped => exact alike

omit [RustText] in
theorem beat (index line : Nat) (answer : Answer) (beat : Beat) :
    (first.beat setting index line answer beat).Alike
      (second.beat (setting.on protocol) index line answer beat) := by
  cases beat with
  | beating =>
      obtain ⟨failure, same, -⟩ := alike.core.eq_with
      simp only [ClientState.beat, same]
      split
      · split
        · exact alike
        · exact alike.put index rfl
      · exact alike.put index rfl
  | shutting reason => exact (alike.shut line).put index rfl
  | announcing reason => exact (alike.put index rfl).announce setting protocol line rfl

/-- The step of a task. -/
theorem work (calls : second.operation = first.operation) (index : Nat) (answer : Answer)
    {task other : Task} (same : other.plain = task.plain) :
    (first.work setting index answer task).Alike
      (second.work (setting.on protocol) index answer other) := by
  obtain rfl | ⟨event, text, rfl, rfl, plain⟩ | ⟨event, text, rfl, rfl, plain⟩ :=
    Task.plain_cases same
  · cases other with
    | frame task => exact alike.handleFrame setting protocol calls index task answer task.stage
    | deferred event => exact (alike.put index rfl).handleTerminalEvent setting protocol rfl
    | clearing =>
        refine put (alike.withCore ?_) index rfl
        obtain ⟨failure, same, isSome⟩ := alike.core.eq_with
        rw [same]
        exact ⟨rfl, isSome⟩
    | informing event => exact { alike.put index (rfl : Task.done.plain = Task.done.plain) with }
    | heartbeat line beat => exact alike.beat setting protocol index line answer beat
    | done => exact alike
  · exact (alike.put index rfl).handleTerminalEvent setting protocol plain
  · exact { alike.put index (rfl : Task.done.plain = Task.done.plain) with }

/-- A reader hands an event over. -/
theorem deliver (line : Nat) (event : ConnectionEvent) :
    (first.deliver setting line event).Alike
      (second.deliver (setting.on protocol) line event) := by
  cases event with
  | message data => exact alike.receive setting protocol line data
  | disconnected reason => exact alike.announce setting protocol line rfl
  | error error => exact alike.announce setting protocol line rfl
  | connected => exact alike

end Tasks

end ClientState.Alike

end FlareCore.Client
