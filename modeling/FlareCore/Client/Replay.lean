import FlareCore.Client.Delivery
import FlareCore.Client.Likeness

/-!
# One sequence of calls and events on three transports

The WebSocket, the TCP and the QUIC client are written three times over, with three differences
in what they do.  The QUIC client counts as connected before its CONNECT is acknowledged.  TCP and
QUIC close the connection they have before they dial, and WebSocket lets it go once it has the
new one.  And WebSocket keeps a connection as soon as it is dialed, TCP and QUIC once CONNECT is
sent.

A replay makes the same moves on each of them.  To close a connection that is closed already takes
steps and changes nothing, and only some of the three may have such a connection at hand, so a
stride passes over it.  The three make the same choices as long as no send that may reconnect
begins before the acknowledgement, no connection is replaced that is still open, and no CONNECT
fails on a connection that stays open (`isConcerted`).
-/

namespace FlareCore.Client

open FlareCore.Common FlareCore.Server FlareCore.Foundations

set_option autoImplicit false

/-! ## Strides -/

/-- A call that is about to close a line: the line, and the stage behind the closing. -/
def Stage.passed : Stage → Option (Nat × Stage)
  | retiring line => some (line, establishing)
  | replacing line => some (line, dialing)
  | disconnecting line => some (line, leaving)
  | pausing | retired _ | establishing | replaced _ | dialing | settingUp _ | attaching _
  | connecting _ _ | watching _ | greeting _ | confirming _ | announcing _ _ | registering
  | sending | waiting _ | disconnected _ | leaving => none

namespace ClientState

variable (state : ClientState)

/-- A line that is closed and whose end is reported. -/
def isSpent (line : Nat) : Bool :=
  !state.isLive line && !state.isAttached line

/-- The call is about to close a line that is closed already. -/
def closesSpent : Bool :=
  state.operation.any fun operation => operation.stage.passed.any fun passed =>
    state.isSpent passed.1

variable [RustText] (setting : ClientSetting)

/-- A step, together with the closing of a line that is closed already. -/
def stride (move : Move) : Option ClientState :=
  (state.step setting move).bind fun next =>
    if next.closesSpent then
      (next.step setting (.operate granted)).bind fun closing =>
        closing.step setting (.operate granted)
    else some next

end ClientState

/-- A client as it replays a sequence of calls and events. -/
def replaySystem [RustText] (setting : ClientSetting) : System ClientState Move where
  step state move := state.stride setting move

/-! ## Choices -/

/-- What a client has chosen so far: the connections it has dialed, and which of them it has left
open, what it has sent on them, what the call at hand is about to do, and which call returned
last, and whether it failed. -/
structure Choices where
  open_ : List Bool
  sent : List (Nat × Wire)
  underway : Option Operation
  returned : Option (Call × Bool)

namespace ClientState

variable (setting : ClientSetting) (state : ClientState)

def outcome : Option (Call × Bool) :=
  state.returned.map fun returned => (returned.1, returned.2.toOption.isSome)

def choices : Choices where
  open_ := state.lines.map Line.live
  sent := state.written
  underway := state.operation
  returned := state.outcome

/-- CONNECT is sent and not acknowledged. -/
def awaitsAck : Bool :=
  state.core.state = .connected && state.connection.isSome && !state.core.negotiationCompleted

/-- A send reconnects a client that is not connected. -/
def mayReconnect : Bool :=
  setting.reconnectOnSend && !state.core.disconnectRequested &&
    state.core.sessionEndedByServer.isNone && setting.canReconnect

variable [RustText]

/-- The condition under which a move leads to the same choices on all transports. -/
def isConcerted : Move → Bool
  | .call (.send _) => !(state.awaitsAck && state.mayReconnect setting)
  | .operate answer => state.operation.all fun operation =>
      match operation.stage with
      | .registering => !(state.awaitsAck && state.mayReconnect setting)
      | .establishing => state.connectionPrepared || state.connection.all state.isSpent
      | .greeting line =>
          (state.transmit setting line (state.connectData setting) answer).toOption.isSome ||
            state.isSpent line
      | _ => true
  | .call _ | .read _ _ | .handOver _ | .work _ _ => true
  | .submit _ _ | .send _ _ => false

end ClientState

/-- The moves of a replay are calls and events, and each of them is made in concert. -/
def Concerted [RustText] (setting : ClientSetting) (state : ClientState) (move : Move) : Prop :=
  state.isConcerted setting move = true

instance [RustText] (setting : ClientSetting) (state : ClientState) (move : Move) :
    Decidable (Concerted setting state move) :=
  inferInstanceAs (Decidable (_ = _))

/-! ## What a stride does -/

/-- Where a call stands once it has passed over. -/
def Operation.passOver (operation : Operation) (state : ClientState) : Operation :=
  match operation.stage.passed with
  | some (line, next) => if state.isSpent line then { operation with stage := next } else operation
  | none => operation

namespace ClientState

/-- The closing of a spent line changes nothing but the stage. -/
@[simps]
def passOver (state : ClientState) : ClientState :=
  { state with operation := state.operation.map fun operation => operation.passOver state }

variable {state : ClientState}

theorem passOver_eq_self
    (same : (state.operation.map fun operation => operation.passOver state) = state.operation) :
    state.passOver = state := by
  rw [passOver, same]

theorem shut_eq_self {line : Nat} (dead : state.isLive line = false) : state.shut line = state := by
  have same : (state.lines.modify line fun line => { line with live := false }) = state.lines := by
    refine List.ext_getElem? fun index => ?_
    rw [List.getElem?_modify]
    by_cases isLine : line = index
    · subst isLine
      cases found : state.lines[line]? with
      | none => rfl
      | some current =>
          have closed : current.live = false := by simpa [isLive, found] using dead
          simp [← closed]
    · simp [isLine]
  rw [shut, same]

/-- Everything that is open is referred to. -/
def Compact (state : ClientState) : Prop :=
  ∀ line, state.isLive line = true → state.isHeld line = true

theorem Compact.settle_eq_self (compact : state.Compact) : state.settle = state := by
  have same : state.settle.lines = state.lines := by
    refine List.ext_getElem? fun index => ?_
    rw [settle_lines, List.getElem?_mapIdx]
    cases found : state.lines[index]? with
    | none => rfl
    | some current =>
        simp only [Option.map_some, Option.some.injEq]
        split
        · rfl
        next free =>
          have closed : current.live = false := by
            refine Bool.eq_false_iff.mpr fun live => free (compact index ?_)
            simp [isLive, found, live]
          rw [← closed]
  calc state.settle = { state with lines := state.settle.lines } := rfl
    _ = state := by rw [same]

theorem settle_compact (state : ClientState) : state.settle.Compact := by
  intro line live
  simp only [isLive, settle_lines, List.getElem?_mapIdx, Option.any_map, Option.any_eq_true] at live
  obtain ⟨current, -, live⟩ := live
  by_cases held : state.isHeld line = true
  · exact held
  · simp [held] at live

/-- A call that holds on to nothing that is open may go on. -/
theorem Compact.proceed (compact : state.Compact) {operation : Operation} {line : Nat}
    (current : state.operation = some operation) (holds : operation.stage.line = some line)
    (dead : state.isLive line = false) (stage : Stage) :
    (state.proceed operation stage).Compact := by
  intro index live
  have held := compact index live
  simp only [isHeld, current, holds, Option.any_some, Option.some.injEq, Bool.or_eq_true,
    decide_eq_true_eq, proceed_operation, proceed_connection, proceed_core, proceed_tasks] at held ⊢
  obtain ((connection | slot) | called) | task := held
  · exact .inl (.inl (.inl connection))
  · exact .inl (.inl (.inr slot))
  · subst called
    cases dead.symm.trans live
  · exact .inr task

variable [RustText] (setting : ClientSetting)

theorem closes_spent {operation : Operation} {line : Nat} {closed behind : Stage}
    (compact : state.Compact) (current : state.operation = some operation)
    (holds : operation.stage.line = some line) (stillHolds : closed.line = some line)
    (spent : state.isSpent line = true)
    (closes : state.operate setting operation granted =
      some ((state.shut line).proceed operation closed))
    (announces : ∀ other : ClientState, other.operate setting { operation with stage := closed }
        granted = some ((other.proceed operation behind).announce setting line
          (.disconnected setting.protocol.closeReason))) :
    ((state.step setting (.operate granted)).bind fun closing =>
      closing.step setting (.operate granted)) = some (state.proceed operation behind) := by
  simp only [isSpent, Bool.and_eq_true, Bool.not_eq_true'] at spent
  obtain ⟨dead, unattached⟩ := spent
  have first : state.step setting (.operate granted) = some (state.proceed operation closed) := by
    simp only [step, perform, current, Option.bind_some, closes, shut_eq_self dead,
      Option.map_some, (compact.proceed current holds dead closed).settle_eq_self]
  have middle := compact.proceed current holds dead closed
  have second : (state.proceed operation closed).step setting (.operate granted) =
      some (state.proceed operation behind) := by
    have last : (state.proceed operation behind).Compact :=
      middle.proceed rfl stillHolds dead behind
    have silent : (state.proceed operation behind).announce setting line
        (.disconnected setting.protocol.closeReason) = state.proceed operation behind := by
      simp only [announce, isAttached, proceed_lines]
      exact if_neg (Bool.eq_false_iff.mp unattached)
    simp only [step, perform, proceed_operation, Option.bind_some, announces, Option.map_some]
    exact congrArg some ((congrArg settle silent).trans last.settle_eq_self)
  rw [first, Option.bind_some, second]

/-- A stride is a step, after which a spent line is passed over. -/
theorem stride_eq (state : ClientState) (move : Move) :
    state.stride setting move = (state.step setting move).map passOver := by
  cases stepped : state.step setting move with
  | none => simp [stride, stepped]
  | some next =>
      have compact : next.Compact := by
        obtain ⟨performed, -, rfl⟩ := Option.map_eq_some_iff.mp stepped
        exact settle_compact performed
      simp only [stride, stepped, Option.bind_some, Option.map_some]
      cases current : next.operation with
      | none =>
          rw [if_neg (by simp [closesSpent, current]), passOver_eq_self (by simp [current])]
      | some operation =>
          cases passed : operation.stage.passed with
          | none =>
              have same : operation.passOver next = operation := by
                simp only [Operation.passOver, passed]
              rw [if_neg (by simp [closesSpent, current, passed]),
                passOver_eq_self (by simp [current, same])]
          | some closing =>
              obtain ⟨line, behind⟩ := closing
              by_cases spent : next.isSpent line = true
              · have result : next.passOver = next.proceed operation behind := by
                  simp [passOver, proceed, current, Operation.passOver, passed, spent]
                rw [if_pos (by simp [closesSpent, current, passed, spent]), result]
                cases stage : operation.stage <;> rw [stage] at passed <;> cases passed
                case retiring.refl | replacing.refl | disconnecting.refl =>
                  refine closes_spent setting compact current (by rw [stage]; rfl) rfl spent
                    (by rw [operate, stage]) fun other => rfl
              · have same : operation.passOver next = operation := by
                  simp only [Operation.passOver, passed, if_neg spent]
                rw [if_neg (by simp [closesSpent, current, passed, spent]),
                  passOver_eq_self (by simp [current, same])]

end ClientState

/-! ## Clients in step -/

/-- The line that a call sets up, before it has sent CONNECT. -/
def Stage.setUpLine : Stage → Option Nat
  | settingUp line | attaching line | connecting line _ | watching line | greeting line => some line
  | pausing | retiring _ | retired _ | establishing | replacing _ | replaced _ | dialing
  | confirming _ | announcing _ _ | registering | sending | waiting _ | disconnecting _
  | disconnected _ | leaving => none

/-- CONNECT is sent, and the call has yet to report it. -/
def Stage.isGreeted : Stage → Bool
  | confirming _ | announcing _ _ => true
  | settingUp _ | attaching _ | connecting _ _ | watching _ | greeting _ | pausing | retiring _
  | retired _ | establishing | replacing _ | replaced _ | dialing | registering | sending
  | waiting _ | disconnecting _ | disconnected _ | leaving => false

/-- The call is about to dial. -/
def Stage.isDialing : Stage → Bool
  | replacing _ | replaced _ | dialing => true
  | confirming _ | announcing _ _ | settingUp _ | attaching _ | connecting _ _ | watching _
  | greeting _ | pausing | retiring _ | retired _ | establishing | registering | sending
  | waiting _ | disconnecting _ | disconnected _ | leaving => false

namespace ClientState

variable (state : ClientState)

def setUpLine : Option Nat :=
  state.operation.bind fun operation => operation.stage.setUpLine

def isGreeted : Bool :=
  state.operation.any fun operation => operation.stage.isGreeted

def isDialing : Bool :=
  state.operation.any fun operation => operation.stage.isDialing

end ClientState

/-- Two clients in step.  They may hold different connections only as long as one of them is set
up or the difference is spent; and with the client connected they hold the same, unless it is
about to connect once more. -/
structure InStep (setting : ClientSetting) (protocol : TransportProtocol)
    (first second : ClientState) : Prop extends first.Alike second where
  outcome : second.outcome = first.outcome
  prepared : second.connectionPrepared = first.connectionPrepared
  preparedSlot : first.connectionPrepared = true →
    ∃ line, first.connection = some line ∧ second.connection = some line
  slots : ∀ line, (first.connection = some line ↔ second.connection = some line) ∨
    first.isSpent line = true ∨ first.setUpLine = some line
  connected : first.core.state = .connected ∨ first.isGreeted = true →
    second.connection = first.connection ∨ first.setUpLine.isSome = true ∨ first.isDialing = true
  dialing : first.isDialing = true → (setting.protocol ≠ .webSocket → first.connection = none) ∧
    (protocol ≠ .webSocket → second.connection = none)

/-- The call, too, stands at the same place, or the clients pass over to the same. -/
structure Near (setting : ClientSetting) (protocol : TransportProtocol)
    (first second : ClientState) : Prop extends InStep setting protocol first second where
  calls : second.passOver.operation = first.passOver.operation

/-- The call stands at the same place. -/
structure Together (setting : ClientSetting) (protocol : TransportProtocol)
    (first second : ClientState) : Prop extends InStep setting protocol first second where
  calls : second.operation = first.operation

section Settling

variable {setting : ClientSetting} {protocol : TransportProtocol} {first second : ClientState}

theorem ClientState.Alike.isSpent (alike : first.Alike second) (line : Nat) :
    second.isSpent line = first.isSpent line := by
  simp only [ClientState.isSpent, alike.isLive, alike.isAttached]

theorem Recedes.isSpent (recedes : Recedes first second) {line : Nat}
    (spent : first.isSpent line = true) : second.isSpent line = true := by
  simp only [ClientState.isSpent, Bool.and_eq_true, Bool.not_eq_true', Bool.eq_false_iff] at spent ⊢
  exact ⟨fun live => spent.1 (recedes.live line live),
    fun attached => spent.2 (recedes.attached line attached)⟩

theorem Operation.passOver_congr (operation : Operation) (alike : first.Alike second) :
    operation.passOver second = operation.passOver first := by
  simp only [Operation.passOver, alike.isSpent]

theorem Together.near (together : Together setting protocol first second) :
    Near setting protocol first second where
  toInStep := together.toInStep
  calls := by
    simp only [ClientState.passOver_operation, together.calls]
    exact Option.map_congr fun operation _ => operation.passOver_congr together.toAlike

/-- A call stays where it is, or it lets go of a spent line. -/
theorem Operation.passOver_cases (operation : Operation) (state : ClientState) :
    operation.passOver state = operation ∨ ∃ line, operation.stage.line = some line ∧
      state.isSpent line = true ∧ (operation.passOver state).stage.line = none := by
  simp only [Operation.passOver]
  cases stage : operation.stage
  case retiring line | replacing line | disconnecting line =>
    simp only [Stage.passed]
    split
    next spent => exact .inr ⟨line, rfl, spent, rfl⟩
    next => exact .inl rfl
  all_goals exact .inl rfl

/-- Of two calls that pass over to the same place, one may hold on to a spent line. -/
theorem Operation.line_of_passOver {one other : Operation} {line : Nat}
    (calls : other.passOver second = one.passOver first) (holds : one.stage.line = some line) :
    other.stage.line = some line ∨ first.isSpent line = true := by
  obtain stays | ⟨spent, isLine, isSpent, -⟩ := one.passOver_cases first
  · obtain same | ⟨-, -, -, free⟩ := other.passOver_cases second
    · rw [same, stays] at calls
      exact .inl (calls ▸ holds)
    · rw [calls, stays, holds] at free
      cases free
  · cases isLine.symm.trans holds
    exact .inr isSpent

theorem Near.callLine (near : Near setting protocol first second) {line : Nat}
    (called : first.callLine = some line) :
    second.callLine = some line ∨ first.isSpent line = true := by
  obtain ⟨operation, current, holds⟩ := Option.bind_eq_some_iff.mp called
  have calls := near.calls
  simp only [ClientState.passOver_operation, current, Option.map_some, Option.map_eq_some_iff]
    at calls
  obtain ⟨other, isOther, same⟩ := calls
  refine (Operation.line_of_passOver same holds).imp_left fun line => ?_
  simp [ClientState.callLine, isOther, line]

theorem ClientState.callLine_of_setUpLine {state : ClientState} {line : Nat}
    (setsUp : state.setUpLine = some line) : state.callLine = some line := by
  obtain ⟨operation, current, isLine⟩ := Option.bind_eq_some_iff.mp setsUp
  refine Option.bind_eq_some_iff.mpr ⟨operation, current, ?_⟩
  cases stage : operation.stage <;> rw [stage] at isLine <;> first | exact isLine | cases isLine

theorem ClientCore.Alike.clientConnection {core other : ClientCore} (alike : core.Alike other) :
    other.clientConnection = core.clientConnection := by
  rw [alike.rest]

theorem Near.callLine_symm (near : Near setting protocol first second) {line : Nat}
    (called : second.callLine = some line) :
    first.callLine = some line ∨ first.isSpent line = true := by
  obtain ⟨operation, current, holds⟩ := Option.bind_eq_some_iff.mp called
  have calls := near.calls.symm
  simp only [ClientState.passOver_operation, current, Option.map_some, Option.map_eq_some_iff]
    at calls
  obtain ⟨other, isOther, same⟩ := calls
  rw [← near.isSpent]
  refine (Operation.line_of_passOver same holds).imp_left fun line => ?_
  simp [ClientState.callLine, isOther, line]

/-- Clients that are near each other refer to the same lines, but for spent ones. -/
theorem Near.isHeld (near : Near setting protocol first second) {line : Nat}
    (live : first.isLive line = true) : second.isHeld line = first.isHeld line := by
  have unspent : ¬first.isSpent line = true := by simp [ClientState.isSpent, live]
  have slot := near.core.clientConnection
  have retained : second.isRetained line = first.isRetained line := near.any_line line
  rw [Bool.eq_iff_iff, ClientState.isHeld_iff, ClientState.isHeld_iff, retained]
  refine or_congr_left ?_
  simp only [ClientState.Owned, slot]
  constructor
  · rintro (connection | filled | called)
    · obtain same | spent | setsUp := near.slots line
      · exact .inl (same.mpr connection)
      · exact absurd spent unspent
      · exact .inr (.inr (ClientState.callLine_of_setUpLine setsUp))
    · exact .inr (.inl filled)
    · exact .inr (.inr ((near.callLine_symm called).resolve_right unspent))
  · rintro (connection | filled | called)
    · obtain same | spent | setsUp := near.slots line
      · exact .inl (same.mp connection)
      · exact absurd spent unspent
      · have called := ClientState.callLine_of_setUpLine setsUp
        exact .inr (.inr ((near.callLine called).resolve_right unspent))
    · exact .inr (.inl filled)
    · exact .inr (.inr ((near.callLine called).resolve_right unspent))

/-- Clients that are near each other drop the same lines. -/
theorem Near.settle_lines (near : Near setting protocol first second) :
    second.settle.lines = first.settle.lines := by
  refine List.ext_getElem? fun index => ?_
  simp only [ClientState.settle_lines, List.getElem?_mapIdx, near.lines]
  cases found : first.lines[index]? with
  | none => rfl
  | some current =>
      cases live : current.live with
      | true => rw [near.isHeld (by simp [ClientState.isLive, found, live])]
      | false =>
          have same : { current with live := false } = current := by rw [← live]
          simp [same]

/-- A line that the call holds on to is not dropped. -/
theorem ClientState.settle_isSpent {state : ClientState} {line : Nat}
    (held : state.isHeld line = true) : state.settle.isSpent line = state.isSpent line := by
  simp only [isSpent, isLive, isAttached, ClientState.settle_lines, List.getElem?_mapIdx, held,
    if_true, Option.any_map]

theorem ClientState.settle_passOver (state : ClientState) :
    state.settle.passOver.operation = state.passOver.operation := by
  simp only [passOver_operation, settle_operation]
  refine Option.map_congr fun operation current => ?_
  simp only [Operation.passOver]
  cases stage : operation.stage
  case retiring line | replacing line | disconnecting line =>
    have held : state.isHeld line = true := by
      simp [isHeld, current, stage, Stage.line]
    simp only [Stage.passed, settle_isSpent held]
  all_goals rfl

/-- What nothing refers to is dropped. -/
theorem Near.settle (near : Near setting protocol first second) :
    Near setting protocol first.settle second.settle := by
  have recedes := first.settle_recedes
  have alike : first.settle.Alike second.settle := { near.toAlike with lines := near.settle_lines }
  refine { alike with
    outcome := near.outcome
    prepared := near.prepared
    preparedSlot := near.preparedSlot
    slots := fun line => (near.slots line).imp_right (.imp_left recedes.isSpent)
    connected := near.connected
    dialing := near.dialing
    calls := ?_ }
  rw [first.settle_passOver, second.settle_passOver]
  exact near.calls

/-- The stages at which a call closes a line, and the ones behind, are of the same kind. -/
theorem Operation.passOver_kind (operation : Operation) (state : ClientState) :
    (operation.passOver state).stage.setUpLine = operation.stage.setUpLine ∧
      (operation.passOver state).stage.isGreeted = operation.stage.isGreeted ∧
      (operation.passOver state).stage.isDialing = operation.stage.isDialing := by
  simp only [Operation.passOver]
  cases stage : operation.stage
  case retiring line | replacing line | disconnecting line =>
    simp only [Stage.passed]
    split
    · exact ⟨rfl, rfl, rfl⟩
    · rw [stage]
      exact ⟨rfl, rfl, rfl⟩
  all_goals
    simp only [Stage.passed]
    rw [stage]
    exact ⟨rfl, rfl, rfl⟩

/-- Both pass over, and stand at the same place. -/
theorem Near.passOver (near : Near setting protocol first second) :
    Together setting protocol first.passOver second.passOver := by
  have setUpLine : first.passOver.setUpLine = first.setUpLine := by
    cases current : first.operation with
    | none => simp [ClientState.setUpLine, current]
    | some operation =>
        simpa [ClientState.setUpLine, current] using (operation.passOver_kind first).1
  have isGreeted : first.passOver.isGreeted = first.isGreeted := by
    cases current : first.operation with
    | none => simp [ClientState.isGreeted, current]
    | some operation =>
        simpa [ClientState.isGreeted, current] using (operation.passOver_kind first).2.1
  have isDialing : first.passOver.isDialing = first.isDialing := by
    cases current : first.operation with
    | none => simp [ClientState.isDialing, current]
    | some operation =>
        simpa [ClientState.isDialing, current] using (operation.passOver_kind first).2.2
  exact { near.toAlike with
    core := near.core
    outcome := near.outcome
    prepared := near.prepared
    preparedSlot := near.preparedSlot
    slots := setUpLine ▸ near.slots
    connected := by
      rw [isGreeted, setUpLine, isDialing]
      exact near.connected
    dialing := by
      rw [isDialing]
      exact near.dialing
    calls := near.calls }

end Settling

/-! ## Beside the calls -/

section Beside

variable {setting : ClientSetting} {protocol : TransportProtocol}
  {first second after other : ClientState}

theorem ClientCore.Alike.state {core other : ClientCore} (alike : core.Alike other) :
    other.state = core.state := by
  rw [alike.rest]

/-- Tasks and readers leave the calls where they are. -/
theorem Together.beside (together : Together setting protocol first second)
    (alike : after.Alike other) (undisturbed : Undisturbed first after)
    (otherUndisturbed : Undisturbed second other) (recedes : Recedes first after)
    (state : after.core.state = .connected → first.core.state = .connected) :
    Together setting protocol after other := by
  have setUpLine : after.setUpLine = first.setUpLine := by
    simp only [ClientState.setUpLine, undisturbed.operation]
  have isGreeted : after.isGreeted = first.isGreeted := by
    simp only [ClientState.isGreeted, undisturbed.operation]
  have isDialing : after.isDialing = first.isDialing := by
    simp only [ClientState.isDialing, undisturbed.operation]
  refine { alike with
    outcome := ?_
    prepared := ?_
    preparedSlot := ?_
    slots := ?_
    connected := ?_
    dialing := ?_
    calls := ?_ }
  · simp only [ClientState.outcome, undisturbed.returned, otherUndisturbed.returned]
    exact together.outcome
  · rw [undisturbed.connectionPrepared, otherUndisturbed.connectionPrepared]
    exact together.prepared
  · rw [undisturbed.connectionPrepared, undisturbed.connection, otherUndisturbed.connection]
    exact together.preparedSlot
  · intro line
    rw [undisturbed.connection, otherUndisturbed.connection, setUpLine]
    exact (together.slots line).imp_right (.imp_left recedes.isSpent)
  · rw [undisturbed.connection, otherUndisturbed.connection, setUpLine, isGreeted, isDialing]
    exact fun connected => together.connected (connected.imp_left state)
  · rw [undisturbed.connection, otherUndisturbed.connection, isDialing]
    exact together.dialing
  · rw [undisturbed.operation, otherUndisturbed.operation]
    exact together.calls

variable [RustText]

theorem Together.work (together : Together setting protocol first second) {index : Nat}
    {answer : Answer} (performed : first.perform setting (.work index answer) = some after) :
    ∃ other, second.perform (setting.on protocol) (.work index answer) = some other ∧
      Together setting protocol after other := by
  obtain ⟨task, isTask, rfl⟩ := Option.map_eq_some_iff.mp performed
  obtain ⟨isTask, active⟩ := Option.filter_eq_some_iff.mp isTask
  obtain ⟨mine, isMine, same⟩ := together.task isTask
  have mineActive : mine ≠ .done := by
    rintro rfl
    cases task with
    | done => exact of_decide_eq_true active rfl
    | frame task | deferred event | clearing | informing event | heartbeat line beat => cases same
  refine ⟨second.work (setting.on protocol) index answer mine, ?_, ?_⟩
  · simp [ClientState.perform, isMine, mineActive]
  · refine together.beside (together.toAlike.work setting protocol together.calls index answer same)
      (first.work_undisturbed setting index answer task)
      (second.work_undisturbed (setting.on protocol) index answer mine)
      (first.work_recedes setting index answer task) ?_
    intro connected
    by_contra unconnected
    exact (first.work_effect setting index answer task).state_ne_connected unconnected connected

omit [RustText] in
theorem Together.read (together : Together setting protocol first second) {line : Nat}
    {event : ConnectionEvent} (taken : first.read line event = some after) :
    ∃ other, second.read line event = some other ∧ Together setting protocol after other := by
  have beside := (ClientState.read_beside taken).1
  simp only [ClientState.read, Option.ite_none_right_eq_some] at taken ⊢
  obtain ⟨ready, isAfter⟩ := taken
  obtain rfl := Option.some.inj isAfter
  refine ⟨_, ⟨together.lines ▸ ready, rfl⟩, ?_⟩
  refine together.beside ?_ ⟨rfl, rfl, rfl, rfl, rfl⟩ ⟨rfl, rfl, rfl, rfl, rfl⟩ beside.recedes id
  exact { together.toAlike with lines := by simp [together.lines] }

theorem Together.handOver (together : Together setting protocol first second) {line : Nat}
    (handed : first.handOver setting line = some after) :
    ∃ other, second.handOver (setting.on protocol) line = some other ∧
      Together setting protocol after other := by
  obtain ⟨event, reading, rfl⟩ := Option.map_eq_some_iff.mp handed
  refine ⟨_, Option.map_eq_some_iff.mpr ⟨event, by rw [together.lines]; exact reading, rfl⟩, ?_⟩
  refine together.beside ((together.toAlike.clearReading line).deliver setting protocol line event)
    ((ClientState.deliver_undisturbed setting _ line event).after ⟨rfl, rfl, rfl, rfl, rfl⟩)
    ((ClientState.deliver_undisturbed (setting.on protocol) _ line event).after
      ⟨rfl, rfl, rfl, rfl, rfl⟩)
    ((ClientState.deliver_recedes setting _ line event).after (first.clearReading_recedes line)) ?_
  intro connected
  by_contra unconnected
  exact (ClientState.deliver_effect setting (first.clearReading line) line event).state_ne_connected
    unconnected connected

end Beside

/-! ## Calls -/

/-- No line is set up, no CONNECT is to be reported, and no dial is at hand. -/
def Stage.isPlain (stage : Stage) : Bool :=
  stage.setUpLine.isNone && !stage.isGreeted && !stage.isDialing

/-- The call returns or goes on at a plain stage. -/
def ClientState.isPlain (state : ClientState) : Bool :=
  state.operation.all fun operation => operation.stage.isPlain

theorem ClientState.kinds_of_isPlain {state : ClientState} (plain : state.isPlain = true) :
    state.setUpLine = none ∧ state.isGreeted = false ∧ state.isDialing = false := by
  cases current : state.operation with
  | none => simp [setUpLine, ClientState.isGreeted, ClientState.isDialing, current]
  | some operation =>
      simp only [ClientState.isPlain, current, Option.all_some, Stage.isPlain, Bool.and_eq_true,
        Bool.not_eq_true', Option.isNone_iff_eq_none] at plain
      simpa [setUpLine, ClientState.isGreeted, ClientState.isDialing, current, and_assoc] using plain

theorem ClientState.kinds_of_isGreeted {state : ClientState} (greeted : state.isGreeted = true) :
    state.setUpLine = none ∧ state.isDialing = false := by
  rw [ClientState.isGreeted, Option.any_eq_true] at greeted
  obtain ⟨operation, current, isGreeted⟩ := greeted
  simp only [setUpLine, ClientState.isDialing, current, Option.bind_some, Option.any_some]
  cases stage : operation.stage <;> rw [stage] at isGreeted <;>
    first | exact ⟨rfl, rfl⟩ | cases isGreeted

/-- Two clients make the same step of a call and keep what they hold. -/
structure Parallel (first second after other : ClientState) : Prop extends after.Alike other where
  outcome : other.outcome = after.outcome
  calls : other.operation = after.operation
  connection : after.connection = first.connection
  otherConnection : other.connection = second.connection
  prepared : after.connectionPrepared = first.connectionPrepared
  otherPrepared : other.connectionPrepared = second.connectionPrepared
  spent : ∀ line, first.isSpent line = true → after.isSpent line = true

section Calls

variable {setting : ClientSetting} {protocol : TransportProtocol}
  {first second after other : ClientState}

theorem Parallel.of_eq {start begin_ : ClientState} (parallel : Parallel first second after other)
    (connection : first.connection = start.connection)
    (otherConnection : second.connection = begin_.connection)
    (prepared : first.connectionPrepared = start.connectionPrepared)
    (otherPrepared : second.connectionPrepared = begin_.connectionPrepared)
    (spent : ∀ line, start.isSpent line = true → first.isSpent line = true) :
    Parallel start begin_ after other :=
  { parallel with
    connection := parallel.connection.trans connection
    otherConnection := parallel.otherConnection.trans otherConnection
    prepared := parallel.prepared.trans prepared
    otherPrepared := parallel.otherPrepared.trans otherPrepared
    spent := fun line isSpent => parallel.spent line (spent line isSpent) }

/-- A client that is connected and at a plain stage holds the same connection as the other. -/
theorem Together.sameSlot (together : Together setting protocol first second)
    (plain : first.isPlain = true) (connected : first.core.state = .connected) :
    second.connection = first.connection := by
  obtain ⟨unbound, -, undialing⟩ := ClientState.kinds_of_isPlain plain
  obtain same | setsUp | dials := together.connected (.inl connected)
  · exact same
  · simp [unbound] at setsUp
  · simp [undialing] at dials

/-- To a plain stage: a line that was set up is given up only if it is spent. -/
theorem Together.leads (together : Together setting protocol first second)
    (parallel : Parallel first second after other) (now : after.isPlain = true)
    (bound : ∀ line, first.setUpLine = some line → first.isSpent line = true)
    (state : after.core.state = .connected →
      first.core.state = .connected ∧ first.isPlain = true) :
    Together setting protocol after other := by
  obtain ⟨-, ungreeted, undialing⟩ := ClientState.kinds_of_isPlain now
  refine { parallel.toAlike with
    outcome := parallel.outcome
    prepared := ?_
    preparedSlot := ?_
    slots := ?_
    connected := ?_
    dialing := ?_
    calls := parallel.calls }
  · rw [parallel.prepared, parallel.otherPrepared]
    exact together.prepared
  · rw [parallel.prepared, parallel.connection, parallel.otherConnection]
    exact together.preparedSlot
  · intro line
    rw [parallel.connection, parallel.otherConnection]
    obtain same | spent | setsUp := together.slots line
    · exact .inl same
    · exact .inr (.inl (parallel.spent line spent))
    · exact .inr (.inl (parallel.spent line (bound line setsUp)))
  · rw [parallel.connection, parallel.otherConnection, ungreeted]
    rintro (connected | greeted)
    · obtain ⟨wasConnected, plain⟩ := state connected
      exact .inl (together.sameSlot plain wasConnected)
    · cases greeted
  · rw [undialing]
    exact Bool.noConfusion

/-- From a plain stage to a plain stage. -/
theorem Together.plain (together : Together setting protocol first second)
    (parallel : Parallel first second after other) (plain : first.isPlain = true)
    (now : after.isPlain = true)
    (state : after.core.state = .connected → first.core.state = .connected) :
    Together setting protocol after other := by
  obtain ⟨unbound, -, -⟩ := ClientState.kinds_of_isPlain plain
  refine together.leads parallel now ?_ fun connected => ⟨state connected, plain⟩
  intro line setsUp
  cases unbound.symm.trans setsUp

/-- Of a client whose call returns, only a sender may go on. -/
theorem ClientState.finish_eq_with (state : ClientState) (operation : Operation)
    (result : Result Unit) :
    ∃ senders gate, state.finish operation result =
      { state with
        operation := none
        returned := some (operation.call, result)
        senders := senders
        gate := gate } := by
  unfold finish
  split <;> exact ⟨_, _, rfl⟩

theorem ClientState.Alike.finish (alike : first.Alike second) (operation : Operation)
    (result response : Result Unit) (same : response.toOption.isSome = result.toOption.isSome) :
    Parallel first second (first.finish operation result) (second.finish operation response) := by
  obtain ⟨senders, gate, isAfter⟩ := first.finish_eq_with operation result
  obtain ⟨otherSenders, otherGate, isOther⟩ := second.finish_eq_with operation response
  rw [isAfter, isOther]
  exact { alike with
    outcome := by simp [ClientState.outcome, same]
    calls := rfl
    connection := rfl
    otherConnection := rfl
    prepared := rfl
    otherPrepared := rfl
    spent := fun _ => id }

theorem ClientState.Alike.proceed (alike : first.Alike second)
    (outcome : second.outcome = first.outcome) (operation : Operation) (stage : Stage) :
    Parallel first second (first.proceed operation stage) (second.proceed operation stage) :=
  { alike with
    outcome := outcome
    calls := rfl
    connection := rfl
    otherConnection := rfl
    prepared := rfl
    otherPrepared := rfl
    spent := fun _ => id }

theorem ClientState.isPlain_finish (state : ClientState) (operation : Operation)
    (result : Result Unit) : (state.finish operation result).isPlain = true := by
  simp [ClientState.isPlain]

theorem ClientState.isPlain_proceed (state : ClientState) (operation : Operation) {stage : Stage}
    (plain : stage.isPlain = true) : (state.proceed operation stage).isPlain = true := by
  simpa [ClientState.isPlain] using plain

/-- The state of the core, changed alike. -/
theorem ClientCore.Alike.withState {core other : ClientCore} (alike : core.Alike other)
    (state : ConnectionState) : ClientCore.Alike { core with state := state }
      { other with state := state } := by
  obtain ⟨failure, rfl, isSome⟩ := alike.eq_with
  exact ⟨rfl, isSome⟩

variable (setting protocol)

theorem ClientState.Alike.tryReconnect (alike : first.Alike second)
    (outcome : second.outcome = first.outcome) (operation : Operation) :
    Parallel first second (first.tryReconnect setting operation)
        (second.tryReconnect (setting.on protocol) operation) ∧
      (first.tryReconnect setting operation).isPlain = true ∧
      (first.tryReconnect setting operation).core.state ≠ .connected := by
  simp only [ClientState.tryReconnect, ClientSetting.on_maxReconnectAttempts,
    alike.reconnectAttempts]
  split
  next attempts _ =>
    have failed := alike.withCore (alike.core.withState .failed)
    have finished := failed.finish operation (.error (.connectionFailed
      ("Max reconnect attempts (" ++ toString attempts ++ ") exceeded"))) _ rfl
    refine ⟨finished.of_eq rfl rfl rfl rfl fun _ => id,
      ClientState.isPlain_finish _ _ _, ?_⟩
    simp
  next =>
    refine ⟨?_, ClientState.isPlain_proceed _ _ rfl, ConnectionState.noConfusion⟩
    obtain ⟨failure, same, isSome⟩ := alike.core.eq_with
    exact { alike with
      core := by
        rw [same]
        exact ⟨rfl, isSome⟩
      reconnectAttempts := rfl
      outcome := outcome
      calls := rfl
      connection := rfl
      otherConnection := rfl
      prepared := rfl
      otherPrepared := rfl
      spent := fun _ => id }

theorem ClientState.Alike.failConnect (alike : first.Alike second)
    (outcome : second.outcome = first.outcome) (operation : Operation) (error text : FlareError) :
    Parallel first second (first.failConnect setting operation error)
        (second.failConnect (setting.on protocol) operation text) ∧
      (first.failConnect setting operation error).isPlain = true ∧
      (first.failConnect setting operation error).core.state ≠ .connected := by
  have failed := alike.withCore (alike.core.withState .failed)
  simp only [ClientState.failConnect]
  split
  · obtain ⟨parallel, rest⟩ := failed.tryReconnect setting protocol outcome operation
    exact ⟨parallel.of_eq rfl rfl rfl rfl fun _ => id, rest⟩
  · have finished := failed.finish operation (.error error) (.error text) rfl
    refine ⟨finished.of_eq rfl rfl rfl rfl fun _ => id,
      ClientState.isPlain_finish _ _ _, ?_⟩
    simp

variable {setting protocol}

/-- Clients in step are both connected or both not, unless the acknowledgement is pending. -/
theorem Together.isConnected (together : Together setting protocol first second)
    (plain : first.isPlain = true) (settled : first.awaitsAck = false) :
    second.isConnected (setting.on protocol) = first.isConnected setting := by
  obtain ⟨failure, same, -⟩ := together.core.eq_with
  by_cases connected : first.core.state = .connected
  · have slot := together.sameSlot plain connected
    simp only [ClientState.awaitsAck, connected] at settled
    simp only [ClientState.isConnected, same, slot, connected]
    cases held : first.connection with
    | none => simp
    | some line =>
        rw [held] at settled
        have completed : first.core.negotiationCompleted = true := by simpa using settled
        simp [completed]
  · simp [ClientState.isConnected, same, connected]

theorem Together.mayReconnect (together : Together setting protocol first second) :
    second.mayReconnect (setting.on protocol) = first.mayReconnect setting := by
  obtain ⟨failure, same, -⟩ := together.core.eq_with
  simp only [ClientState.mayReconnect, same]
  rfl

theorem ClientState.shouldReconnectBeforeSend_eq (setting : ClientSetting) (state : ClientState) :
    state.shouldReconnectBeforeSend setting =
      (!state.isConnected setting && state.mayReconnect setting) := by
  simp only [shouldReconnectBeforeSend, ClientState.mayReconnect, Bool.and_assoc]

/-- They reconnect before a send alike. -/
theorem Together.shouldReconnectBeforeSend (together : Together setting protocol first second)
    (plain : first.isPlain = true)
    (concerted : (!(first.awaitsAck && first.mayReconnect setting)) = true) :
    second.shouldReconnectBeforeSend (setting.on protocol) =
      first.shouldReconnectBeforeSend setting := by
  rw [ClientState.shouldReconnectBeforeSend_eq, ClientState.shouldReconnectBeforeSend_eq,
    together.mayReconnect]
  cases may : first.mayReconnect setting with
  | false => simp
  | true =>
      rw [may, Bool.and_true, Bool.not_eq_true'] at concerted
      rw [together.isConnected plain concerted]

theorem Together.startSend (together : Together setting protocol first second)
    (plain : first.isPlain = true)
    (concerted : (!(first.awaitsAck && first.mayReconnect setting)) = true)
    (operation : Operation) :
    Together setting protocol (first.startSend setting operation)
      (second.startSend (setting.on protocol) operation) := by
  simp only [ClientState.startSend, together.shouldReconnectBeforeSend plain concerted]
  split
  · obtain ⟨parallel, now, unconnected⟩ :=
      together.toAlike.tryReconnect setting protocol together.outcome operation
    exact together.plain parallel plain now fun connected => absurd connected unconnected
  · exact together.plain (together.toAlike.proceed together.outcome operation .sending) plain
      (ClientState.isPlain_proceed _ _ rfl) id

theorem Together.startConnect (together : Together setting protocol first second)
    (plain : first.isPlain = true) (call : Call) :
    Together setting protocol (first.startConnect setting call)
      (second.startConnect (setting.on protocol) call) := by
  simp only [ClientState.startConnect, together.core.state]
  split
  · have alike := together.toAlike.withCore (together.core.withState .connecting)
    have proceeds := alike.proceed together.outcome
      ⟨call, none, setting.canReconnect, .establishing⟩ .establishing
    exact together.plain (Parallel.of_eq proceeds rfl rfl rfl rfl fun _ => id) plain
      (ClientState.isPlain_proceed _ _ rfl) ConnectionState.noConfusion
  · exact together.plain (together.toAlike.finish _ (.error _) (.error _) rfl) plain
      (ClientState.isPlain_finish _ _ _) (by simp)

/-- Unless a line is set up, clients in step hold the same connection, or spent ones. -/
theorem InStep.same_or_spent (inStep : InStep setting protocol first second)
    (unbound : first.setUpLine = none) :
    second.connection = first.connection ∨ (∀ line ∈ first.connection, first.isSpent line = true) ∧
      ∀ line ∈ second.connection, first.isSpent line = true := by
  by_cases same : second.connection = first.connection
  · exact .inl same
  · have spent : ∀ line, ¬(first.connection = some line ↔ second.connection = some line) →
        first.isSpent line = true := by
      intro line different
      obtain agrees | isSpent | setsUp := inStep.slots line
      · exact absurd agrees different
      · exact isSpent
      · cases unbound.symm.trans setsUp
    refine .inr ⟨fun line held => spent line fun agrees => ?_,
      fun line held => spent line fun agrees => ?_⟩
    · exact same ((agrees.mp held).trans held.symm)
    · exact same (held.trans (agrees.mpr held).symm)

/-- A call closes what it has, and goes on; what is spent is passed over. -/
theorem Operation.passOver_elim (operation : Operation) {state : ClientState}
    {connection : Option Nat} (spent : ∀ line ∈ connection, state.isSpent line = true)
    {closing : Nat → Stage} {behind : Stage}
    (passed : ∀ line, (closing line).passed = some (line, behind)) (last : behind.passed = none) :
    ({ operation with stage := connection.elim behind closing } : Operation).passOver state =
      { operation with stage := behind } := by
  cases connection with
  | none => simp [Operation.passOver, last]
  | some line => simp [Operation.passOver, passed, spent line rfl]

/-- A call takes what the client holds, and is about to close it. -/
theorem Together.takes (together : Together setting protocol first second)
    (unbound : first.setUpLine = none) {after other : ClientState} (alike : after.Alike other)
    (outcome : other.outcome = after.outcome) (connection : after.connection = none)
    (otherConnection : other.connection = none) (prepared : after.connectionPrepared = false)
    (otherPrepared : other.connectionPrepared = false) (lines : after.lines = first.lines)
    (operation : Operation) {closing : Nat → Stage} {behind : Stage}
    (passed : ∀ line, (closing line).passed = some (line, behind)) (last : behind.passed = none)
    (plain : ∀ line, (closing line).isDialing = false) (plainBehind : behind.isDialing = false)
    (current : after.operation =
      some { operation with stage := first.connection.elim behind closing })
    (otherCurrent : other.operation =
      some { operation with stage := second.connection.elim behind closing }) :
    Near setting protocol after other := by
  have undialing : after.isDialing = false := by
    rw [ClientState.isDialing, current]
    cases first.connection with
    | none => simpa using plainBehind
    | some line => simpa using plain line
  refine { alike with
    outcome := outcome
    prepared := otherPrepared.trans prepared.symm
    preparedSlot := ?_
    slots := ?_
    connected := ?_
    dialing := ?_
    calls := ?_ }
  · rw [prepared]
    exact Bool.noConfusion
  · intro line
    rw [connection, otherConnection]
    exact .inl .rfl
  · rw [connection, otherConnection]
    exact fun _ => .inl rfl
  · rw [undialing]
    exact Bool.noConfusion
  · have spentNow : ∀ line, first.isSpent line = true → after.isSpent line = true :=
      fun line => (Recedes.of_lines_eq lines).isSpent
    simp only [ClientState.passOver_operation, current, otherCurrent, Option.map_some]
    rw [Operation.passOver_congr _ alike]
    obtain same | ⟨spent, otherSpent⟩ := together.same_or_spent unbound
    · rw [same]
    · rw [operation.passOver_elim (fun line held => spentNow line (spent line held)) passed last,
        operation.passOver_elim (fun line held => spentNow line (otherSpent line held)) passed last]

theorem Together.startDisconnect (together : Together setting protocol first second)
    (unbound : first.setUpLine = none) :
    Near setting protocol first.startDisconnect second.startDisconnect := by
  refine together.takes unbound ?_ together.outcome rfl rfl rfl rfl rfl
    ⟨.disconnect, none, false, .leaving⟩ (fun _ => rfl) rfl (fun _ => rfl) rfl rfl rfl
  obtain ⟨failure, same, isSome⟩ := together.core.eq_with
  exact { together.toAlike with
    core := by
      simp only [ClientState.startDisconnect, ClientState.proceed_core, same]
      exact ⟨rfl, isSome⟩ }

/-- A call begins. -/
theorem Together.start (together : Together setting protocol first second)
    (free : first.operation = none) {call : Call}
    (concerted : ∀ frame, call = .send frame →
      (!(first.awaitsAck && first.mayReconnect setting)) = true) :
    Near setting protocol (first.start setting call) (second.start (setting.on protocol) call) := by
  have plain : first.isPlain = true := by simp [ClientState.isPlain, free]
  obtain ⟨unbound, -, -⟩ := ClientState.kinds_of_isPlain plain
  cases call with
  | connect => exact (together.startConnect plain .connect).near
  | renew index => exact (together.startConnect plain (.renew index)).near
  | disconnect => exact together.startDisconnect unbound
  | send frame => exact (together.startSend plain (concerted frame rfl) _).near
  | sendAndWait frame =>
      refine Together.near ?_
      simp only [ClientState.start]
      split
      · exact together.plain (together.toAlike.finish _ _ _ rfl) plain
          (ClientState.isPlain_finish _ _ _) (by simp)
      · exact together.plain (together.toAlike.proceed together.outcome _ .registering) plain
          (ClientState.isPlain_proceed _ _ rfl) id

/-- What follows leaves the calls where they are. -/
theorem Parallel.followed {final otherFinal : ClientState}
    (parallel : Parallel first second after other) (alike : final.Alike otherFinal)
    (undisturbed : Undisturbed after final) (otherUndisturbed : Undisturbed other otherFinal)
    (recedes : Recedes after final) : Parallel first second final otherFinal :=
  { alike with
    outcome := by
      simp only [ClientState.outcome, undisturbed.returned, otherUndisturbed.returned]
      exact parallel.outcome
    calls := by
      rw [undisturbed.operation, otherUndisturbed.operation]
      exact parallel.calls
    connection := undisturbed.connection.trans parallel.connection
    otherConnection := otherUndisturbed.connection.trans parallel.otherConnection
    prepared := undisturbed.connectionPrepared.trans parallel.prepared
    otherPrepared := otherUndisturbed.connectionPrepared.trans parallel.otherPrepared
    spent := fun line isSpent => recedes.isSpent (parallel.spent line isSpent) }

/-- The end of a line is reported to the observer. -/
theorem Parallel.announce (parallel : Parallel first second after other) (line : Nat)
    {event text : ConnectionEvent} (same : text.plain = event.plain) :
    Parallel first second (after.announce setting line event)
      (other.announce (setting.on protocol) line text) :=
  parallel.followed (parallel.toAlike.announce setting protocol line same)
    (after.announce_undisturbed setting line event)
    (other.announce_undisturbed (setting.on protocol) line text)
    (after.announce_recedes setting line event)

theorem Parallel.onTerminalEvent (parallel : Parallel first second after other)
    {event text : ConnectionEvent} (same : text.plain = event.plain) :
    Parallel first second (after.onTerminalEvent setting event)
      (other.onTerminalEvent (setting.on protocol) text) :=
  parallel.followed (parallel.toAlike.onTerminalEvent setting protocol same)
    (after.onTerminalEvent_undisturbed setting event)
    (other.onTerminalEvent_undisturbed (setting.on protocol) text)
    (.of_lines_eq (after.onTerminalEvent_lines setting event))

/-- The call goes on to set up the same line. -/
theorem Together.setsUp (together : Together setting protocol first second)
    (parallel : Parallel first second after other) {line : Nat}
    (before : first.setUpLine = some line) (now : after.setUpLine = some line) :
    Together setting protocol after other := by
  have undialing : after.isDialing = false := by
    obtain ⟨operation, current, isLine⟩ := Option.bind_eq_some_iff.mp now
    simp only [ClientState.isDialing, current, Option.any_some]
    cases stage : operation.stage <;> rw [stage] at isLine <;> first | rfl | cases isLine
  refine { parallel.toAlike with
    outcome := parallel.outcome
    prepared := ?_
    preparedSlot := ?_
    slots := ?_
    connected := fun _ => .inr (.inl (by rw [now]; rfl))
    dialing := ?_
    calls := parallel.calls }
  · rw [parallel.prepared, parallel.otherPrepared]
    exact together.prepared
  · rw [parallel.prepared, parallel.connection, parallel.otherConnection]
    exact together.preparedSlot
  · intro index
    rw [parallel.connection, parallel.otherConnection, now, ← before]
    exact (together.slots index).imp_right (.imp_left (parallel.spent index))
  · rw [undialing]
    exact Bool.noConfusion

/-- Both hold the same connection. -/
theorem Together.of_sameSlot (alike : after.Alike other) (outcome : other.outcome = after.outcome)
    (calls : other.operation = after.operation) (slot : other.connection = after.connection)
    (prepared : other.connectionPrepared = after.connectionPrepared)
    (preparedSlot : after.connectionPrepared = true → after.connection.isSome = true)
    (undialing : after.isDialing = false) : Together setting protocol after other := by
  refine { alike with
    outcome := outcome
    prepared := prepared
    preparedSlot := ?_
    slots := fun line => .inl (by rw [slot])
    connected := fun _ => .inl slot
    dialing := ?_
    calls := calls }
  · intro isPrepared
    obtain ⟨line, held⟩ := Option.isSome_iff_exists.mp (preparedSlot isPrepared)
    exact ⟨line, held, slot.trans held⟩
  · rw [undialing]
    exact Bool.noConfusion

/-- From a call that has sent CONNECT to one that has, or that is done. -/
theorem Together.greeted (together : Together setting protocol first second)
    (parallel : Parallel first second after other) (before : first.isGreeted = true)
    (undialing : after.isDialing = false) : Together setting protocol after other := by
  have slot : second.connection = first.connection := by
    obtain ⟨unbound, undialed⟩ := ClientState.kinds_of_isGreeted before
    obtain same | setsUp | dials := together.connected (.inr before)
    · exact same
    · simp [unbound] at setsUp
    · simp [undialed] at dials
  refine .of_sameSlot parallel.toAlike parallel.outcome parallel.calls ?_ ?_ ?_ undialing
  · rw [parallel.connection, parallel.otherConnection]
    exact slot
  · rw [parallel.prepared, parallel.otherPrepared]
    exact together.prepared
  · rw [parallel.prepared, parallel.connection]
    intro prepared
    obtain ⟨line, held, -⟩ := together.preparedSlot prepared
    rw [held]
    rfl

/-- A line is to be set up, and only some clients hold it already. -/
theorem Together.of_setUp (alike : after.Alike other) (outcome : other.outcome = after.outcome)
    (calls : other.operation = after.operation) {line : Nat}
    (setsUp : ∃ operation, after.operation = some operation ∧ operation.stage = .settingUp line)
    (held : ∀ index ∈ after.connection, index = line)
    (otherHeld : ∀ index ∈ other.connection, index = line)
    (prepared : after.connectionPrepared = false)
    (otherPrepared : other.connectionPrepared = false) : Together setting protocol after other := by
  obtain ⟨operation, current, stage⟩ := setsUp
  have setUpLine : after.setUpLine = some line := by
    simp [ClientState.setUpLine, current, stage, Stage.setUpLine]
  refine { alike with
    outcome := outcome
    prepared := otherPrepared.trans prepared.symm
    preparedSlot := ?_
    slots := ?_
    connected := fun _ => .inr (.inl (by rw [setUpLine]; rfl))
    dialing := ?_
    calls := calls }
  · rw [prepared]
    exact Bool.noConfusion
  · intro index
    by_cases isLine : index = line
    · exact .inr (.inr (isLine ▸ setUpLine))
    · exact .inl ⟨fun holds => absurd (held index holds) isLine,
        fun holds => absurd (otherHeld index holds) isLine⟩
  · simp [ClientState.isDialing, current, stage, Stage.isDialing]

/-- `internal_connect` uses the connection that was prepared. -/
theorem ClientState.establish_prepared (setting : ClientSetting) {state : ClientState} {line : Nat}
    (held : state.connection = some line) (prepared : state.connectionPrepared = true)
    (operation : Operation) :
    ∃ connection : Option Nat, (∀ index ∈ connection, index = line) ∧
      state.establish setting operation =
        { state with connection := connection, connectionPrepared := false }.proceed operation
          (.settingUp line) := by
  simp only [ClientState.establish, held, prepared]
  cases setting.protocol with
  | webSocket =>
      refine ⟨some line, fun index same => (Option.some.inj same).symm, ?_⟩
      simp only [ClientState.proceed, ← held]
  | tcp | quic => exact ⟨none, nofun, rfl⟩

/-- Otherwise WebSocket dials, and TCP and QUIC close what they have first. -/
theorem ClientState.establish_unprepared (setting : ClientSetting) {state : ClientState}
    (prepared : state.connectionPrepared = false) (operation : Operation) :
    ∃ kept taken : Option Nat, (setting.protocol ≠ .webSocket → kept = none) ∧
      (∀ line ∈ kept, state.connection = some line) ∧
      (∀ line ∈ taken, state.connection = some line) ∧
      state.establish setting operation = { state with connection := kept }.proceed operation
        (taken.elim .dialing .replacing) := by
  cases isProtocol : setting.protocol with
  | webSocket =>
      refine ⟨state.connection, none, fun other => absurd rfl other, fun _ => id, nofun, ?_⟩
      cases held : state.connection <;>
        simp only [ClientState.establish, isProtocol, prepared, held, Option.elim_none,
          ClientState.proceed]
  | tcp | quic =>
      refine ⟨none, state.connection, fun _ => rfl, nofun, fun _ => id, ?_⟩
      cases held : state.connection <;>
        simp only [ClientState.establish, isProtocol, prepared, held, Option.elim_none,
          Option.elim_some, ClientState.proceed]

theorem Together.establish (together : Together setting protocol first second)
    (unbound : first.setUpLine = none)
    (concerted : (first.connectionPrepared || first.connection.all first.isSpent) = true)
    (operation : Operation) :
    Near setting protocol (first.establish setting operation)
      (second.establish (setting.on protocol) operation) := by
  cases prepared : first.connectionPrepared with
  | true =>
      obtain ⟨line, held, otherHeld⟩ := together.preparedSlot prepared
      obtain ⟨kept, onlyLine, isAfter⟩ :=
        ClientState.establish_prepared setting held prepared operation
      obtain ⟨otherKept, otherOnly, isOther⟩ := ClientState.establish_prepared
        (setting.on protocol) otherHeld (together.prepared.trans prepared) operation
      rw [isAfter, isOther]
      refine Together.near ?_
      exact .of_setUp { together.toAlike with } together.outcome rfl ⟨_, rfl, rfl⟩ onlyLine
        otherOnly rfl rfl
  | false =>
      have spent : ∀ line ∈ first.connection, first.isSpent line = true := by
        simpa [prepared, Option.all_eq_true] using concerted
      have otherSpent : ∀ line ∈ second.connection, first.isSpent line = true := by
        obtain same | ⟨-, otherSpent⟩ := together.same_or_spent unbound
        · rw [same]
          exact spent
        · exact otherSpent
      have otherPrepared := together.prepared.trans prepared
      obtain ⟨kept, taken, unlessKept, isKept, isTaken, isAfter⟩ :=
        ClientState.establish_unprepared setting prepared operation
      obtain ⟨otherKept, otherTaken, otherUnless, isOtherKept, isOtherTaken, isOther⟩ :=
        ClientState.establish_unprepared (setting.on protocol) otherPrepared operation
      rw [isAfter, isOther]
      have dials : (taken.elim Stage.dialing .replacing).isDialing = true := by
        cases taken <;> rfl
      refine { together.toAlike with
        core := together.core
        outcome := together.outcome
        prepared := otherPrepared.trans prepared.symm
        preparedSlot := fun isPrepared => absurd (prepared.symm.trans isPrepared) Bool.noConfusion
        slots := fun line => ?_
        connected := fun _ => .inr (.inr (by simpa [ClientState.isDialing] using dials))
        dialing := fun _ => ⟨unlessKept, otherUnless⟩
        calls := ?_ }
      · -- only spent connections are kept
        by_cases isSpent : first.isSpent line = true
        · exact .inr (.inl isSpent)
        · exact .inl ⟨fun holds => absurd (spent line (isKept line holds)) isSpent,
            fun holds => absurd (otherSpent line (isOtherKept line holds)) isSpent⟩
      · refine congrArg some (Eq.trans (operation.passOver_elim ?_ (fun _ => rfl) rfl)
          (operation.passOver_elim ?_ (fun _ => rfl) rfl).symm)
        · exact fun line holds =>
            (together.isSpent line).trans (otherSpent line (isOtherTaken line holds))
        · exact fun line holds => spent line (isTaken line holds)

theorem Together.dial (together : Together setting protocol first second)
    (dials : first.isDialing = true) (unbound : first.setUpLine = none) (operation : Operation)
    (answer : Answer) :
    Together setting protocol (first.dial setting operation answer)
      (second.dial (setting.on protocol) operation answer) := by
  obtain ⟨unlessHeld, otherUnless⟩ := together.dialing dials
  simp only [ClientState.dial]
  split
  · refine Together.of_setUp { together.toAlike with lines := by simp [together.lines] }
      together.outcome (by simp [together.lines]) ⟨_, rfl, rfl⟩ ?_ ?_ rfl rfl
    · intro index held
      by_cases isWebSocket : setting.protocol = .webSocket
      · simpa [isWebSocket, eq_comm] using held
      · simp [isWebSocket, unlessHeld isWebSocket] at held
    · intro index held
      by_cases isWebSocket : protocol = .webSocket
      · simpa [isWebSocket, together.lines, eq_comm] using held
      · simp [isWebSocket, otherUnless isWebSocket] at held
  · obtain ⟨parallel, now, unconnected⟩ := together.toAlike.failConnect setting protocol
      together.outcome operation answer.error answer.error
    refine together.leads parallel now ?_ fun connected => absurd connected unconnected
    intro line setsUp
    cases unbound.symm.trans setsUp

end Calls

/-! ## The steps of a call -/

section Operating

variable {setting : ClientSetting} {protocol : TransportProtocol}
  {first second after other : ClientState}

theorem Together.parallel (together : Together setting protocol first second) :
    Parallel first second first second :=
  { together.toAlike with
    outcome := together.outcome
    calls := together.calls
    connection := rfl
    otherConnection := rfl
    prepared := rfl
    otherPrepared := rfl
    spent := fun _ => id }

theorem Parallel.proceed (parallel : Parallel first second after other) (operation : Operation)
    (stage : Stage) :
    Parallel first second (after.proceed operation stage) (other.proceed operation stage) :=
  (parallel.toAlike.proceed parallel.outcome operation stage).of_eq parallel.connection
    parallel.otherConnection parallel.prepared parallel.otherPrepared parallel.spent

theorem Parallel.finish (parallel : Parallel first second after other) (operation : Operation)
    (result response : Result Unit) (same : response.toOption.isSome = result.toOption.isSome) :
    Parallel first second (after.finish operation result) (other.finish operation response) :=
  (parallel.toAlike.finish operation result response same).of_eq parallel.connection
    parallel.otherConnection parallel.prepared parallel.otherPrepared parallel.spent

theorem Parallel.withCore (parallel : Parallel first second after other)
    {core otherCore : ClientCore} (alike : core.Alike otherCore) :
    Parallel first second (after.withCore core) (other.withCore otherCore) :=
  { parallel with
    core := alike
    spent := parallel.spent }

theorem Parallel.shut (parallel : Parallel first second after other) (line : Nat) :
    Parallel first second (after.shut line) (other.shut line) :=
  parallel.followed (parallel.toAlike.shut line) ⟨rfl, rfl, rfl, rfl, rfl⟩ ⟨rfl, rfl, rfl, rfl, rfl⟩
    (.of_shut rfl)

theorem Parallel.handleConnected (parallel : Parallel first second after other)
    (alreadyConnected : Bool) :
    Parallel first second (after.handleConnected setting alreadyConnected)
      (other.handleConnected (setting.on protocol) alreadyConnected) :=
  parallel.followed (parallel.toAlike.handleConnected setting protocol alreadyConnected)
    (after.handleConnected_undisturbed setting alreadyConnected)
    (other.handleConnected_undisturbed (setting.on protocol) alreadyConnected)
    (.of_lines_eq (after.handleConnected_lines setting alreadyConnected))

theorem ClientState.isPlain_of_undisturbed (undisturbed : Undisturbed first second) :
    second.isPlain = first.isPlain := by
  simp only [ClientState.isPlain, undisturbed.operation]

/-- The call goes on to dial. -/
theorem Together.dials (together : Together setting protocol first second)
    (parallel : Parallel first second after other) (before : first.isDialing = true)
    (unbound : first.setUpLine = none) (now : after.isDialing = true) :
    Together setting protocol after other := by
  refine { parallel.toAlike with
    outcome := parallel.outcome
    prepared := ?_
    preparedSlot := ?_
    slots := ?_
    connected := fun _ => .inr (.inr now)
    dialing := ?_
    calls := parallel.calls }
  · rw [parallel.prepared, parallel.otherPrepared]
    exact together.prepared
  · rw [parallel.prepared, parallel.connection, parallel.otherConnection]
    exact together.preparedSlot
  · intro line
    rw [parallel.connection, parallel.otherConnection]
    obtain same | spent | setsUp := together.slots line
    · exact .inl same
    · exact .inr (.inl (parallel.spent line spent))
    · cases unbound.symm.trans setsUp
  · rw [parallel.connection, parallel.otherConnection]
    exact fun _ => together.dialing before

/-- The end of a line is reported, and the call goes on at a plain stage. -/
theorem Together.announces [RustText] (together : Together setting protocol first second)
    (plain : first.isPlain = true) (operation : Operation) {behind : Stage}
    (plainBehind : behind.isPlain = true) (line : Nat) :
    Together setting protocol
      ((first.proceed operation behind).announce setting line
        (.disconnected setting.protocol.closeReason))
      ((second.proceed operation behind).announce (setting.on protocol) line
        (.disconnected (setting.on protocol).protocol.closeReason)) := by
  refine together.plain ((together.parallel.proceed operation behind).announce line
    (TransportProtocol.plain_closeReason _ _)) plain ?_ ?_
  · rw [ClientState.isPlain_of_undisturbed (ClientState.announce_undisturbed setting _ line _)]
    exact ClientState.isPlain_proceed _ _ plainBehind
  · intro connected
    by_contra unconnected
    exact (ClientState.announce_effect setting (first.proceed operation behind) line _
      none).state_ne_connected unconnected connected

theorem Together.connectData [RustText] (together : Together setting protocol first second) :
    second.connectData (setting.on protocol) = first.connectData setting := by
  obtain ⟨failure, same, -⟩ := together.core.eq_with
  simp only [ClientState.connectData, same, together.frames]
  rfl

variable (setting protocol) in
/-- What is sent is the same, and so is whether it fails. -/
theorem ClientState.Alike.transmit (alike : first.Alike second) (line : Nat) (encoded : Result Wire)
    (answer : Answer) :
    (∃ data, first.transmit setting line encoded answer = .ok data ∧
        second.transmit (setting.on protocol) line encoded answer = .ok data) ∨
      ∃ error text, first.transmit setting line encoded answer = .error error ∧
        second.transmit (setting.on protocol) line encoded answer = .error text := by
  simp only [ClientState.transmit, alike.isLive]
  cases encoded with
  | error error => exact .inr ⟨error, error, rfl, rfl⟩
  | ok data =>
      cases first.isLive line with
      | false => exact .inr ⟨_, _, rfl, rfl⟩
      | true =>
          cases answer.succeeds with
          | false => exact .inr ⟨_, _, rfl, rfl⟩
          | true => exact .inl ⟨data, rfl, rfl⟩

/-- A line is set up, step by step. -/
theorem ClientState.setUpLine_of_undisturbed (undisturbed : Undisturbed first second) :
    second.setUpLine = first.setUpLine := by
  simp only [ClientState.setUpLine, undisturbed.operation]

/-- A line that turns out to be closed is reported, and the call goes on to send CONNECT. -/
theorem Together.findsClosed (together : Together setting protocol first second)
    {line : Nat} (before : first.setUpLine = some line) (operation : Operation) :
    Together setting protocol
      ((first.proceed operation (.greeting line)).onTerminalEvent setting
        (.disconnected setting.protocol.closedReason))
      ((second.proceed operation (.greeting line)).onTerminalEvent (setting.on protocol)
        (.disconnected (setting.on protocol).protocol.closedReason)) := by
  refine together.setsUp ((together.parallel.proceed operation (.greeting line)).onTerminalEvent
    (TransportProtocol.plain_closedReason _ _)) before ?_
  rw [ClientState.setUpLine_of_undisturbed (ClientState.onTerminalEvent_undisturbed setting _ _)]
  rfl

theorem Together.attach (together : Together setting protocol first second) {line : Nat}
    (before : first.setUpLine = some line) (operation : Operation) :
    Together setting protocol (first.attach setting operation line)
      (second.attach (setting.on protocol) operation line) := by
  simp only [ClientState.attach, together.isLive, together.core.state]
  split
  · exact together.setsUp (together.parallel.proceed operation _) before rfl
  · exact together.findsClosed before operation

/-- The observer is put on a line that is open, and not on one that is spent. -/
theorem Together.watch (together : Together setting protocol first second) {line : Nat}
    (before : first.setUpLine = some line) (operation : Operation) :
    Together setting protocol (first.watch setting operation line)
      (second.watch (setting.on protocol) operation line) := by
  simp only [ClientState.watch, together.isLive]
  split
  next live =>
    refine together.setsUp ?_ before rfl
    refine { together.parallel with
      lines := by simp [together.lines]
      calls := rfl
      spent := fun index spent => ?_ }
    have isOther : line ≠ index := by
      rintro rfl
      simp [ClientState.isSpent, live] at spent
    simpa [ClientState.isSpent, ClientState.isLive, ClientState.isAttached, List.getElem?_modify,
      isOther] using spent
  next => exact together.findsClosed before operation

theorem Parallel.writes (parallel : Parallel first second after other) (line : Nat) (data : Wire) :
    Parallel first second (after.writes line data) (other.writes line data) :=
  { parallel with
    written := by simp [parallel.written]
    spent := parallel.spent }

/-- CONNECT is sent, or fails on a line that is spent. -/
theorem Together.greet [RustText] (together : Together setting protocol first second) {line : Nat}
    (before : first.setUpLine = some line) (operation : Operation) {answer : Answer}
    (concerted : ((first.transmit setting line (first.connectData setting)
      answer).toOption.isSome || first.isSpent line) = true) :
    Together setting protocol (first.greet setting operation line answer)
      (second.greet (setting.on protocol) operation line answer) := by
  have stamped : Parallel first second { first with frames := first.frames + 1 }
      { second with frames := second.frames + 1 } :=
    { together.parallel with
      frames := congrArg (· + 1) together.frames
      spent := fun _ => id }
  simp only [ClientState.greet, together.connectData]
  obtain ⟨data, sends, otherSends⟩ | ⟨error, text, fails, otherFails⟩ :=
    together.toAlike.transmit setting protocol line (first.connectData setting) answer
  · rw [sends, otherSends]
    have next := (stamped.writes line data).proceed operation (.confirming line)
    refine .of_sameSlot ?_ next.outcome rfl rfl ?_ (fun _ => rfl) rfl
    · exact { next.toAlike with }
    · exact together.prepared
  · rw [fails, otherFails]
    have spent : first.isSpent line = true := by
      simpa [fails, Except.toOption] using concerted
    obtain ⟨parallel, now, unconnected⟩ :=
      stamped.toAlike.failConnect setting protocol together.outcome operation error text
    refine together.leads (parallel.of_eq rfl rfl rfl rfl fun _ => id) now ?_
      fun connected => absurd connected unconnected
    intro index setsUp
    cases before.symm.trans setsUp
    exact spent

/-- CONNECT is reported, and the call goes on with what it is for. -/
theorem Together.connectDone (together : Together setting protocol first second)
    (before : first.isGreeted = true) (operation : Operation) (alreadyConnected : Bool) :
    Together setting protocol (first.connectDone setting operation alreadyConnected)
      (second.connectDone (setting.on protocol) operation alreadyConnected) := by
  have handled : Parallel first second (first.handleConnected setting alreadyConnected)
      (second.handleConnected (setting.on protocol) alreadyConnected) :=
    together.parallel.handleConnected alreadyConnected
  have reset : Parallel first second
      { first.handleConnected setting alreadyConnected with reconnectAttempts := 0 }
      { second.handleConnected (setting.on protocol) alreadyConnected with reconnectAttempts := 0 } :=
    { handled with
      reconnectAttempts := rfl
      spent := handled.spent }
  simp only [ClientState.connectDone]
  cases operation.call with
  | send frame | sendAndWait frame =>
      exact together.greeted (reset.proceed operation .sending) before rfl
  | connect | renew index | disconnect =>
      refine together.greeted (reset.finish operation _ _ rfl) before ?_
      simp [ClientState.isDialing]

/-- A frame is sent on the same line, or fails. -/
theorem Together.sendInternal [RustText] (together : Together setting protocol first second)
    (plain : first.isPlain = true) (frame : Frame) (answer : Answer) :
    (∃ sent, first.sendInternal setting frame answer = .ok sent ∧
        second.sendInternal (setting.on protocol) frame answer = .ok sent) ∨
      ∃ error text, first.sendInternal setting frame answer = .error error ∧
        second.sendInternal (setting.on protocol) frame answer = .error text := by
  obtain ⟨failure, same, -⟩ := together.core.eq_with
  simp only [ClientState.sendInternal, same, ClientSetting.on_registries]
  by_cases connected : first.core.state = .connected
  · rw [together.sameSlot plain connected]
    simp only [connected, ConnectionState.canSend]
    cases first.core.parser.serialize setting.registries frame with
    | error error => exact .inr ⟨error, error, rfl, rfl⟩
    | ok data =>
        cases first.connection with
        | none => exact .inr ⟨_, _, rfl, rfl⟩
        | some line =>
            dsimp only
            obtain ⟨data, sends, otherSends⟩ | ⟨error, text, fails, otherFails⟩ :=
              together.toAlike.transmit setting protocol line (.ok data) answer
            · exact .inl ⟨(line, data), by rw [sends]; rfl, by rw [otherSends]; rfl⟩
            · exact .inr ⟨error, text, by rw [fails]; rfl, by rw [otherFails]; rfl⟩
  · have refused : first.core.state.canSend = false := by
      cases isState : first.core.state <;> first | rfl | exact absurd isState connected
    exact .inr ⟨_, _, by rw [refused]; rfl, by rw [refused]; rfl⟩

theorem Together.sendFrame [RustText] (together : Together setting protocol first second)
    (plain : first.isPlain = true) (operation : Operation) (frame : Frame) (answer : Answer) :
    Together setting protocol (first.sendFrame setting operation frame answer)
      (second.sendFrame (setting.on protocol) operation frame answer) := by
  simp only [ClientState.sendFrame]
  obtain ⟨⟨line, data⟩, sends, otherSends⟩ | ⟨error, text, fails, otherFails⟩ :=
    together.sendInternal plain frame answer
  · rw [sends, otherSends]
    have written := together.parallel.writes line data
    cases operation.request with
    | none =>
        exact together.plain (written.finish operation _ _ rfl) plain
          (ClientState.isPlain_finish _ _ _) (by simp)
    | some request =>
        exact together.plain (written.proceed operation (.waiting request)) plain
          (ClientState.isPlain_proceed _ _ rfl) id
  · rw [fails, otherFails]
    exact together.plain (together.parallel.finish operation _ _ rfl) plain
      (ClientState.isPlain_finish _ _ _) (by simp)

theorem Together.register (together : Together setting protocol first second)
    (plain : first.isPlain = true)
    (concerted : (!(first.awaitsAck && first.mayReconnect setting)) = true)
    (operation : Operation) (frame : Frame) :
    Together setting protocol (first.register setting operation frame)
      (second.register (setting.on protocol) operation frame) := by
  obtain ⟨failure, same, isSome⟩ := together.core.eq_with
  simp only [ClientState.register, together.requests]
  refine Together.startSend ?_ ?_ ?_ _
  rotate_left
  · exact plain
  · exact concerted
  refine together.plain ?_ plain plain id
  exact { together.parallel with
    core := by
      rw [same]
      exact ⟨rfl, isSome⟩
    requests := rfl
    spent := fun _ => id }

theorem Together.await (together : Together setting protocol first second)
    (plain : first.isPlain = true) (operation : Operation) (frame : Frame) (request : Nat)
    (answer : Answer) (awaited : first.await operation frame request answer = some after) :
    ∃ other, second.await operation frame request answer = some other ∧
      Together setting protocol after other := by
  obtain ⟨failure, same, isSome⟩ := together.core.eq_with
  have cancelled : Parallel first second
      (first.withCore { first.core with pending := first.core.pending.erase frame.messageId })
      (second.withCore
        { second.core with pending := second.core.pending.erase frame.messageId }) := by
    refine together.parallel.withCore ?_
    rw [same]
    exact ⟨rfl, isSome⟩
  have pending : second.core.pending = first.core.pending := by rw [same]
  rw [pending] at cancelled
  simp only [ClientState.await, together.answered, pending] at awaited ⊢
  split at awaited
  next known =>
    obtain rfl := Option.some.inj awaited
    exact ⟨_, if_pos known, together.plain (together.parallel.finish operation _ _ rfl) plain
      (ClientState.isPlain_finish _ _ _) (by simp)⟩
  next unknown =>
    rw [if_neg unknown]
    split at awaited
    next gone =>
      obtain rfl := Option.some.inj awaited
      exact ⟨_, if_pos gone, together.plain (cancelled.finish operation _ _ rfl) plain
        (ClientState.isPlain_finish _ _ _) (by simp)⟩
    next registered =>
      rw [if_neg registered]
      split at awaited
      next late =>
        obtain rfl := Option.some.inj awaited
        exact ⟨_, if_pos late, together.plain (cancelled.finish operation _ _ rfl) plain
          (ClientState.isPlain_finish _ _ _) (by simp)⟩
      next => cases awaited

theorem Together.leave (together : Together setting protocol first second)
    (plain : first.isPlain = true) (operation : Operation) (answer : Answer) :
    Together setting protocol
      (((first.withCore { first.core with pending := ∅ }).handleTerminalEvent setting
        (.disconnected "Client disconnected")).finish operation
          (if answer.succeeds then .ok () else .error answer.error))
      (((second.withCore { second.core with pending := ∅ }).handleTerminalEvent
        (setting.on protocol) (.disconnected "Client disconnected")).finish operation
          (if answer.succeeds then .ok () else .error answer.error)) := by
  obtain ⟨failure, same, isSome⟩ := together.core.eq_with
  have cleared : Parallel first second (first.withCore { first.core with pending := ∅ })
      (second.withCore { second.core with pending := ∅ }) := by
    refine together.parallel.withCore ?_
    rw [same]
    exact ⟨rfl, isSome⟩
  have lost := cleared.followed
    (cleared.toAlike.handleTerminalEvent setting protocol
      (rfl : (ConnectionEvent.disconnected "Client disconnected").plain = _))
    (ClientState.handleTerminalEvent_undisturbed setting _ _)
    (ClientState.handleTerminalEvent_undisturbed (setting.on protocol) _ _)
    (.of_lines_eq (ClientState.handleTerminalEvent_lines setting _ _))
  refine together.plain (lost.finish operation _ _ rfl) plain (ClientState.isPlain_finish _ _ _) ?_
  intro connected
  by_contra unconnected
  rw [ClientState.finish_core, ClientState.handleTerminalEvent_core] at connected
  refine ClientCore.handleTerminalEvent_state_ne_connected _ ?_ _ connected
  exact unconnected

/-- One step of the call that has the client. -/
theorem Together.operate [RustText] (together : Together setting protocol first second)
    {operation : Operation} (current : first.operation = some operation) {answer : Answer}
    (concerted : first.isConcerted setting (.operate answer) = true)
    (operated : first.operate setting operation answer = some after) :
    ∃ other, second.operate (setting.on protocol) operation answer = some other ∧
      Near setting protocol after other := by
  obtain ⟨call, request, retries, stage⟩ := operation
  have isPlain : stage.isPlain = true → first.isPlain = true := by
    intro plain
    simpa [ClientState.isPlain, current] using plain
  have setUpLine : first.setUpLine = stage.setUpLine := by simp [ClientState.setUpLine, current]
  have isDialing : first.isDialing = stage.isDialing := by simp [ClientState.isDialing, current]
  have isGreeted : first.isGreeted = stage.isGreeted := by simp [ClientState.isGreeted, current]
  simp only [ClientState.isConcerted, current, Option.all_some] at concerted
  cases stage with
  | pausing =>
      obtain rfl := Option.some.inj operated
      refine ⟨_, rfl, ?_⟩
      exact together.takes setUpLine { together.toAlike with } together.outcome rfl rfl rfl rfl rfl
        ⟨call, request, retries, .pausing⟩ (fun _ => rfl) rfl (fun _ => rfl) rfl rfl rfl
  | retiring line | disconnecting line =>
      obtain rfl := Option.some.inj operated
      refine ⟨_, rfl, Together.near ?_⟩
      exact together.plain ((together.parallel.shut line).proceed _ _) (isPlain rfl)
        (ClientState.isPlain_proceed _ _ rfl) id
  | retired line | disconnected line =>
      obtain rfl := Option.some.inj operated
      exact ⟨_, rfl, (together.announces (isPlain rfl) _ rfl line).near⟩
  | establishing =>
      obtain rfl := Option.some.inj operated
      exact ⟨_, rfl, together.establish setUpLine concerted _⟩
  | replacing line =>
      obtain rfl := Option.some.inj operated
      refine ⟨_, rfl, Together.near ?_⟩
      exact together.dials ((together.parallel.shut line).proceed _ _) isDialing setUpLine rfl
  | replaced line =>
      obtain rfl := Option.some.inj operated
      refine ⟨_, rfl, Together.near ?_⟩
      refine together.dials ((together.parallel.proceed _ .dialing).announce line
        (TransportProtocol.plain_closeReason _ _)) isDialing setUpLine ?_
      simp only [ClientState.isDialing,
        (ClientState.announce_undisturbed setting _ line _).operation]
      rfl
  | dialing =>
      obtain rfl := Option.some.inj operated
      exact ⟨_, rfl, (together.dial isDialing setUpLine _ answer).near⟩
  | settingUp line =>
      obtain rfl := Option.some.inj operated
      refine ⟨_, rfl, Together.near ?_⟩
      refine together.setsUp (Parallel.proceed (together.parallel.withCore ?_) _ _) setUpLine rfl
      obtain ⟨failure, same, isSome⟩ := together.core.eq_with
      rw [same]
      exact ⟨rfl, isSome⟩
  | attaching line =>
      obtain rfl := Option.some.inj operated
      exact ⟨_, rfl, (together.attach setUpLine _).near⟩
  | connecting line alreadyConnected =>
      obtain rfl := Option.some.inj operated
      refine ⟨_, rfl, Together.near ?_⟩
      exact together.setsUp ((together.parallel.handleConnected alreadyConnected).proceed _ _)
        setUpLine rfl
  | watching line =>
      obtain rfl := Option.some.inj operated
      exact ⟨_, rfl, (together.watch setUpLine _).near⟩
  | greeting line =>
      obtain rfl := Option.some.inj operated
      exact ⟨_, rfl, (together.greet setUpLine _ concerted).near⟩
  | confirming line =>
      obtain rfl := Option.some.inj operated
      refine ⟨_, rfl, Together.near ?_⟩
      rw [together.core.state]
      exact together.greeted (together.parallel.proceed _ _) isGreeted rfl
  | announcing line alreadyConnected =>
      obtain rfl := Option.some.inj operated
      exact ⟨_, rfl, (together.connectDone isGreeted _ alreadyConnected).near⟩
  | registering =>
      obtain ⟨frame, isFrame, rfl⟩ := Option.map_eq_some_iff.mp operated
      refine ⟨_, Option.map_eq_some_iff.mpr ⟨frame, isFrame, rfl⟩, Together.near ?_⟩
      exact together.register (isPlain rfl) concerted _ frame
  | sending =>
      obtain ⟨frame, isFrame, rfl⟩ := Option.map_eq_some_iff.mp operated
      refine ⟨_, Option.map_eq_some_iff.mpr ⟨frame, isFrame, rfl⟩, Together.near ?_⟩
      exact together.sendFrame (isPlain rfl) _ frame answer
  | waiting request =>
      obtain ⟨frame, isFrame, awaited⟩ := Option.bind_eq_some_iff.mp operated
      obtain ⟨other, isOther, next⟩ := together.await (isPlain rfl) _ frame request answer awaited
      exact ⟨other, Option.bind_eq_some_iff.mpr ⟨frame, isFrame, isOther⟩, next.near⟩
  | leaving =>
      obtain rfl := Option.some.inj operated
      exact ⟨_, rfl, (together.leave (isPlain rfl) _ answer).near⟩

end Operating

/-! ## Replays -/

section Replays

variable [RustText] {setting : ClientSetting} {protocol : TransportProtocol}
  {first second after : ClientState}

/-- One step, before what nothing refers to is dropped. -/
theorem Together.perform (together : Together setting protocol first second) {move : Move}
    (concerted : first.isConcerted setting move = true)
    (performed : first.perform setting move = some after) :
    ∃ other, second.perform (setting.on protocol) move = some other ∧
      Near setting protocol after other := by
  cases move with
  | call call =>
      simp only [ClientState.perform, Option.ite_none_right_eq_some, together.calls] at performed ⊢
      obtain ⟨free, isAfter⟩ := performed
      obtain rfl := Option.some.inj isAfter
      refine ⟨_, ⟨free, rfl⟩, together.start (Option.isNone_iff_eq_none.mp free.1) ?_⟩
      rintro frame rfl
      exact concerted
  | submit frame waits | send index answer => cases concerted
  | operate answer =>
      obtain ⟨operation, current, operated⟩ := Option.bind_eq_some_iff.mp performed
      obtain ⟨other, isOther, near⟩ := together.operate current concerted operated
      refine ⟨other, ?_, near⟩
      rw [ClientState.perform, together.calls, current]
      exact isOther
  | read line event =>
      obtain ⟨other, isOther, next⟩ := together.read performed
      exact ⟨other, isOther, next.near⟩
  | handOver line =>
      obtain ⟨other, isOther, next⟩ := together.handOver performed
      exact ⟨other, isOther, next.near⟩
  | work index answer =>
      obtain ⟨other, isOther, next⟩ := together.work performed
      exact ⟨other, isOther, next.near⟩

theorem Together.stride (together : Together setting protocol first second) {move : Move}
    (concerted : first.isConcerted setting move = true)
    (strode : first.stride setting move = some after) :
    ∃ other, second.stride (setting.on protocol) move = some other ∧
      Together setting protocol after other := by
  rw [ClientState.stride_eq] at strode
  obtain ⟨stepped, isStepped, rfl⟩ := Option.map_eq_some_iff.mp strode
  obtain ⟨performed, isPerformed, rfl⟩ := Option.map_eq_some_iff.mp isStepped
  obtain ⟨other, isOther, near⟩ := together.perform concerted isPerformed
  refine ⟨other.settle.passOver, ?_, near.settle.passOver⟩
  rw [ClientState.stride_eq, ClientState.step, isOther]
  rfl

omit [RustText] in
/-- Clients begin together. -/
theorem Together.initially (setting : ClientSetting) (protocol : TransportProtocol)
    {config : ClientConfig} {start : ClientState} (initial : start.IsInitial config) :
    Together setting protocol start start := by
  have calm : start.operation = none := by obtain rfl | rfl := initial <;> rfl
  refine .of_sameSlot ⟨.refl _, rfl, rfl, rfl, rfl, rfl, rfl, rfl⟩ rfl rfl rfl rfl ?_ ?_
  · obtain rfl | rfl := initial
    · exact Bool.noConfusion
    · exact fun _ => rfl
  · simp [ClientState.isDialing, calm]

omit [RustText] in
theorem Together.choices (together : Together setting protocol first second) :
    second.choices = first.choices := by
  simp only [ClientState.choices, together.lines, together.written, together.calls,
    together.outcome]

/-- The connection of a client stays its connection, and as open as it was. -/
structure Spares (before after : ClientState) : Prop where
  connection : after.connection = before.connection
  live : ∀ line ∈ before.connection, after.isLive line = before.isLive line

omit [RustText] in
theorem Spares.of_eq (connection : after.connection = first.connection)
    (lines : after.lines = first.lines) : Spares first after.settle.passOver where
  connection := connection
  live line held := by
    have isHeld : after.isHeld line = true := by
      simp [ClientState.isHeld, connection.trans held]
    simp only [ClientState.isLive, ClientState.passOver_lines, ClientState.settle_lines,
      List.getElem?_mapIdx, isHeld, lines, if_true, Option.map_id']

/-- A send that does not reconnect goes straight to its frame. -/
theorem ClientState.stride_send {state next : ClientState} {frame : Frame}
    (stays : state.shouldReconnectBeforeSend setting = false)
    (strode : state.stride setting (.call (.send frame)) = some next) :
    Spares state next ∧ next.operation = some ⟨.send frame, none, false, .sending⟩ := by
  rw [stride_eq] at strode
  obtain ⟨stepped, isStepped, rfl⟩ := Option.map_eq_some_iff.mp strode
  obtain ⟨performed, isPerformed, rfl⟩ := Option.map_eq_some_iff.mp isStepped
  obtain ⟨-, isPerformed⟩ := Option.ite_none_right_eq_some.mp isPerformed
  simp only [start, startSend, stays, Option.some.injEq] at isPerformed
  obtain rfl := isPerformed
  exact ⟨.of_eq rfl rfl, rfl⟩

/-- The sending of a frame closes nothing. -/
theorem ClientState.stride_sending {state next : ClientState} {operation : Operation}
    {answer : Answer} (current : state.operation = some operation)
    (sends : operation.stage = .sending)
    (strode : state.stride setting (.operate answer) = some next) : Spares state next := by
  rw [stride_eq] at strode
  obtain ⟨stepped, isStepped, rfl⟩ := Option.map_eq_some_iff.mp strode
  obtain ⟨performed, isPerformed, rfl⟩ := Option.map_eq_some_iff.mp isStepped
  simp only [perform, current, Option.bind_some, operate, sends] at isPerformed
  obtain ⟨frame, -, rfl⟩ := Option.map_eq_some_iff.mp isPerformed
  unfold sendFrame
  split
  · exact .of_eq (finish_connection _ _ _) (finish_lines _ _ _)
  · exact .of_eq rfl rfl
  · exact .of_eq (finish_connection _ _ _) (finish_lines _ _ _)

/-- **Whatever calls and events are replayed in concert, the three transports make the same
choices, and they say the same when asked whether they are connected, unless they wait for the
acknowledgement.  A send that begins while they wait for it leaves the connection alone.** -/
theorem replay_in_concert (setting : ClientSetting) (protocol : TransportProtocol)
    {start state : ClientState} {moves : List Move} (begins : start.IsInitial setting.config)
    (replayed : (replaySystem setting).run start moves = some state)
    (concerted : (replaySystem setting).Permits (Concerted setting) start moves) :
    ∃ other, (replaySystem (setting.on protocol)).run start moves = some other ∧
      other.choices = state.choices ∧
      (state.operation = none → state.awaitsAck = false →
        other.isConnected (setting.on protocol) = state.isConnected setting) ∧
      (∀ frame next, state.awaitsAck = true → Concerted setting state (.call (.send frame)) →
        state.stride setting (.call (.send frame)) = some next →
        Spares state next ∧ next.operation = some ⟨.send frame, none, false, .sending⟩) ∧
      ∀ operation answer next, state.operation = some operation → operation.stage = .sending →
        state.stride setting (.operate answer) = some next → Spares state next := by
  obtain ⟨other, isOther, together⟩ :=
    System.run_matched (T := replaySystem (setting.on protocol)) (R := Together setting protocol)
      (fun together inConcert strode => together.stride inConcert strode)
      (.initially setting protocol begins) concerted replayed
  refine ⟨other, isOther, together.choices, fun free settled => ?_, fun frame next awaits sends =>
    ClientState.stride_send ?_, fun operation answer next => ClientState.stride_sending⟩
  · refine together.isConnected ?_ settled
    simp [ClientState.isPlain, free]
  · have refused : state.mayReconnect setting = false := by
      simpa [Concerted, ClientState.isConcerted, awaits] using sends
    rw [ClientState.shouldReconnectBeforeSend_eq, refused, Bool.and_false]

end Replays

section Examples

open scoped AsciiText

/-- A WebSocket client and a QUIC client connect, are acknowledged, and send a message. -/
theorem replay_in_concert_message :
    ∃ state other, (replaySystem reading).run (.new reading.config)
        (connectsAndNegotiates ++ .call (.send (note "a")) :: operates 1) = some state ∧
      (replaySystem (reading.on .quic)).run (.new reading.config)
        (connectsAndNegotiates ++ .call (.send (note "a")) :: operates 1) = some other ∧
      state.written.length = 3 ∧ other.choices = state.choices ∧
      other.isConnected (reading.on .quic) = state.isConnected reading := by
  have run : ((replaySystem reading).run (.new reading.config)
      (connectsAndNegotiates ++ .call (.send (note "a")) :: operates 1)).any
        (fun state => decide (state.written.length = 3 ∧ state.operation = none ∧
          state.awaitsAck = false)) = true := by
    decide +kernel
  have concerted : (replaySystem reading).Permits (Concerted reading) (.new reading.config)
      (connectsAndNegotiates ++ .call (.send (note "a")) :: operates 1) := by
    decide +kernel
  obtain ⟨state, replayed, holds⟩ := (Option.any_eq_true _ _).mp run
  obtain ⟨written, free, settled⟩ := of_decide_eq_true holds
  obtain ⟨other, isOther, choices, connected, -⟩ :=
    replay_in_concert reading .quic (.inl rfl) replayed concerted
  exact ⟨state, other, replayed, isOther, written, choices, connected free settled⟩

/-- **After the same CONNECT, the QUIC client says that it is connected and the WebSocket client
that it is not; and a message that is to be sent makes the latter close the connection that is
being negotiated, while the former sends it.** -/
theorem send_closes_negotiated_connection :
    ((replaySystem reading).run (.new reading.config) (.call .connect :: operates 9)).any
        (fun state => decide (state.operation = none ∧ state.awaitsAck = true ∧
          state.isConnected reading = false ∧ state.isLive 0 = true)) = true ∧
      ((replaySystem (reading.on .quic)).run (.new reading.config)
        (.call .connect :: operates 9)).any
        (fun state => state.isConnected (reading.on .quic)) = true ∧
      ((replaySystem reading).run (.new reading.config)
        (.call .connect :: operates 9 ++ .call (.send (note "a")) :: operates 2)).any
        (fun state => decide (state.isLive 0 = false ∧ state.written.length = 1)) = true ∧
      ((replaySystem (reading.on .quic)).run (.new reading.config)
        (.call .connect :: operates 9 ++ .call (.send (note "a")) :: operates 1)).any
        (fun state => decide (state.isLive 0 = true ∧ state.written.length = 2)) = true := by
  refine ⟨?_, ?_, ?_, ?_⟩ <;> decide +kernel

end Examples

end FlareCore.Client
