import FlareCore.Foundations.Transition
import FlareCore.Client.Core

/-!
# Observers of a connection

A transport connection tells its observers that it is connected, hands them the messages, and ends
with one terminal event.  Three parties take part: the owner of the connection, who adds observers
and closes it, the reader, and the peer, who decides what the reader reads.  The calls of the
owner take the connection by exclusive reference, so at most one of them is under way; the reader
is a task of its own.

The list of observers is locked only to copy it, to extend it or to take it away, and the events
are delivered outside the lock.  So the copy for a message may outlive the list: an observer that
has been told of the disconnection by a local close may still be handed a message that was read
before (`message_after_disconnection`).  If no close takes the observers away while the reader is
handing out a message, every observer sees the protocol (`observers_follow_protocol`).
-/

namespace FlareCore.Transport

open FlareCore.Common FlareCore.Foundations FlareCore.Client

set_option autoImplicit false

/-! ## The protocol of one observer -/

/-- Connected comes first and a terminal event last, so there is at most one of each. -/
structure Orderly (events : List ConnectionEvent) : Prop where
  connected_first : ∀ index, events[index]? = some .connected → index = 0
  terminal_last : ∀ index event, events[index]? = some event → event.isTerminal →
    index + 1 = events.length

/-- An observer has been told of the connection and of nothing but messages since. -/
def Greeted (events : List ConnectionEvent) : Prop :=
  ∃ messages : List Bytes, events = .connected :: messages.map .message

/-- An observer has been told of the end, of the connection before or not. -/
def Told (events : List ConnectionEvent) : Prop :=
  ∃ earlier last, events = earlier ++ [last] ∧ last.isTerminal ∧ (earlier = [] ∨ Greeted earlier)

theorem Greeted.append_message {events : List ConnectionEvent} (greeted : Greeted events)
    (data : Bytes) : Greeted (events ++ [.message data]) := by
  obtain ⟨messages, rfl⟩ := greeted
  refine ⟨messages ++ [data], ?_⟩
  rw [List.map_append]
  rfl

theorem Greeted.append_terminal {events : List ConnectionEvent} (greeted : Greeted events)
    {event : ConnectionEvent} (isTerminal : event.isTerminal) : Told (events ++ [event]) :=
  ⟨events, event, rfl, isTerminal, .inr greeted⟩

/-- Behind the first event of a greeted observer there are messages only. -/
theorem Greeted.eq_message {events : List ConnectionEvent} (greeted : Greeted events)
    {index : Nat} {event : ConnectionEvent} (found : events[index + 1]? = some event) :
    ∃ data, event = .message data := by
  obtain ⟨messages, rfl⟩ := greeted
  rw [List.getElem?_cons_succ, List.getElem?_map] at found
  obtain ⟨data, -, rfl⟩ := Option.map_eq_some_iff.mp found
  exact ⟨data, rfl⟩

theorem Greeted.not_terminal {events : List ConnectionEvent} (greeted : Greeted events)
    {index : Nat} {event : ConnectionEvent} (found : events[index]? = some event) :
    event.isTerminal = false := by
  cases index with
  | zero =>
      obtain ⟨messages, rfl⟩ := greeted
      obtain rfl := Option.some.inj found
      rfl
  | succ index =>
      obtain ⟨data, rfl⟩ := greeted.eq_message found
      rfl

theorem Greeted.orderly {events : List ConnectionEvent} (greeted : Greeted events) :
    Orderly events where
  connected_first index found := by
    cases index with
    | zero => rfl
    | succ index =>
        obtain ⟨data, isMessage⟩ := greeted.eq_message found
        cases isMessage
  terminal_last index event found isTerminal := by
    rw [greeted.not_terminal found] at isTerminal
    cases isTerminal

theorem orderly_nil : Orderly [] where
  connected_first index found := by cases found
  terminal_last index event found := by cases found

theorem Told.orderly {events : List ConnectionEvent} (told : Told events) : Orderly events := by
  obtain ⟨earlier, last, rfl, isTerminal, before⟩ := told
  have orderly : Orderly earlier := by
    obtain rfl | greeted := before
    · exact orderly_nil
    · exact greeted.orderly
  have inner : ∀ {index event}, index < earlier.length →
      (earlier ++ [last])[index]? = some event → earlier[index]? = some event ∧
        event.isTerminal = false := by
    intro index event within found
    rw [List.getElem?_append_left within] at found
    obtain rfl | greeted := before
    · cases found
    · exact ⟨found, greeted.not_terminal found⟩
  have final : ∀ {index event}, ¬index < earlier.length →
      (earlier ++ [last])[index]? = some event → index = earlier.length ∧ event = last := by
    intro index event beyond found
    rw [List.getElem?_append_right (Nat.not_lt.mp beyond), List.getElem?_singleton] at found
    split_ifs at found with isLast
    exact ⟨by omega, (Option.some.inj found).symm⟩
  constructor
  · intro index found
    by_cases within : index < earlier.length
    · exact orderly.connected_first index (inner within found).1
    · obtain ⟨-, rfl⟩ := final within found
      cases isTerminal
  · intro index event found terminal
    by_cases within : index < earlier.length
    · rw [(inner within found).2] at terminal
      cases terminal
    · rw [(final within found).1, List.length_append, List.length_singleton]

/-! ## A register of observers -/

/-- The observers are numbered in the order in which they are added.  Those that wait for the end
have been greeted, one may be just arriving, and all others have been told of the end. -/
structure Audit (waiting : List Nat) (guest : Option Nat) (count : Nat)
    (events : Nat → List ConnectionEvent) : Prop where
  nodup : waiting.Nodup
  greeted : ∀ observer ∈ waiting, observer < count ∧ Greeted (events observer)
  arriving : ∀ observer ∈ guest, observer < count ∧ observer ∉ waiting
  told : ∀ observer < count, observer ∉ waiting → guest ≠ some observer → Told (events observer)
  untold : ∀ observer, count ≤ observer → events observer = []

namespace Audit

variable {waiting others : List Nat} {guest : Option Nat} {count observer : Nat}
  {events : Nat → List ConnectionEvent}

theorem perm (audit : Audit waiting guest count events) (same : waiting.Perm others) :
    Audit others guest count events where
  nodup := same.nodup_iff.mp audit.nodup
  greeted observer member := audit.greeted observer (same.mem_iff.mpr member)
  arriving observer isGuest :=
    ⟨(audit.arriving observer isGuest).1, fun member =>
      (audit.arriving observer isGuest).2 (same.mem_iff.mpr member)⟩
  told observer known away := audit.told observer known fun member => away (same.mem_iff.mp member)
  untold := audit.untold

/-- A new observer arrives. -/
theorem arrive (audit : Audit waiting none count events) :
    Audit waiting (some count) (count + 1) events where
  nodup := audit.nodup
  greeted observer member :=
    ⟨Nat.lt_succ_of_lt (audit.greeted observer member).1, (audit.greeted observer member).2⟩
  arriving observer isGuest := by
    obtain rfl := Option.some.inj isGuest
    exact ⟨Nat.lt_succ_self _, fun member => Nat.lt_irrefl _ (audit.greeted _ member).1⟩
  told observer known away notGuest := by
    refine audit.told observer ?_ away (fun isGuest => by cases isGuest)
    have other : count ≠ observer := fun same => notGuest (congrArg some same)
    omega
  untold observer beyond := audit.untold observer (Nat.le_of_succ_le beyond)

/-- The guest is told something. -/
theorem host (audit : Audit waiting (some observer) count events)
    (heard : List ConnectionEvent) :
    Audit waiting (some observer) count (Function.update events observer heard) where
  nodup := audit.nodup
  greeted other member := by
    have distinct : other ≠ observer := by
      rintro rfl
      exact (audit.arriving other rfl).2 member
    rw [Function.update_of_ne distinct]
    exact audit.greeted other member
  arriving := audit.arriving
  told other known away notGuest := by
    have distinct : other ≠ observer := fun same => notGuest (congrArg some same.symm)
    rw [Function.update_of_ne distinct]
    exact audit.told other known away notGuest
  untold other beyond := by
    have distinct : other ≠ observer := by
      rintro rfl
      exact Nat.not_lt.mpr beyond (audit.arriving other rfl).1
    rw [Function.update_of_ne distinct]
    exact audit.untold other beyond

/-- The guest is added to those that wait. -/
theorem enlist (audit : Audit waiting (some observer) count events)
    (greeted : Greeted (events observer)) : Audit (observer :: waiting) none count events where
  nodup := List.nodup_cons.mpr ⟨(audit.arriving observer rfl).2, audit.nodup⟩
  greeted other member := by
    obtain rfl | member := List.mem_cons.mp member
    · exact ⟨(audit.arriving other rfl).1, greeted⟩
    · exact audit.greeted other member
  arriving other isGuest := by cases isGuest
  told other known away _ := by
    rw [List.mem_cons, not_or] at away
    exact audit.told other known away.2 fun same => away.1 (Option.some.inj same).symm
  untold := audit.untold

/-- The guest is turned away. -/
theorem refuse (audit : Audit waiting (some observer) count events)
    (told : Told (events observer)) : Audit waiting none count events where
  nodup := audit.nodup
  greeted := audit.greeted
  arriving other isGuest := by cases isGuest
  told other known away _ := by
    by_cases same : other = observer
    · rw [same]
      exact told
    · exact audit.told other known away fun isGuest => same (Option.some.inj isGuest).symm
  untold := audit.untold

/-- One that waits is handed a message. -/
theorem message (audit : Audit waiting guest count events) (member : observer ∈ waiting)
    (data : Bytes) :
    Audit waiting guest count
      (Function.update events observer (events observer ++ [.message data])) where
  nodup := audit.nodup
  greeted other isMember := by
    by_cases same : other = observer
    · subst same
      rw [Function.update_self]
      exact ⟨(audit.greeted other member).1, (audit.greeted other member).2.append_message data⟩
    · rw [Function.update_of_ne same]
      exact audit.greeted other isMember
  arriving := audit.arriving
  told other known away notGuest := by
    have distinct : other ≠ observer := fun same => away (same ▸ member)
    rw [Function.update_of_ne distinct]
    exact audit.told other known away notGuest
  untold other beyond := by
    have distinct : other ≠ observer := by
      rintro rfl
      exact Nat.not_lt.mpr beyond (audit.greeted other member).1
    rw [Function.update_of_ne distinct]
    exact audit.untold other beyond

/-- One that waits is told of the end, and waits no longer. -/
theorem farewell (audit : Audit (observer :: waiting) guest count events)
    {event : ConnectionEvent} (isTerminal : event.isTerminal) :
    Audit waiting guest count (Function.update events observer (events observer ++ [event])) where
  nodup := (List.nodup_cons.mp audit.nodup).2
  greeted other member := by
    have distinct : other ≠ observer := by
      rintro rfl
      exact (List.nodup_cons.mp audit.nodup).1 member
    rw [Function.update_of_ne distinct]
    exact audit.greeted other (List.mem_cons_of_mem _ member)
  arriving other isGuest :=
    ⟨(audit.arriving other isGuest).1, fun member =>
      (audit.arriving other isGuest).2 (List.mem_cons_of_mem _ member)⟩
  told other known away notGuest := by
    by_cases same : other = observer
    · subst same
      rw [Function.update_self]
      exact (audit.greeted other List.mem_cons_self).2.append_terminal isTerminal
    · rw [Function.update_of_ne same]
      exact audit.told other known (List.mem_cons.not.mpr (not_or.mpr ⟨same, away⟩)) notGuest
  untold other beyond := by
    have distinct : other ≠ observer := by
      rintro rfl
      exact Nat.not_lt.mpr beyond (audit.greeted other List.mem_cons_self).1
    rw [Function.update_of_ne distinct]
    exact audit.untold other beyond

end Audit

/-! ## The parties -/

inductive TransportKind where
  | tcp
  | quic
  | webSocket
  deriving DecidableEq

/-- What is said to an observer that comes too late. -/
def TransportKind.closedReason : TransportKind → String
  | tcp => "TCP connection is closed"
  | quic => "QUIC stream is closed"
  | webSocket => "WebSocket connection is closed"

/-- What a read gives.  A WebSocket answers some control frames itself, and its stream may end
without a word. -/
inductive Received where
  | message (data : Bytes)
  | disconnected (reason : String)
  | failed (error : FlareError)
  | handled
  | exhausted

/-- Where the reader stands; `delivering` and `telling` hold the observers that are still to be
called with a message and with the terminal event. -/
inductive Reader where
  | waiting
  | checking
  | reading
  | received (received : Received)
  | dispatching (received : Received)
  | delivering (data : Bytes) (remaining : List Nat)
  | reporting (event : ConnectionEvent)
  | telling (event : ConnectionEvent) (remaining : List Nat)
  | leaving
  | finished

namespace Reader

/-- The observers of the copy that a message is handed to. -/
def audience : Reader → List Nat
  | delivering _ remaining => remaining
  | _ => []

/-- The observers that were taken away and are still to be told of the end. -/
def taken : Reader → List Nat
  | telling _ remaining => remaining
  | _ => []

/-- The connection is marked as closed, and the observers are to be taken away next. -/
def isReporting : Reader → Bool
  | reporting _ => true
  | _ => false

/-- The terminal event of a reader is a terminal event. -/
def Sound : Reader → Prop
  | reporting event | telling event _ => event.isTerminal = true
  | _ => True

end Reader

/-- What the owner is doing: `attach_observer` from `greeting` to `waking`, or a close. -/
inductive Owner where
  | idle
  | greeting (observer : Nat)
  | registering (observer : Nat)
  | refusing (observer : Nat)
  | waking
  | closing (reason : String)
  | shutting (reason : String)
  | telling (reason : String) (remaining : List Nat)

namespace Owner

/-- The observer that is being added. -/
def guest : Owner → Option Nat
  | greeting observer | registering observer | refusing observer => some observer
  | _ => none

def taken : Owner → List Nat
  | telling _ remaining => remaining
  | _ => []

/-- A close has marked the connection, and will take the observers away. -/
def isReporting : Owner → Bool
  | closing _ | shutting _ => true
  | _ => false

/-- The next step of a close is to take the observers away. -/
def isShutting : Owner → Bool
  | shutting _ => true
  | _ => false

/-- What the observer that is being added has been told so far. -/
def Hosts (heard : Nat → List ConnectionEvent) : Owner → Prop
  | greeting observer => heard observer = []
  | registering observer => heard observer = [.connected]
  | refusing observer => heard observer = [] ∨ heard observer = [.connected]
  | _ => True

end Owner

structure Watched where
  closed : Bool
  observers : List Nat
  count : Nat
  heard : Nat → List ConnectionEvent
  permit : Bool
  reader : Reader
  owner : Owner

inductive ObservationMove where
  | addObserver
  | closeWithReason (reason : String)
  | owner
  | read (received : Received)
  | reader

/-- The step of a call that is under way. -/
def ObservationMove.isOwner : ObservationMove → Bool
  | owner => true
  | _ => false

namespace Watched

/-- A connection that has just been set up. -/
def new : Watched where
  closed := false
  observers := []
  count := 0
  heard := fun _ => []
  permit := false
  reader := .waiting
  owner := .idle

variable (kind : TransportKind) (state : Watched)

/-- `deliver_to_observer`. -/
def deliver (observer : Nat) (event : ConnectionEvent) : Watched :=
  { state with heard := Function.update state.heard observer (state.heard observer ++ [event]) }

/-- The top of the loop; only the WebSocket reader goes on without looking at the flag. -/
def again : Watched :=
  { state with reader := if kind = .webSocket then .reading else .checking }

/-- The way out of the loop; the WebSocket reader looks at the flag once more. -/
def leave : Watched :=
  { state with reader := if kind = .webSocket then .leaving else .finished }

/-- A terminal event: the connection is marked before the observers are taken away. -/
def terminate (event : ConnectionEvent) : Watched :=
  { state with closed := true, reader := .reporting event }

/-- The next step of `receiver_task`, other than a read. -/
def stepReader : Option Watched :=
  match state.reader with
  | .waiting =>
      if state.permit then some { state with permit := false, reader := .checking } else none
  | .checking => some { state with reader := if state.closed then .finished else .reading }
  | .reading => none
  | .received received =>
      if state.closed then some (state.leave kind)
      else some { state with reader := .dispatching received }
  | .dispatching (.message data) => some { state with reader := .delivering data state.observers }
  | .dispatching (.disconnected reason) => some (state.terminate (.disconnected reason))
  | .dispatching (.failed error) => some (state.terminate (.error error))
  | .dispatching .handled | .dispatching .exhausted => some (state.again kind)
  | .delivering data (observer :: remaining) =>
      some { state.deliver observer (.message data) with reader := .delivering data remaining }
  | .delivering _ [] => some (state.again kind)
  | .reporting event =>
      some { state with observers := [], reader := .telling event state.observers }
  | .telling event (observer :: remaining) =>
      some { state.deliver observer event with reader := .telling event remaining }
  | .telling _ [] => some (state.leave kind)
  | .leaving =>
      if state.closed then some { state with reader := .finished }
      else some (state.terminate (.disconnected "WebSocket connection closed by peer"))
  | .finished => none

/-- The next step of `attach_observer` or of `close_with_reason`.  The list is locked while the
flag is read and the observer is added; a reader that sets the flag meanwhile has to wait for the
lock before it takes the list. -/
def stepOwner : Option Watched :=
  match state.owner with
  | .idle => none
  | .greeting observer =>
      some { state.deliver observer .connected with owner := .registering observer }
  | .registering observer =>
      if state.closed then some { state with owner := .refusing observer }
      else some { state with observers := state.observers ++ [observer], owner := .waking }
  | .refusing observer =>
      some { state.deliver observer (.disconnected kind.closedReason) with owner := .idle }
  | .waking => some { state with permit := true, owner := .idle }
  | .closing reason => some { state with permit := true, owner := .shutting reason }
  | .shutting reason =>
      some { state with observers := [], owner := .telling reason state.observers }
  | .telling reason (observer :: remaining) =>
      some { state.deliver observer (.disconnected reason) with owner := .telling reason remaining }
  | .telling _ [] => some { state with owner := .idle }

/-- `add_observer`, which begins by looking at the flag. -/
def addObserver : Option Watched :=
  match state.owner with
  | .idle =>
      some { state with
        count := state.count + 1
        owner := if state.closed then .refusing state.count else .greeting state.count }
  | _ => none

/-- `close_with_reason`, which begins by setting the flag. -/
def closeWithReason (reason : String) : Option Watched :=
  match state.owner with
  | .idle => some { state with closed := true, owner := .closing reason }
  | _ => none

/-- What a read gives; only WebSocket reads anything but messages and ends. -/
def read (received : Received) : Option Watched :=
  match state.reader, received with
  | .reading, .exhausted => if kind = .webSocket then some (state.leave kind) else none
  | .reading, .handled =>
      if kind = .webSocket then some { state with reader := .received .handled } else none
  | .reading, received => some { state with reader := .received received }
  | _, _ => none

def step : ObservationMove → Option Watched
  | .addObserver => state.addObserver
  | .closeWithReason reason => state.closeWithReason reason
  | .owner => state.stepOwner kind
  | .read received => state.read kind received
  | .reader => state.stepReader kind

end Watched

/-- A connection with its owner, its reader and its peer. -/
def observation (kind : TransportKind) : System Watched ObservationMove where
  step := Watched.step kind

/-! ## What every step keeps -/

/-- The copy for a message holds observers of the list only, and after the flag is set somebody
is about to take the list away, or it is empty. -/
structure Watched.Protocol (state : Watched) : Prop where
  audit : Audit (state.observers ++ (state.reader.taken ++ state.owner.taken)) state.owner.guest
    state.count state.heard
  hosts : state.owner.Hosts state.heard
  sound : state.reader.Sound
  audience : ∀ observer ∈ state.reader.audience, observer ∈ state.observers
  reported : state.closed → state.observers = [] ∨ state.reader.isReporting ∨
    state.owner.isReporting

/-- What somebody is told who waits for the end does not concern the one that is being added. -/
theorem Owner.Hosts.update {owner : Owner} {heard : Nat → List ConnectionEvent} {observer : Nat}
    (hosts : owner.Hosts heard) (other : owner.guest ≠ some observer)
    (events : List ConnectionEvent) : owner.Hosts (Function.update heard observer events) := by
  cases owner with
  | greeting guest =>
      have distinct : guest ≠ observer := fun same => other (congrArg some same)
      exact (Function.update_of_ne distinct _ _).trans hosts
  | registering guest =>
      have distinct : guest ≠ observer := fun same => other (congrArg some same)
      exact (Function.update_of_ne distinct _ _).trans hosts
  | refusing guest =>
      have distinct : guest ≠ observer := fun same => other (congrArg some same)
      exact Or.imp (Function.update_of_ne distinct _ _).trans
        (Function.update_of_ne distinct _ _).trans hosts
  | idle | waking | closing reason | shutting reason | telling reason remaining => trivial

/-- The one that is being added has heard of the connection at most. -/
theorem Owner.Hosts.heard_guest {owner : Owner} {heard : Nat → List ConnectionEvent}
    {observer : Nat} (hosts : owner.Hosts heard) (isGuest : owner.guest = some observer) :
    heard observer = [] ∨ heard observer = [.connected] := by
  cases owner with
  | greeting guest =>
      obtain rfl := Option.some.inj isGuest
      exact .inl hosts
  | registering guest =>
      obtain rfl := Option.some.inj isGuest
      exact .inr hosts
  | refusing guest =>
      obtain rfl := Option.some.inj isGuest
      exact hosts
  | idle | waking | closing reason | shutting reason | telling reason remaining => cases isGuest

namespace Watched

variable {kind : TransportKind} {state next : Watched}

theorem protocol_new : new.Protocol where
  audit :=
    { nodup := List.nodup_nil
      greeted := fun _ member => absurd member List.not_mem_nil
      arriving := fun _ isGuest => by cases isGuest
      told := fun observer known => absurd known (Nat.not_lt_zero observer)
      untold := fun _ _ => rfl }
  hosts := trivial
  sound := trivial
  audience := fun _ member => absurd member List.not_mem_nil
  reported := fun closed => by cases closed

/-- The reader moves on without touching the observers. -/
theorem Protocol.read_on (protocol : state.Protocol) {reader : Reader} {permit : Bool}
    (nobodyTaken : reader.taken = state.reader.taken) (nobody : reader.audience = [])
    (sound : reader.Sound) (noReport : state.reader.isReporting = false) :
    { state with permit := permit, reader := reader }.Protocol where
  audit := nobodyTaken ▸ protocol.audit
  hosts := protocol.hosts
  sound := sound
  audience observer member := by
    rw [nobody] at member
    exact absurd member List.not_mem_nil
  reported closed := by
    obtain none | reader | owner := protocol.reported closed
    · exact .inl none
    · rw [noReport] at reader
      cases reader
    · exact .inr (.inr owner)

/-- The reader sets the flag. -/
theorem Protocol.terminate (protocol : state.Protocol) {event : ConnectionEvent}
    (isTerminal : event.isTerminal) (nobodyTaken : state.reader.taken = []) :
    (state.terminate event).Protocol where
  audit := by
    have audit := protocol.audit
    rw [nobodyTaken] at audit
    exact audit
  hosts := protocol.hosts
  sound := isTerminal
  audience observer member := absurd member List.not_mem_nil
  reported _ := .inr (.inl rfl)

theorem Protocol.again (protocol : state.Protocol) (nobodyTaken : state.reader.taken = [])
    (noReport : state.reader.isReporting = false) : (state.again kind).Protocol := by
  unfold Watched.again
  split_ifs
  · exact protocol.read_on nobodyTaken.symm rfl trivial noReport
  · exact protocol.read_on nobodyTaken.symm rfl trivial noReport

theorem Protocol.leave (protocol : state.Protocol) (nobodyTaken : state.reader.taken = [])
    (noReport : state.reader.isReporting = false) : (state.leave kind).Protocol := by
  unfold Watched.leave
  split_ifs
  · exact protocol.read_on nobodyTaken.symm rfl trivial noReport
  · exact protocol.read_on nobodyTaken.symm rfl trivial noReport

/-- An observer of the copy is handed the message. -/
theorem Protocol.deliver_message {data : Bytes} {observer : Nat} {remaining : List Nat}
    (protocol : state.Protocol) (stage : state.reader = .delivering data (observer :: remaining)) :
    { state.deliver observer (.message data) with
      reader := .delivering data remaining }.Protocol := by
  have audience := protocol.audience
  have audit := protocol.audit
  rw [stage] at audience audit
  have member : observer ∈ state.observers := audience observer List.mem_cons_self
  have waiting : observer ∈ state.observers ++ (Reader.taken (.delivering data
      (observer :: remaining)) ++ state.owner.taken) := List.mem_append_left _ member
  refine ⟨audit.message waiting data, ?_, trivial, ?_, ?_⟩
  · -- the one that is being added is not in the list yet
    exact protocol.hosts.update (fun isGuest => (audit.arriving observer isGuest).2 waiting) _
  · exact fun other later => audience other (List.mem_cons_of_mem _ later)
  · intro closed
    have reported := protocol.reported closed
    rwa [stage] at reported

/-- The reader takes the observers away. -/
theorem Protocol.take_reader {event : ConnectionEvent} (protocol : state.Protocol)
    (stage : state.reader = .reporting event) :
    { state with observers := [], reader := .telling event state.observers }.Protocol := by
  have audit := protocol.audit
  have sound := protocol.sound
  rw [stage] at audit sound
  exact ⟨audit, protocol.hosts, sound, fun _ member => absurd member List.not_mem_nil,
    fun _ => .inl rfl⟩

/-- One that was taken away is told of the end, by the reader or by the owner. -/
theorem Protocol.tell_reader {event : ConnectionEvent} {observer : Nat} {remaining : List Nat}
    (protocol : state.Protocol) (stage : state.reader = .telling event (observer :: remaining)) :
    { state.deliver observer event with reader := .telling event remaining }.Protocol := by
  have audit := protocol.audit
  have sound := protocol.sound
  rw [stage] at audit sound
  have moved : (state.observers ++ observer :: (remaining ++ state.owner.taken)).Perm
      (observer :: (state.observers ++ (remaining ++ state.owner.taken))) := List.perm_middle
  have waiting := audit.perm moved
  refine ⟨waiting.farewell sound, ?_, sound, fun _ member => absurd member List.not_mem_nil, ?_⟩
  · exact protocol.hosts.update
      (fun isGuest => (waiting.arriving observer isGuest).2 List.mem_cons_self) _
  · intro closed
    have reported := protocol.reported closed
    rwa [stage] at reported

theorem protocol_stepReader (protocol : state.Protocol)
    (stepped : state.stepReader kind = some next) : next.Protocol := by
  unfold stepReader at stepped
  split at stepped
  · next stage =>
      split_ifs at stepped
      obtain rfl := Option.some.inj stepped
      exact protocol.read_on (by rw [stage]; rfl) rfl trivial (by rw [stage]; rfl)
  · next stage =>
      obtain rfl := Option.some.inj stepped
      split_ifs <;> exact protocol.read_on (by rw [stage]; rfl) rfl trivial (by rw [stage]; rfl)
  · cases stepped
  · next received stage =>
      split_ifs at stepped
      · obtain rfl := Option.some.inj stepped
        exact protocol.leave (by rw [stage]; rfl) (by rw [stage]; rfl)
      · obtain rfl := Option.some.inj stepped
        exact protocol.read_on (by rw [stage]; rfl) rfl trivial (by rw [stage]; rfl)
  · next data stage =>
      obtain rfl := Option.some.inj stepped
      have reported := protocol.reported
      have audit := protocol.audit
      rw [stage] at reported audit
      exact ⟨audit, protocol.hosts, trivial, fun _ member => member, reported⟩
  · next reason stage =>
      obtain rfl := Option.some.inj stepped
      exact protocol.terminate rfl (by rw [stage]; rfl)
  · next error stage =>
      obtain rfl := Option.some.inj stepped
      exact protocol.terminate rfl (by rw [stage]; rfl)
  · next stage =>
      obtain rfl := Option.some.inj stepped
      exact protocol.again (by rw [stage]; rfl) (by rw [stage]; rfl)
  · next stage =>
      obtain rfl := Option.some.inj stepped
      exact protocol.again (by rw [stage]; rfl) (by rw [stage]; rfl)
  · next data observer remaining stage =>
      obtain rfl := Option.some.inj stepped
      exact protocol.deliver_message stage
  · next data stage =>
      obtain rfl := Option.some.inj stepped
      exact protocol.again (by rw [stage]; rfl) (by rw [stage]; rfl)
  · next event stage =>
      obtain rfl := Option.some.inj stepped
      exact protocol.take_reader stage
  · next event observer remaining stage =>
      obtain rfl := Option.some.inj stepped
      exact protocol.tell_reader stage
  · next event stage =>
      obtain rfl := Option.some.inj stepped
      exact protocol.leave (by rw [stage]; rfl) (by rw [stage]; rfl)
  · next stage =>
      split_ifs at stepped
      · obtain rfl := Option.some.inj stepped
        exact protocol.read_on (by rw [stage]; rfl) rfl trivial (by rw [stage]; rfl)
      · obtain rfl := Option.some.inj stepped
        exact protocol.terminate rfl (by rw [stage]; rfl)
  · cases stepped

/-- The owner moves on without touching the observers. -/
theorem Protocol.move_on (protocol : state.Protocol) {owner : Owner} {permit : Bool}
    (nobodyTaken : owner.taken = state.owner.taken) (sameGuest : owner.guest = state.owner.guest)
    (hosts : owner.Hosts state.heard) (report : owner.isReporting = state.owner.isReporting) :
    { state with permit := permit, owner := owner }.Protocol where
  audit := nobodyTaken ▸ sameGuest ▸ protocol.audit
  hosts := hosts
  sound := protocol.sound
  audience := protocol.audience
  reported closed := report ▸ protocol.reported closed

theorem Protocol.greet {observer : Nat} (protocol : state.Protocol)
    (stage : state.owner = .greeting observer) :
    { state.deliver observer .connected with owner := .registering observer }.Protocol := by
  have audit := protocol.audit
  have hosts := protocol.hosts
  have reported := protocol.reported
  rw [stage] at audit hosts reported
  refine ⟨audit.host _, ?_, protocol.sound, protocol.audience, reported⟩
  have first : state.heard observer = [] := hosts
  exact (Function.update_self ..).trans (congrArg (· ++ [_]) first)

theorem Protocol.enlist {observer : Nat} (protocol : state.Protocol)
    (stage : state.owner = .registering observer) (isOpen : state.closed = false) :
    { state with observers := state.observers ++ [observer], owner := .waking }.Protocol := by
  have audit := protocol.audit
  have hosts := protocol.hosts
  rw [stage] at audit hosts
  refine ⟨?_, trivial, protocol.sound, ?_, ?_⟩
  · have admitted := audit.enlist ⟨[], hosts⟩
    refine admitted.perm ?_
    rw [List.append_assoc]
    exact List.perm_middle.symm
  · exact fun other member => List.mem_append_left _ (protocol.audience other member)
  · intro closed
    exact absurd (isOpen.symm.trans closed) Bool.false_ne_true

theorem Protocol.refuse {observer : Nat} (protocol : state.Protocol)
    (stage : state.owner = .refusing observer) (reason : String) :
    { state.deliver observer (.disconnected reason) with owner := .idle }.Protocol := by
  have audit := protocol.audit
  have hosts := protocol.hosts
  have reported := protocol.reported
  rw [stage] at audit hosts reported
  refine ⟨(audit.host _).refuse ?_, trivial, protocol.sound, protocol.audience, reported⟩
  rw [Function.update_self]
  obtain nothing | greeted := hosts
  · exact ⟨state.heard observer, _, rfl, rfl, .inl nothing⟩
  · exact ⟨state.heard observer, _, rfl, rfl, .inr ⟨[], greeted⟩⟩

/-- A close takes the observers away, and nobody is being handed a message. -/
theorem Protocol.take_owner {reason : String} (protocol : state.Protocol)
    (stage : state.owner = .shutting reason) (undisturbed : state.reader.audience = []) :
    { state with observers := [], owner := .telling reason state.observers }.Protocol := by
  have audit := protocol.audit
  rw [stage] at audit
  refine ⟨audit.perm ?_, trivial, protocol.sound, ?_, fun _ => .inl rfl⟩
  · show (state.observers ++ (state.reader.taken ++ [])).Perm
      (state.reader.taken ++ state.observers)
    rw [List.append_nil]
    exact List.perm_append_comm
  · intro observer member
    rw [undisturbed] at member
    exact absurd member List.not_mem_nil

theorem Protocol.tell_owner {reason : String} {observer : Nat} {remaining : List Nat}
    (protocol : state.Protocol) (stage : state.owner = .telling reason (observer :: remaining)) :
    { state.deliver observer (.disconnected reason) with
      owner := .telling reason remaining }.Protocol := by
  have audit := protocol.audit
  have reported := protocol.reported
  rw [stage] at audit reported
  refine ⟨@Audit.farewell _ _ _ _ _ (audit.perm ?_) _ rfl, trivial, protocol.sound,
    protocol.audience, reported⟩
  show (state.observers ++ (state.reader.taken ++ observer :: remaining)).Perm
    (observer :: (state.observers ++ (state.reader.taken ++ remaining)))
  rw [← List.append_assoc, ← List.append_assoc]
  exact List.perm_middle

/-- A close does not take the observers away while some of them are being handed a message. -/
def Undisturbed (state : Watched) (move : ObservationMove) : Prop :=
  move.isOwner → state.owner.isShutting → state.reader.audience = []

instance (state : Watched) (move : ObservationMove) : Decidable (state.Undisturbed move) :=
  inferInstanceAs
    (Decidable (move.isOwner → state.owner.isShutting → state.reader.audience = []))

theorem protocol_stepOwner (protocol : state.Protocol) (undisturbed : state.Undisturbed .owner)
    (stepped : state.stepOwner kind = some next) : next.Protocol := by
  unfold stepOwner at stepped
  split at stepped
  · cases stepped
  · next observer stage =>
      obtain rfl := Option.some.inj stepped
      exact protocol.greet stage
  · next observer stage =>
      split_ifs at stepped with isClosed
      · obtain rfl := Option.some.inj stepped
        have hosts := protocol.hosts
        rw [stage] at hosts
        exact protocol.move_on (by rw [stage]; rfl) (by rw [stage]; rfl) (.inr hosts)
          (by rw [stage]; rfl)
      · obtain rfl := Option.some.inj stepped
        exact protocol.enlist stage (Bool.not_eq_true _ ▸ isClosed)
  · next observer stage =>
      obtain rfl := Option.some.inj stepped
      exact protocol.refuse stage _
  · next stage =>
      obtain rfl := Option.some.inj stepped
      exact protocol.move_on (by rw [stage]; rfl) (by rw [stage]; rfl) trivial (by rw [stage]; rfl)
  · next reason stage =>
      obtain rfl := Option.some.inj stepped
      exact protocol.move_on (by rw [stage]; rfl) (by rw [stage]; rfl) trivial (by rw [stage]; rfl)
  · next reason stage =>
      obtain rfl := Option.some.inj stepped
      exact protocol.take_owner stage (undisturbed rfl (by rw [stage]; rfl))
  · next reason observer remaining stage =>
      obtain rfl := Option.some.inj stepped
      exact protocol.tell_owner stage
  · next reason stage =>
      obtain rfl := Option.some.inj stepped
      exact protocol.move_on (by rw [stage]; rfl) (by rw [stage]; rfl) trivial (by rw [stage]; rfl)

theorem protocol_addObserver (protocol : state.Protocol) (stepped : state.addObserver = some next) :
    next.Protocol := by
  unfold addObserver at stepped
  split at stepped
  · next stage =>
      obtain rfl := Option.some.inj stepped
      have audit := protocol.audit
      have reported := protocol.reported
      rw [stage] at audit reported
      have nothing : state.heard state.count = [] := audit.untold _ (Nat.le_refl _)
      split_ifs
      · exact ⟨audit.arrive, .inl nothing, protocol.sound, protocol.audience, reported⟩
      · exact ⟨audit.arrive, nothing, protocol.sound, protocol.audience, reported⟩
  · cases stepped

theorem protocol_closeWithReason {reason : String} (protocol : state.Protocol)
    (stepped : state.closeWithReason reason = some next) : next.Protocol := by
  unfold closeWithReason at stepped
  split at stepped
  · next stage =>
      obtain rfl := Option.some.inj stepped
      have audit := protocol.audit
      rw [stage] at audit
      exact ⟨audit, trivial, protocol.sound, protocol.audience, fun _ => .inr (.inr rfl)⟩
  · cases stepped

theorem protocol_read {received : Received} (protocol : state.Protocol)
    (stepped : state.read kind received = some next) : next.Protocol := by
  unfold read at stepped
  split at stepped
  · next stage =>
      split_ifs at stepped
      obtain rfl := Option.some.inj stepped
      exact protocol.leave (by rw [stage]; rfl) (by rw [stage]; rfl)
  · next stage =>
      split_ifs at stepped
      obtain rfl := Option.some.inj stepped
      exact protocol.read_on (by rw [stage]; rfl) rfl trivial (by rw [stage]; rfl)
  · next stage _ _ =>
      obtain rfl := Option.some.inj stepped
      exact protocol.read_on (by rw [stage]; rfl) rfl trivial (by rw [stage]; rfl)
  · cases stepped

/-- Every step that does not disturb a delivery keeps the protocol. -/
theorem protocol_step {move : ObservationMove} (protocol : state.Protocol)
    (undisturbed : state.Undisturbed move) (stepped : state.step kind move = some next) :
    next.Protocol := by
  cases move with
  | addObserver => exact protocol_addObserver protocol stepped
  | closeWithReason reason => exact protocol_closeWithReason protocol stepped
  | owner => exact protocol_stepOwner protocol undisturbed stepped
  | read received => exact protocol_read protocol stepped
  | reader => exact protocol_stepReader protocol stepped

theorem protocol_of_reaches (reached : (observation kind).Reaches Undisturbed new state) :
    state.Protocol := by
  refine reached.invariant protocol_new ?_
  rintro before after ⟨move, undisturbed, stepped⟩ protocol
  exact protocol_step protocol undisturbed stepped

/-! ## What the observers see -/

/-- The connection has ended: it is closed, no call of the owner is under way, and the reader is
not about to tell of the end. -/
def Ended (state : Watched) : Prop :=
  state.closed = true ∧ state.owner = .idle ∧
    state.reader.isReporting = false ∧ state.reader.taken = []

theorem Protocol.orderly (protocol : state.Protocol) (observer : Nat) :
    Orderly (state.heard observer) := by
  by_cases known : observer < state.count
  · by_cases waiting : observer ∈ state.observers ++ (state.reader.taken ++ state.owner.taken)
    · exact (protocol.audit.greeted observer waiting).2.orderly
    · by_cases isGuest : state.owner.guest = some observer
      · obtain nothing | greeted := protocol.hosts.heard_guest isGuest
        · rw [nothing]
          exact orderly_nil
        · rw [greeted]
          exact Greeted.orderly ⟨[], rfl⟩
      · exact (protocol.audit.told observer known waiting isGuest).orderly
  · rw [protocol.audit.untold observer (Nat.not_lt.mp known)]
    exact orderly_nil

/-- When the connection has ended, nobody waits for the end any more. -/
theorem Protocol.told_of_ended (protocol : state.Protocol) (ended : state.Ended) {observer : Nat}
    (heardOf : .connected ∈ state.heard observer) :
    ∃ event ∈ state.heard observer, event.isTerminal := by
  obtain ⟨closed, isIdle, notReporting, nobodyTaken⟩ := ended
  have known : observer < state.count := by
    by_contra unknown
    rw [protocol.audit.untold observer (Nat.not_lt.mp unknown)] at heardOf
    exact List.not_mem_nil heardOf
  have nobody : state.observers = [] := by
    obtain nobody | reader | owner := protocol.reported closed
    · exact nobody
    · rw [notReporting] at reader
      cases reader
    · rw [isIdle] at owner
      cases owner
  have audit := protocol.audit
  rw [nobody, nobodyTaken, isIdle] at audit
  obtain ⟨earlier, last, heard, isTerminal, -⟩ :=
    audit.told observer known List.not_mem_nil (fun isGuest => by cases isGuest)
  refine ⟨last, ?_, isTerminal⟩
  rw [heard]
  exact List.mem_append_right _ (List.mem_singleton_self last)

end Watched

/-- **In every run in which no close takes the observers away while the reader is handing them a
message, each observer hears of the connection first and at most once, of the end last and at most
once, and of the end if it has heard of the connection and the connection has ended.** -/
theorem observers_follow_protocol (kind : TransportKind) {state : Watched}
    (reached : (observation kind).Reaches Watched.Undisturbed .new state) (observer : Nat) :
    Orderly (state.heard observer) ∧
      (.connected ∈ state.heard observer → state.Ended →
        ∃ event ∈ state.heard observer, event.isTerminal) := by
  have protocol := Watched.protocol_of_reaches reached
  exact ⟨protocol.orderly observer, fun heardOf ended => protocol.told_of_ended ended heardOf⟩

/-- An observer is added, a message is read and handed to it, and the connection is closed. -/
def messageThenClose : List ObservationMove :=
  [.addObserver, .owner, .owner, .owner, .reader, .reader, .read (.message [104]), .reader,
    .reader, .reader, .reader, .closeWithReason "bye", .owner, .owner, .owner, .owner]

/-- The same, and the connection is closed before the message is handed over. -/
def closeWithinDelivery : List ObservationMove :=
  [.addObserver, .owner, .owner, .owner, .reader, .reader, .read (.message [104]), .reader,
    .reader, .closeWithReason "bye", .owner, .owner, .owner, .owner, .reader]

theorem observers_follow_protocol_closed :
    ∃ state, (observation .tcp).Reaches Watched.Undisturbed .new state ∧ state.Ended ∧
      state.heard 0 = [.connected, .message [104], .disconnected "bye"] ∧
      Orderly (state.heard 0) ∧ ∃ event ∈ state.heard 0, event.isTerminal := by
  obtain ⟨state, reached, ended, heard⟩ : ∃ state,
      (observation .tcp).Reaches Watched.Undisturbed .new state ∧ state.Ended ∧
        state.heard 0 = [.connected, .message [104], .disconnected "bye"] := by
    refine ⟨_, @System.reaches_of_run _ _ _ _ messageThenClose _ _ rfl ?_, ⟨rfl, rfl, rfl, rfl⟩,
      rfl⟩
    decide
  obtain ⟨orderly, reported⟩ := observers_follow_protocol .tcp reached 0
  refine ⟨state, reached, ended, heard, orderly, reported ?_ ended⟩
  rw [heard]
  exact List.mem_cons_self

/-- **A message that was read before a local close is handed to an observer after it has been told
of the disconnection.** -/
theorem message_after_disconnection :
    ¬∀ kind state observer, (observation kind).Reaches System.always .new state →
      Orderly (state.heard observer) := by
  intro always
  obtain ⟨state, reached, heard⟩ : ∃ state,
      (observation .tcp).Reaches System.always .new state ∧
        state.heard 0 = [.connected, .disconnected "bye", .message [104]] :=
    ⟨_, @System.reaches_of_run _ _ _ _ closeWithinDelivery _ _ rfl (System.permits_always _ _), rfl⟩
  have last := (always .tcp state 0 reached).terminal_last 1 (.disconnected "bye")
  rw [heard] at last
  exact absurd (last rfl rfl) (by decide)

end FlareCore.Transport
