import FlareCore.Foundations.TaskPool
import Mathlib.Data.List.Nodup
import Mathlib.Data.List.Perm.Basic

/-!
# The inbound queue in the browser

In the browser the bytes of a frame are queued by the callback of the socket (`push_wasm_inbound`)
and handled by whichever task drains the queue next: one is spawned for each frame, and
`wait_for_negotiation` drains in its loop.  A drain takes the whole queue and then handles frame
after frame; handling may suspend, and a drain may be dropped while it is suspended.  Every frame
has a guard that counts it as in flight until the guard is dropped.

Each frame is in exactly one place, and the count says how many are still queued or in a drain
(`inbound_accounted`).  Frames are started in the order in which they came as long as no drain
takes the queue while another still has frames that it has not started (`started_in_order`).
-/

namespace FlareCore.Client

open FlareCore.Foundations

set_option autoImplicit false

/-- A frame with the state of the negotiation when it was pushed.  The number tells apart pushes of
the same bytes. -/
structure WasmInboundFrame where
  number : Nat
  data : List UInt8
  negotiated : Bool
  deriving DecidableEq, Repr

def maxWasmInboundQueue : Nat := 512

/-- What the drains share.  The other fields are history: the frames pushed, those whose handling
has begun, and those whose guard was dropped because they were handled, because the queue was full,
or because their drain was dropped. -/
structure Inbound where
  wasmInbound : List WasmInboundFrame
  inboundInFlight : Nat
  negotiationCompleted : Bool
  pushed : List WasmInboundFrame
  started : List WasmInboundFrame
  finished : List WasmInboundFrame
  displaced : List WasmInboundFrame
  cancelled : List WasmInboundFrame

namespace Inbound

def new : Inbound := ⟨[], 0, false, [], [], [], [], []⟩

variable (memory : Inbound)

/-- `fetch_add`, with the guard that is returned. -/
def inboundFrameRead : Inbound :=
  { memory with inboundInFlight := memory.inboundInFlight + 1 }

/-- The guard is dropped: `checked_sub`, so zero stays zero. -/
def frameDone : Inbound :=
  { memory with inboundInFlight := memory.inboundInFlight - 1 }

/-- The oldest frame makes room in a queue that is full. -/
def makeRoom : Inbound :=
  match memory.wasmInbound with
  | oldest :: rest =>
      if maxWasmInboundQueue ≤ memory.wasmInbound.length then
        { memory.frameDone with wasmInbound := rest, displaced := memory.displaced ++ [oldest] }
      else memory
  | [] => memory

def enqueue (frame : WasmInboundFrame) : Inbound :=
  { memory with
    wasmInbound := memory.wasmInbound ++ [frame]
    pushed := memory.pushed ++ [frame] }

/-- The flag is read before the frame is counted. -/
def pushWasmInbound (data : List UInt8) : Inbound :=
  memory.inboundFrameRead.makeRoom.enqueue
    ⟨memory.pushed.length, data, memory.negotiationCompleted⟩

def start (frame : WasmInboundFrame) : Inbound :=
  { memory with started := memory.started ++ [frame] }

def finish (frame : WasmInboundFrame) : Inbound :=
  { memory.frameDone with finished := memory.finished ++ [frame] }

def cancel (frame : WasmInboundFrame) : Inbound :=
  { memory.frameDone with cancelled := memory.cancelled ++ [frame] }

end Inbound

/-- A call of `drain_wasm_inbound`: not polled yet, in `handle_received_message` for a frame of
its batch, or done. -/
inductive Drain where
  | new
  | handling (frame : WasmInboundFrame) (rest : List WasmInboundFrame)
  | done
  deriving DecidableEq, Repr

namespace Drain

/-- The frames of the batch whose guards it has. -/
def held : Drain → List WasmInboundFrame
  | handling frame rest => frame :: rest
  | new | done => []

/-- The frames that it has not started. -/
def pending (drain : Drain) : List WasmInboundFrame :=
  drain.held.tail

/-- The next frame of the batch, if there is one. -/
def next (memory : Inbound) : List WasmInboundFrame → Inbound × Drain
  | frame :: rest => (memory.start frame, handling frame rest)
  | [] => (memory, done)

end Drain

/-- What happens to a drain: it gets to its next suspension, or it is dropped. -/
inductive DrainChoice where
  | proceed
  | dropped
  deriving DecidableEq, Repr

namespace Drain

def advance (memory : Inbound) : Drain → DrainChoice → Option (Inbound × Drain)
  | new, .proceed => some (next { memory with wasmInbound := [] } memory.wasmInbound)
  | new, .dropped => some (memory, done)
  | handling frame rest, .proceed => some (next (memory.finish frame) rest)
  | handling frame rest, .dropped => some ((frame :: rest).foldl Inbound.cancel memory, done)
  | done, _ => none

end Drain

/-- What happens next to the queue otherwise. -/
inductive InboundEvent where
  | push (data : List UInt8)
  | negotiation (completed : Bool)
  deriving DecidableEq, Repr

def Inbound.apply (memory : Inbound) : InboundEvent → Inbound
  | .push data => memory.pushWasmInbound data
  | .negotiation completed => { memory with negotiationCompleted := completed }

/-- The queue and its drains. -/
def wasmInboundQueue : Machine Inbound Unit Drain DrainChoice InboundEvent where
  start _ _ := .new
  advance memory _ drain choice := drain.advance memory choice
  environment := Inbound.apply

/-! ## What the functions do -/

/-- A frame is pushed into a queue with room, or into one that is full. -/
theorem Inbound.pushWasmInbound_cases (memory : Inbound) (data : List UInt8) :
    (memory.wasmInbound.length < maxWasmInboundQueue ∧
      memory.pushWasmInbound data = { memory with
        inboundInFlight := memory.inboundInFlight + 1
        wasmInbound := memory.wasmInbound ++
          [⟨memory.pushed.length, data, memory.negotiationCompleted⟩]
        pushed := memory.pushed ++ [⟨memory.pushed.length, data, memory.negotiationCompleted⟩] }) ∨
    ∃ oldest rest, memory.wasmInbound = oldest :: rest ∧
      maxWasmInboundQueue ≤ memory.wasmInbound.length ∧
      memory.pushWasmInbound data = { memory with
        wasmInbound := rest ++ [⟨memory.pushed.length, data, memory.negotiationCompleted⟩]
        displaced := memory.displaced ++ [oldest]
        pushed := memory.pushed ++
          [⟨memory.pushed.length, data, memory.negotiationCompleted⟩] } := by
  cases queued : memory.wasmInbound with
  | nil =>
      refine Or.inl ⟨by simp [maxWasmInboundQueue], ?_⟩
      simp [pushWasmInbound, makeRoom, inboundFrameRead, enqueue, queued]
  | cons oldest rest =>
      by_cases full : maxWasmInboundQueue ≤ (oldest :: rest).length
      · refine Or.inr ⟨oldest, rest, rfl, full, ?_⟩
        simp only [pushWasmInbound, makeRoom, inboundFrameRead, queued, if_pos full]
        simp [enqueue, frameDone]
      · refine Or.inl ⟨Nat.lt_of_not_le full, ?_⟩
        simp only [pushWasmInbound, makeRoom, inboundFrameRead, queued, if_neg full]
        simp [enqueue]

/-- A drain that is dropped drops the guards of what it has left. -/
theorem Inbound.foldl_cancel (memory : Inbound) (frames : List WasmInboundFrame) :
    frames.foldl cancel memory = { memory with
      inboundInFlight := memory.inboundInFlight - frames.length
      cancelled := memory.cancelled ++ frames } := by
  induction frames generalizing memory with
  | nil => simp
  | cons frame frames inductionHypothesis =>
      rw [List.foldl_cons, inductionHypothesis]
      simp [cancel, frameDone, Nat.sub_sub, Nat.add_comm]

namespace Drain

variable (memory : Inbound) (frames : List WasmInboundFrame)

theorem next_memory :
    (next memory frames).1 = { memory with started := memory.started ++ frames.take 1 } := by
  cases frames <;> simp [next, Inbound.start]

theorem next_held : (next memory frames).2.held = frames := by
  cases frames <;> rfl

/-- What a drain does when it moves: it takes the queue, is dropped before it does, goes on to the
next frame of its batch, or drops the rest of it. -/
theorem advance_cases {memory after : Inbound} {drain drain' : Drain} {choice : DrainChoice}
    (moved : drain.advance memory choice = some (after, drain')) :
    (drain.held = [] ∧ drain'.held = memory.wasmInbound ∧ (drain = new ∧ choice = .proceed) ∧
      after = { memory with
        wasmInbound := []
        started := memory.started ++ memory.wasmInbound.take 1 }) ∨
    (drain.held = [] ∧ drain'.held = [] ∧ after = memory) ∨
    (∃ frame rest, drain.held = frame :: rest ∧ drain'.held = rest ∧
      after = { memory with
        inboundInFlight := memory.inboundInFlight - 1
        started := memory.started ++ rest.take 1
        finished := memory.finished ++ [frame] }) ∨
    (∃ frame rest, drain.held = frame :: rest ∧ drain'.held = [] ∧
      after = { memory with
        inboundInFlight := memory.inboundInFlight - (rest.length + 1)
        cancelled := memory.cancelled ++ frame :: rest }) := by
  cases drain with
  | new =>
      cases choice with
      | proceed =>
          obtain ⟨rfl, rfl⟩ := Prod.mk.inj (Option.some.inj moved)
          exact Or.inl ⟨rfl, next_held _ _, ⟨rfl, rfl⟩, next_memory _ _⟩
      | dropped =>
          obtain ⟨rfl, rfl⟩ := Prod.mk.inj (Option.some.inj moved)
          exact Or.inr (Or.inl ⟨rfl, rfl, rfl⟩)
  | handling frame rest =>
      cases choice with
      | proceed =>
          obtain ⟨rfl, rfl⟩ := Prod.mk.inj (Option.some.inj moved)
          exact Or.inr (Or.inr (Or.inl ⟨frame, rest, rfl, next_held _ _, next_memory _ _⟩))
      | dropped =>
          obtain ⟨rfl, rfl⟩ := Prod.mk.inj (Option.some.inj moved)
          exact Or.inr (Or.inr (Or.inr ⟨frame, rest, rfl, rfl, Inbound.foldl_cancel _ _⟩))
  | done => cases moved

end Drain

/-! ## Every frame is somewhere -/

/-- The frames that drains have taken and not done with. -/
def heldFrames (drains : List Drain) : List WasmInboundFrame :=
  drains.flatMap Drain.held

@[simp]
theorem heldFrames_append_cons (earlier later : List Drain) (drain : Drain) :
    heldFrames (earlier ++ drain :: later) =
      heldFrames earlier ++ (drain.held ++ heldFrames later) := by
  simp [heldFrames]

/-- Where the frames are, and what is counted. -/
structure Accounted (pool : Pool Inbound Drain) : Prop where
  bounded : pool.memory.wasmInbound.length ≤ maxWasmInboundQueue
  inFlight : pool.memory.inboundInFlight =
    (heldFrames pool.tasks).length + pool.memory.wasmInbound.length
  newest : pool.memory.wasmInbound <:+ pool.memory.pushed
  partition : pool.memory.pushed.Perm (pool.memory.finished ++ pool.memory.displaced ++
    pool.memory.cancelled ++ heldFrames pool.tasks ++ pool.memory.wasmInbound)
  numbered : pool.memory.pushed.map WasmInboundFrame.number = List.range pool.memory.pushed.length

theorem accounted_new : Accounted ⟨.new, []⟩ where
  bounded := Nat.zero_le _
  inFlight := rfl
  newest := List.suffix_rfl
  partition := .refl _
  numbered := rfl

/-- A push keeps the account. -/
theorem Accounted.push {memory : Inbound} {drains : List Drain}
    (accounted : Accounted ⟨memory, drains⟩) (data : List UInt8) :
    Accounted ⟨memory.pushWasmInbound data, drains⟩ := by
  obtain ⟨bounded, inFlight, newest, partition, numbered⟩ := accounted
  simp only at bounded inFlight newest partition numbered
  have renumbered : ∀ frame : WasmInboundFrame, frame.number = memory.pushed.length →
      (memory.pushed ++ [frame]).map WasmInboundFrame.number =
        List.range (memory.pushed ++ [frame]).length := by
    intro frame isNext
    rw [List.map_append, numbered, List.length_append, List.length_singleton, List.range_succ,
      List.map_singleton, isNext]
  rcases memory.pushWasmInbound_cases data with
    ⟨room, pushed⟩ | ⟨oldest, rest, queued, full, pushed⟩
  · rw [pushed]
    constructor
    · rw [List.length_append, List.length_singleton]
      exact room
    · simp only [List.length_append, List.length_singleton, inFlight]
      omega
    · exact List.suffix_append_self_iff.mpr newest
    · rw [← List.append_assoc]
      exact partition.append_right _
    · exact renumbered _ rfl
  · rw [queued] at bounded inFlight newest partition
    rw [pushed]
    constructor
    · simpa using bounded
    · simpa using inFlight
    · exact List.suffix_append_self_iff.mpr ((List.suffix_cons oldest rest).trans newest)
    · rw [List.perm_iff_count] at partition ⊢
      intro frame
      have counted := partition frame
      simp only [List.count_append, List.count_cons, List.count_nil] at counted ⊢
      omega
    · exact renumbered _ rfl

/-- A move of a drain keeps the account. -/
theorem Accounted.advance {memory after : Inbound} {earlier later : List Drain}
    {drain drain' : Drain} {choice : DrainChoice}
    (accounted : Accounted ⟨memory, earlier ++ drain :: later⟩)
    (moved : drain.advance memory choice = some (after, drain')) :
    Accounted ⟨after, earlier ++ drain' :: later⟩ := by
  obtain ⟨bounded, inFlight, newest, partition, numbered⟩ := accounted
  simp only at bounded inFlight newest partition numbered
  rw [List.perm_iff_count] at partition
  rcases Drain.advance_cases moved with ⟨had, held, _, rfl⟩ | ⟨had, held, rfl⟩ |
    ⟨frame, rest, had, held, rfl⟩ | ⟨frame, rest, had, held, rfl⟩
  all_goals
    constructor
    · first | exact bounded | exact Nat.zero_le _
    · simp only [heldFrames_append_cons, had, held, List.length_append, List.length_cons,
        List.length_nil] at inFlight ⊢
      omega
    · first | exact newest | exact List.nil_suffix
    · rw [List.perm_iff_count]
      intro other
      have counted := partition other
      simp only [heldFrames_append_cons, had, held, List.count_append, List.count_cons,
        List.count_nil] at counted ⊢
      omega
    · exact numbered

/-- **Every frame is somewhere**: the queue holds at most its bound, and what is queued is what was
pushed last; each push is in exactly one place; and the frames in flight are those queued or in a
drain. -/
theorem inbound_accounted {pool : Pool Inbound Drain}
    (reached : wasmInboundQueue.Reaches System.always ⟨.new, []⟩ pool) :
    pool.memory.wasmInbound.length ≤ maxWasmInboundQueue ∧
      pool.memory.wasmInbound <:+ pool.memory.pushed ∧
      pool.memory.pushed.Nodup ∧
      pool.memory.pushed.Perm (pool.memory.finished ++ pool.memory.displaced ++
        pool.memory.cancelled ++ heldFrames pool.tasks ++ pool.memory.wasmInbound) ∧
      pool.memory.inboundInFlight =
        (heldFrames pool.tasks).length + pool.memory.wasmInbound.length := by
  have accounted : Accounted pool := by
    apply reached.invariant accounted_new
    intro before after step accounted
    apply Machine.step_preserves (I := Accounted) _ _ _ step accounted
    · rintro memory drains ⟨⟩ _ ⟨bounded, inFlight, newest, partition, numbered⟩
      have unchanged : heldFrames (drains ++ [Drain.new]) = heldFrames drains := by
        simp [Drain.held, heldFrames]
      exact ⟨bounded, unchanged ▸ inFlight, newest, unchanged ▸ partition, numbered⟩
    · intro memory earlier drain later choice memory' drain' _ accounted moved
      exact accounted.advance moved
    · rintro memory drains (data | completed) _ accounted
      · exact accounted.push data
      · obtain ⟨bounded, inFlight, newest, partition, numbered⟩ := accounted
        exact ⟨bounded, inFlight, newest, partition, numbered⟩
  refine ⟨accounted.bounded, accounted.newest, ?_, accounted.partition, accounted.inFlight⟩
  apply List.Nodup.of_map WasmInboundFrame.number
  rw [accounted.numbered]
  exact List.nodup_range

/-- One frame is handled, and a drain with another is dropped. -/
theorem dropped_drain_accounted :
    ∃ pool : Pool Inbound Drain,
      (pool.memory.inboundInFlight = 0 ∧ pool.memory.cancelled.length = 1) ∧
      pool.memory.wasmInbound.length ≤ maxWasmInboundQueue ∧
      pool.memory.wasmInbound <:+ pool.memory.pushed ∧
      pool.memory.pushed.Nodup ∧
      pool.memory.pushed.Perm (pool.memory.finished ++ pool.memory.displaced ++
        pool.memory.cancelled ++ heldFrames pool.tasks ++ pool.memory.wasmInbound) ∧
      pool.memory.inboundInFlight =
        (heldFrames pool.tasks).length + pool.memory.wasmInbound.length := by
  have ran : (wasmInboundQueue.run ⟨.new, []⟩
      [.environment (.push [1]), .environment (.push [2]), .call (), .advance 0 .proceed,
        .advance 0 .proceed, .advance 0 .dropped]).any (fun pool => decide
          (pool.memory.inboundInFlight = 0 ∧ pool.memory.cancelled.length = 1)) = true := by decide
  obtain ⟨pool, reached, found⟩ := System.exists_reaches_of_run ran (System.permits_always _ _)
  exact ⟨pool, of_decide_eq_true found, inbound_accounted reached⟩

/-! ## Order -/

/-- The frames that drains have taken and not started. -/
def pendingFrames (drains : List Drain) : List WasmInboundFrame :=
  drains.flatMap Drain.pending

@[simp]
theorem pendingFrames_append_cons (earlier later : List Drain) (drain : Drain) :
    pendingFrames (earlier ++ drain :: later) =
      pendingFrames earlier ++ (drain.pending ++ pendingFrames later) := by
  simp [pendingFrames]

/-- A drain takes the queue only when no drain has frames that it has not started. -/
def TakesAlone (pool : Pool Inbound Drain) : Move Unit DrainChoice InboundEvent → Prop
  | .advance index .proceed =>
      pool.tasks[index]? = some .new → pendingFrames pool.tasks = []
  | .advance _ .dropped | .call _ | .environment _ => True

instance (pool : Pool Inbound Drain) : DecidablePred (TakesAlone pool)
  | .advance _ .proceed => inferInstanceAs (Decidable (_ → _))
  | .advance _ .dropped | .call _ | .environment _ => isTrue trivial

/-- What has been started, is waiting in a drain, and is queued, are frames in the order of their
pushes; and only one drain has frames that wait. -/
structure InOrder (pool : Pool Inbound Drain) : Prop where
  sublist : (pool.memory.started ++ pendingFrames pool.tasks ++ pool.memory.wasmInbound).Sublist
    pool.memory.pushed
  single : pool.tasks.Pairwise fun first second => first.pending = [] ∨ second.pending = []

/-- A drain is the only one with frames that wait, if it has any. -/
theorem InOrder.alone {memory : Inbound} {earlier later : List Drain} {drain : Drain}
    (ordered : InOrder ⟨memory, earlier ++ drain :: later⟩) (waits : drain.pending ≠ []) :
    pendingFrames earlier = [] ∧ pendingFrames later = [] := by
  obtain ⟨_, before, after⟩ := List.pairwise_append.mp ordered.single
  have behind := (List.pairwise_cons.mp before).1
  constructor
  · apply List.flatMap_eq_nil_iff.mpr
    intro other member
    exact (after other member drain List.mem_cons_self).resolve_right waits
  · apply List.flatMap_eq_nil_iff.mpr
    intro other member
    exact (behind other member).resolve_left waits

theorem single_of_pending {earlier later : List Drain} {drain drain' : Drain}
    (single : (earlier ++ drain :: later).Pairwise
      fun first second => first.pending = [] ∨ second.pending = [])
    (fewer : drain.pending = [] → drain'.pending = []) :
    (earlier ++ drain' :: later).Pairwise
      fun first second => first.pending = [] ∨ second.pending = [] := by
  rw [List.pairwise_append, List.pairwise_cons] at single ⊢
  obtain ⟨before, ⟨behind, after⟩, across⟩ := single
  refine ⟨before, ⟨fun other member => (behind other member).imp_left fewer, after⟩, ?_⟩
  intro other member next nextMember
  rcases List.mem_cons.mp nextMember with rfl | further
  · exact (across other member drain List.mem_cons_self).imp_right fewer
  · exact across other member next (List.mem_cons_of_mem _ further)

/-- A move of a drain keeps the order. -/
theorem InOrder.advance {memory after : Inbound} {earlier later : List Drain}
    {drain drain' : Drain} {choice : DrainChoice}
    (ordered : InOrder ⟨memory, earlier ++ drain :: later⟩)
    (alone : TakesAlone ⟨memory, earlier ++ drain :: later⟩ (.advance earlier.length choice))
    (moved : drain.advance memory choice = some (after, drain')) :
    InOrder ⟨after, earlier ++ drain' :: later⟩ := by
  have sublist := ordered.sublist
  have single := ordered.single
  simp only [pendingFrames_append_cons] at sublist
  rcases Drain.advance_cases moved with ⟨had, held, ⟨rfl, rfl⟩, rfl⟩ | ⟨had, held, rfl⟩ |
    ⟨frame, rest, had, held, rfl⟩ | ⟨frame, rest, had, held, rfl⟩
  · -- The queue is taken, and nothing else waits.
    have nothing := alone (getElem?_append_cons_self earlier later .new)
    simp only [pendingFrames_append_cons, List.append_eq_nil_iff] at nothing
    obtain ⟨none, _, noneLater⟩ := nothing
    constructor
    · simp only [pendingFrames_append_cons, Drain.pending, had, held, none, noneLater,
        List.nil_append, List.append_nil, List.tail_nil, List.append_assoc] at sublist ⊢
      rwa [← List.drop_one, List.take_append_drop]
    · simp only [List.pairwise_append, List.pairwise_cons] at single ⊢
      obtain ⟨before, ⟨_, after⟩, _⟩ := single
      have noneEarlier := List.flatMap_eq_nil_iff.mp none
      refine ⟨before, ⟨fun other member => ?_, after⟩, fun other member _ _ => ?_⟩
      · exact Or.inr (List.flatMap_eq_nil_iff.mp noneLater other member)
      · exact Or.inl (noneEarlier other member)
  · have wait : drain.pending = [] := by rw [Drain.pending, had, List.tail_nil]
    have none : drain'.pending = [] := by rw [Drain.pending, held, List.tail_nil]
    constructor
    · simpa [none, wait] using sublist
    · exact single_of_pending single fun _ => none
  · -- The next frame of the batch is started.
    have waits : drain.pending = rest := by rw [Drain.pending, had, List.tail_cons]
    have waits' : drain'.pending = rest.tail := by rw [Drain.pending, held]
    constructor
    · cases rest with
      | nil => simpa [waits, waits'] using sublist
      | cons next rest =>
          obtain ⟨noneEarlier, noneLater⟩ := ordered.alone (by simp [waits])
          simpa [waits, waits', noneEarlier, noneLater] using sublist
    · apply single_of_pending single
      rw [waits, waits']
      rintro rfl
      rfl
  · have none : drain'.pending = [] := by rw [Drain.pending, held, List.tail_nil]
    constructor
    · refine List.Sublist.trans ?_ sublist
      simp only [pendingFrames_append_cons, none]
      gcongr
      exact List.nil_sublist _
    · exact single_of_pending single fun _ => none

/-- A push keeps the order. -/
theorem InOrder.push {memory : Inbound} {drains : List Drain} (ordered : InOrder ⟨memory, drains⟩)
    (data : List UInt8) : InOrder ⟨memory.pushWasmInbound data, drains⟩ := by
  have sublist := ordered.sublist
  simp only at sublist
  refine ⟨?_, ordered.single⟩
  rcases memory.pushWasmInbound_cases data with ⟨_, pushed⟩ | ⟨oldest, rest, queued, _, pushed⟩
  · rw [pushed]
    simp only [← List.append_assoc]
    exact sublist.append_right _
  · rw [queued] at sublist
    rw [pushed]
    simp only [← List.append_assoc]
    apply List.Sublist.append_right
    exact ((List.sublist_cons_self oldest rest).append_left _).trans sublist

/-- **Frames are started in the order of their pushes** while a drain takes the queue only when
nothing waits in another. -/
theorem started_in_order {pool : Pool Inbound Drain}
    (reached : wasmInboundQueue.Reaches TakesAlone ⟨.new, []⟩ pool) :
    pool.memory.started.Sublist pool.memory.pushed := by
  have ordered : InOrder pool := by
    apply reached.invariant (I := InOrder) ⟨List.Sublist.refl _, List.Pairwise.nil⟩
    intro before after step ordered
    apply Machine.step_preserves (I := InOrder) _ _ _ step ordered
    · rintro memory drains ⟨⟩ _ ⟨sublist, single⟩
      constructor
      · simpa [pendingFrames, Drain.pending, Drain.held, wasmInboundQueue] using sublist
      · refine List.pairwise_append.mpr ⟨single, List.pairwise_singleton _ _, ?_⟩
        intro other _ created member
        exact Or.inr (by rw [List.mem_singleton.mp member]; rfl)
    · intro memory earlier drain later choice memory' drain' alone ordered moved
      exact ordered.advance alone moved
    · rintro memory drains (data | completed) _ ordered
      · exact ordered.push data
      · exact ⟨ordered.sublist, ordered.single⟩
  refine List.Sublist.trans ?_ ordered.sublist
  rw [List.append_assoc]
  exact List.sublist_append_left _ _

/-- A drain takes two frames, and a third is pushed while the first is being handled. -/
def twoDrains : List (Move Unit DrainChoice InboundEvent) :=
  [.environment (.push [1]), .environment (.push [2]), .call (), .advance 0 .proceed,
    .environment (.push [3]), .call ()]

/-- Here the second drain takes the queue before the first has started what it has. -/
example : (wasmInboundQueue.run ⟨.new, []⟩
    (twoDrains ++ [.advance 1 .proceed, .advance 0 .proceed])).map
      (fun pool => pool.memory.started.map WasmInboundFrame.number) = some [0, 2, 1] := by decide

/-- Here it waits until the first has. -/
theorem two_drains_in_order :
    ∃ pool : Pool Inbound Drain, (pool.memory.started.map WasmInboundFrame.number = [0, 1, 2]) ∧
      pool.memory.started.Sublist pool.memory.pushed := by
  have ran : (wasmInboundQueue.run ⟨.new, []⟩
      (twoDrains ++ [.advance 0 .proceed, .advance 1 .proceed])).any (fun pool =>
        decide (pool.memory.started.map WasmInboundFrame.number = [0, 1, 2])) = true := by decide
  have permitted : wasmInboundQueue.Permits TakesAlone ⟨.new, []⟩
      (twoDrains ++ [.advance 0 .proceed, .advance 1 .proceed]) := by decide
  obtain ⟨pool, reached, numbers⟩ := System.exists_reaches_of_run ran permitted
  exact ⟨pool, of_decide_eq_true numbers, started_in_order reached⟩

end FlareCore.Client
