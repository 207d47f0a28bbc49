import FlareCore.Foundations.HandedLock
import Mathlib.Data.List.Nodup
import Mathlib.Logic.Function.Basic

/-!
# The invoke slot of the browser driver

In the browser, calls of `run_async` take turns: `acquire_invoke_slot` sets INVOKE_BUSY or leaves a
sender in INVOKE_WAITERS and polls the receiver, and the guard that a call drops at its end runs
`release_invoke_slot`, which passes the slot to the sender pushed last.  Everything is on one
thread, so a poll of a call is one step; a call may be dropped between two polls, at any stage.

The slot is a lock that is handed over (`slotTracked`): never two calls have it, and it is lost
exactly if it is passed to a call that has been dropped, or the call it was passed to is dropped
before its next poll (`slot_of_run`).  A slot that is lost stops every later call.  Otherwise no
call is stuck, but the calls are served last in, first out (`waiting_served_and_overtaken`).
-/

namespace FlareCore.Client

open FlareCore.Foundations

set_option autoImplicit false

/-- Where a call of `run_async` stands: not polled yet, in the loop on its receiver, the same with
a value in the channel, with the guard `ReleaseInvokeSlot`, done, or dropped before its end. -/
inductive Invoke where
  | idle
  | waiting
  | granted
  | running
  | finished
  | dropped
  deriving DecidableEq, Repr

/-- The thread-local variables of the driver, and the calls.  A sender is named by the call that
has its receiver; the one pushed last comes first. -/
structure Driver where
  invokeBusy : Bool
  invokeWaiters : List Nat
  calls : Nat → Invoke

/-- What `try_recv` finds. -/
inductive Received where
  | value
  | empty
  | canceled
  deriving DecidableEq, Repr

namespace Driver

def new : Driver where
  invokeBusy := false
  invokeWaiters := []
  calls := fun _ => .idle

variable (driver : Driver)

def set (call : Nat) (stage : Invoke) : Driver :=
  { driver with calls := Function.update driver.calls call stage }

/-- The first round of the loop, with the guard that is made when it returns at once. -/
def acquireInvokeSlot (call : Nat) : Driver :=
  if driver.invokeBusy then
    { driver with invokeWaiters := call :: driver.invokeWaiters }.set call .waiting
  else
    { driver with invokeBusy := true }.set call .running

/-- A sender is dropped without a value only if it is no longer among the waiters. -/
def tryRecv (call : Nat) : Received :=
  if driver.calls call = .granted then .value
  else if call ∈ driver.invokeWaiters then .empty
  else .canceled

/-- A later round: a cancelled receiver ends the loop as a value does. -/
def awaitInvokeSlot (call : Nat) : Driver :=
  match driver.tryRecv call with
  | .value | .canceled => driver.set call .running
  | .empty => driver

/-- `tx.send(())`, whose failure is ignored: the receiver of a call that was dropped is gone. -/
def send (call : Nat) : Driver :=
  if driver.calls call = .waiting then driver.set call .granted else driver

def releaseInvokeSlot : Driver :=
  match driver.invokeWaiters with
  | next :: rest => { driver with invokeWaiters := rest }.send next
  | [] => { driver with invokeBusy := false }

end Driver

/-- What may happen next to a call. -/
inductive InvokeMove where
  | poll (call : Nat)
  /-- The poll in which the future of a running call ends. -/
  | finish (call : Nat)
  | drop (call : Nat)
  deriving DecidableEq, Repr

namespace Driver

def step (driver : Driver) : InvokeMove → Option Driver
  | .poll call =>
      match driver.calls call with
      | .idle => some (driver.acquireInvokeSlot call)
      | .waiting | .granted => some (driver.awaitInvokeSlot call)
      | .running => some driver
      | .finished | .dropped => none
  | .finish call =>
      if driver.calls call = .running then some (driver.set call .finished).releaseInvokeSlot
      else none
  | .drop call =>
      match driver.calls call with
      | .idle | .waiting | .granted => some (driver.set call .dropped)
      | .running => some (driver.set call .dropped).releaseInvokeSlot
      | .finished | .dropped => none

end Driver

def invokes : System Driver InvokeMove := ⟨Driver.step⟩

namespace Driver

/-- The call has the slot: it runs, or its next poll lets it run. -/
def Holds (driver : Driver) (call : Nat) : Prop :=
  driver.calls call = .granted ∨ driver.calls call = .running

instance (driver : Driver) : DecidablePred driver.Holds :=
  fun _ => inferInstanceAs (Decidable (_ ∨ _))

/-- Nobody takes what is passed on next: the call that waits on top has been dropped. -/
def Abandoned (driver : Driver) : Prop :=
  ∃ next ∈ driver.invokeWaiters.head?, driver.calls next = .dropped

instance (driver : Driver) : Decidable driver.Abandoned :=
  inferInstanceAs (Decidable (∃ next ∈ driver.invokeWaiters.head?, driver.calls next = .dropped))

/-- The slot is passed to nobody, or dropped together with the call that it was passed to. -/
def Loses (driver : Driver) : InvokeMove → Prop
  | .poll _ => False
  | .finish _ => driver.Abandoned
  | .drop call =>
      driver.calls call = .granted ∨ driver.calls call = .running ∧ driver.Abandoned

instance (driver : Driver) : DecidablePred driver.Loses
  | .poll _ => isFalse not_false
  | .finish _ => inferInstanceAs (Decidable driver.Abandoned)
  | .drop _ => inferInstanceAs (Decidable (_ ∨ _ ∧ _))

/-- Who has the slot, and who waits for it. -/
structure Shows (driver : Driver) (slot : HandedLock Nat) : Prop where
  holds : ∀ call, driver.Holds call ↔ slot = .held call
  busy : driver.invokeBusy = true ↔ slot ≠ .free
  distinct : driver.invokeWaiters.Nodup
  queued : ∀ call ∈ driver.invokeWaiters,
    driver.calls call = .waiting ∨ driver.calls call = .dropped
  sender : ∀ call, driver.calls call = .waiting → call ∈ driver.invokeWaiters
  unclaimed : slot = .free → driver.invokeWaiters = []

@[simp]
theorem calls_set (driver : Driver) (call other : Nat) (stage : Invoke) :
    (driver.set call stage).calls other = if other = call then stage else driver.calls other := by
  simp [set, Function.update_apply]

@[simp]
theorem invokeBusy_set (driver : Driver) (call : Nat) (stage : Invoke) :
    (driver.set call stage).invokeBusy = driver.invokeBusy := rfl

@[simp]
theorem invokeWaiters_set (driver : Driver) (call : Nat) (stage : Invoke) :
    (driver.set call stage).invokeWaiters = driver.invokeWaiters := rfl

theorem shows_new : new.Shows .free where
  holds call := by simp [Holds, new]
  busy := by simp [new]
  distinct := List.nodup_nil
  queued _ member := absurd member List.not_mem_nil
  sender _ waits := nomatch waits
  unclaimed _ := rfl

section Steps

variable {driver : Driver} {slot : HandedLock Nat} {call : Nat}

/-- At most one call has the slot. -/
theorem Shows.unique (shown : driver.Shows slot) {first second : Nat}
    (firstHolds : driver.Holds first) (secondHolds : driver.Holds second) : first = second := by
  have same := ((shown.holds first).mp firstHolds).symm.trans ((shown.holds second).mp secondHolds)
  exact HandedLock.held.inj same

/-- The receiver of a call that waits is never cancelled. -/
theorem Shows.tryRecv_waiting (shown : driver.Shows slot) (waits : driver.calls call = .waiting) :
    driver.tryRecv call = .empty := by
  have sent := shown.sender call waits
  simp [tryRecv, waits, sent]

/-- A call that is not among the waiters and leaves them as they are changes only who has the
slot. -/
theorem Shows.set_of_not_mem {next : HandedLock Nat} {stage : Invoke} (shown : driver.Shows slot)
    (absent : call ∉ driver.invokeWaiters) (notWaiting : stage ≠ .waiting)
    (holds : ∀ other, (driver.set call stage).Holds other ↔ next = .held other)
    (stillFree : next = .free ↔ slot = .free) : (driver.set call stage).Shows next where
  holds := holds
  busy := by rw [invokeBusy_set, shown.busy, ne_eq, ne_eq, stillFree]
  distinct := shown.distinct
  queued other member := by
    have different : other ≠ call := fun same => absent (same ▸ member)
    rw [calls_set, if_neg different]
    exact shown.queued other member
  sender other waits := by
    rw [calls_set] at waits
    split at waits
    · exact absurd waits notWaiting
    · exact shown.sender other waits
  unclaimed free := shown.unclaimed (stillFree.mp free)

theorem Shows.not_mem (shown : driver.Shows slot) (notWaiting : driver.calls call ≠ .waiting)
    (notDropped : driver.calls call ≠ .dropped) : call ∉ driver.invokeWaiters := by
  intro member
  rcases shown.queued call member with waits | gone
  · exact notWaiting waits
  · exact notDropped gone

theorem Shows.holds_set_of_same (shown : driver.Shows slot) {stage : Invoke}
    (same : (stage = .granted ∨ stage = .running) ↔ driver.Holds call) (other : Nat) :
    (driver.set call stage).Holds other ↔ slot = .held other := by
  rw [← shown.holds other]
  by_cases this : other = call
  · subst this
    simpa [Holds] using same
  · simp [Holds, this]

/-- The slot is free: the call takes it. -/
theorem Shows.acquire_free (shown : driver.Shows .free) (call : Nat) :
    (driver.acquireInvokeSlot call).Shows (.held call) := by
  have notBusy : driver.invokeBusy = false := by
    simpa using shown.busy
  have noWaiters := shown.unclaimed rfl
  rw [acquireInvokeSlot, notBusy, if_neg Bool.false_ne_true]
  constructor
  · intro other
    have none : ¬ driver.Holds other := by simp [shown.holds other]
    by_cases this : other = call
    · simp [Holds, this]
    · simpa [Holds, this, Ne.symm this] using none
  · simp
  · simp [noWaiters]
  · simp [noWaiters]
  · intro other waits
    rw [calls_set] at waits
    split at waits
    · cases waits
    · exact absurd (shown.sender other waits) (by simp [noWaiters])
  · simp

/-- The slot is taken: the call waits on top of the others. -/
theorem Shows.acquire_busy (shown : driver.Shows slot) (taken : slot ≠ .free)
    (idle : driver.calls call = .idle) : (driver.acquireInvokeSlot call).Shows slot := by
  have isBusy := shown.busy.mpr taken
  have absent : call ∉ driver.invokeWaiters := by
    apply shown.not_mem <;> simp [idle]
  rw [acquireInvokeSlot, if_pos isBusy]
  constructor
  · apply shown.holds_set_of_same
    simp [Holds, idle]
  · exact shown.busy
  · exact List.nodup_cons.mpr ⟨absent, shown.distinct⟩
  · intro other member
    rw [calls_set]
    rcases List.mem_cons.mp member with rfl | earlier
    · simp
    · split
      · exact Or.inl rfl
      · exact shown.queued other earlier
  · intro other waits
    rw [calls_set] at waits
    split at waits
    · next this => exact List.mem_cons.mpr (Or.inl this)
    · exact List.mem_cons_of_mem _ (shown.sender other waits)
  · exact fun free => absurd free taken

/-- A poll of a call that waits changes who has the slot in no case. -/
theorem Shows.await (shown : driver.Shows slot)
    (stage : driver.calls call = .waiting ∨ driver.calls call = .granted) :
    (driver.awaitInvokeSlot call).Shows slot := by
  rcases stage with waits | granted
  · rw [awaitInvokeSlot, shown.tryRecv_waiting waits]
    exact shown
  · have absent : call ∉ driver.invokeWaiters := by
      apply shown.not_mem <;> simp [granted]
    rw [awaitInvokeSlot, tryRecv, if_pos granted]
    apply shown.set_of_not_mem absent (by decide) _ Iff.rfl
    apply shown.holds_set_of_same
    simp [Holds, granted]

/-- The future of a call that does not have the slot is dropped. -/
theorem Shows.drop (shown : driver.Shows slot)
    (stage : driver.calls call = .waiting ∨ driver.calls call = .idle) :
    (driver.set call .dropped).Shows slot where
  holds := by
    apply shown.holds_set_of_same
    rcases stage with waits | idle
    · simp [Holds, waits]
    · simp [Holds, idle]
  busy := shown.busy
  distinct := shown.distinct
  queued other member := by
    rw [calls_set]
    split
    · exact Or.inr rfl
    · exact shown.queued other member
  sender other waits := by
    rw [calls_set] at waits
    split at waits
    · cases waits
    · exact shown.sender other waits
  unclaimed := shown.unclaimed

/-- A call that has the slot is gone, and the slot with it. -/
theorem Shows.gone (shown : driver.Shows (.held call)) {stage : Invoke}
    (ended : stage = .finished ∨ stage = .dropped) : (driver.set call stage).Shows .lost := by
  have has := (shown.holds call).mpr rfl
  have absent : call ∉ driver.invokeWaiters := by
    apply shown.not_mem <;> rcases has with granted | running <;> simp [*]
  apply shown.set_of_not_mem absent
  · rcases ended with rfl | rfl <;> decide
  · intro other
    by_cases this : other = call
    · subst this
      rcases ended with rfl | rfl <;> simp [Holds]
    · have others : ¬ driver.Holds other := by
        rw [shown.holds other, HandedLock.held.injEq]
        exact Ne.symm this
      simpa [Holds, this] using others
  · simp

/-- What is passed on goes to the call on top of the waiters, to nobody if that call has been
dropped, and is free if there is none. -/
theorem Shows.release (shown : driver.Shows .lost) :
    ∃ next, driver.releaseInvokeSlot.Shows next ∧ (∀ caller, HandedLock.Step (.held caller) next) ∧
      (next = .lost ↔ driver.Abandoned) := by
  have none : ∀ other, ¬ driver.Holds other := fun other holds =>
    nomatch (shown.holds other).mp holds
  cases waiters : driver.invokeWaiters with
  | nil =>
      refine ⟨.free, ?_, fun caller => .release caller, by simp [Abandoned, waiters]⟩
      rw [releaseInvokeSlot, waiters]
      constructor
      · exact fun other => iff_of_false (none other) nofun
      · simp
      · exact List.nodup_nil
      · exact fun other member => absurd member List.not_mem_nil
      · intro other waits
        have member := shown.sender other waits
        rw [waiters] at member
        exact absurd member List.not_mem_nil
      · exact fun _ => rfl
  | cons top rest =>
      have distinct := shown.distinct
      rw [waiters, List.nodup_cons] at distinct
      have queued := shown.queued
      rw [waiters] at queued
      rw [releaseInvokeSlot, waiters]
      by_cases waits : driver.calls top = .waiting
      · refine ⟨.held top, ?_, fun caller => .hand caller top, by simp [Abandoned, waiters, waits]⟩
        simp only [send, if_pos waits]
        constructor
        · intro other
          by_cases this : other = top
          · simp [Holds, this]
          · have different : top ≠ other := Ne.symm this
            simpa [Holds, this, different] using none other
        · simpa using shown.busy
        · exact distinct.2
        · intro other member
          have different : other ≠ top := fun same => distinct.1 (same ▸ member)
          rw [calls_set, if_neg different]
          exact queued other (List.mem_cons_of_mem _ member)
        · intro other otherWaits
          rw [calls_set] at otherWaits
          split at otherWaits
          · cases otherWaits
          · next this =>
            have member := shown.sender other otherWaits
            rw [waiters] at member
            exact (List.mem_cons.mp member).resolve_left this
        · exact nofun
      · have gone : driver.calls top = .dropped :=
          (queued top List.mem_cons_self).resolve_left waits
        refine ⟨.lost, ?_, fun caller => .lose caller, by simp [Abandoned, waiters, gone]⟩
        simp only [send, if_neg waits]
        constructor
        · exact shown.holds
        · exact shown.busy
        · exact distinct.2
        · exact fun other member => queued other (List.mem_cons_of_mem _ member)
        · intro other otherWaits
          have member := shown.sender other otherWaits
          rw [waiters] at member
          apply (List.mem_cons.mp member).resolve_left
          rintro rfl
          exact waits otherWaits
        · exact nofun

theorem Shows.abandoned_set (shown : driver.Shows slot) (running : driver.calls call = .running)
    (stage : Invoke) : (driver.set call stage).Abandoned ↔ driver.Abandoned := by
  have absent : call ∉ driver.invokeWaiters := by
    apply shown.not_mem <;> simp [running]
  simp only [Abandoned, invokeWaiters_set, calls_set]
  constructor
  all_goals
    rintro ⟨next, first, gone⟩
    have different : next ≠ call := fun same => absent (same ▸ List.mem_of_mem_head? first)
    refine ⟨next, first, ?_⟩
    simpa [different] using gone

/-- A call that runs ends, or its future is dropped. -/
theorem Shows.end_running (shown : driver.Shows slot) (running : driver.calls call = .running)
    {stage : Invoke} (ended : stage = .finished ∨ stage = .dropped) :
    ∃ next, (driver.set call stage).releaseInvokeSlot.Shows next ∧ HandedLock.Step slot next ∧
      (next = .lost ↔ driver.Abandoned) := by
  obtain rfl : slot = .held call := (shown.holds call).mp (Or.inr running)
  obtain ⟨next, shownNext, step, lost⟩ := (shown.gone ended).release
  exact ⟨next, shownNext, step call, lost.trans (shown.abandoned_set running stage)⟩

end Steps

/-- The slot is a lock that is handed over. -/
theorem slotTracked : HandedLock.Tracks invokes Shows Loses where
  step := by
    intro driver after move slot shown stepped
    change driver.step move = some after at stepped
    cases move with
    | poll call =>
        simp only [step] at stepped
        simp only [Loses, or_false]
        cases stage : driver.calls call with
        | idle =>
            simp only [stage, Option.some.injEq] at stepped
            subst stepped
            by_cases free : slot = .free
            · subst free
              exact ⟨_, shown.acquire_free call, .take call, by simp⟩
            · exact ⟨slot, shown.acquire_busy free stage, .stay slot, Iff.rfl⟩
        | waiting =>
            simp only [stage, Option.some.injEq] at stepped
            subst stepped
            exact ⟨slot, shown.await (Or.inl stage), .stay slot, Iff.rfl⟩
        | granted =>
            simp only [stage, Option.some.injEq] at stepped
            subst stepped
            exact ⟨slot, shown.await (Or.inr stage), .stay slot, Iff.rfl⟩
        | running =>
            simp only [stage, Option.some.injEq] at stepped
            subst stepped
            exact ⟨slot, shown, .stay slot, Iff.rfl⟩
        | finished => simp [stage] at stepped
        | dropped => simp [stage] at stepped
    | finish call =>
        simp only [step] at stepped
        split at stepped
        · next running =>
          obtain rfl := Option.some.inj stepped
          obtain ⟨next, shownNext, taken, lost⟩ := shown.end_running running (Or.inl rfl)
          have held := (shown.holds call).mp (Or.inr running)
          exact ⟨next, shownNext, taken, by simp [lost, held, Loses]⟩
        · cases stepped
    | drop call =>
        simp only [step] at stepped
        cases stage : driver.calls call with
        | idle =>
            simp only [stage, Option.some.injEq] at stepped
            subst stepped
            exact ⟨slot, shown.drop (Or.inr stage), .stay slot, by simp [Loses, stage]⟩
        | waiting =>
            simp only [stage, Option.some.injEq] at stepped
            subst stepped
            exact ⟨slot, shown.drop (Or.inl stage), .stay slot, by simp [Loses, stage]⟩
        | granted =>
            simp only [stage, Option.some.injEq] at stepped
            subst stepped
            obtain rfl := (shown.holds call).mp (Or.inl stage)
            exact ⟨.lost, shown.gone (Or.inr rfl), .lose call, by simp [Loses, stage]⟩
        | running =>
            simp only [stage, Option.some.injEq] at stepped
            subst stepped
            obtain ⟨next, shownNext, taken, lost⟩ := shown.end_running stage (Or.inr rfl)
            have held := (shown.holds call).mp (Or.inr stage)
            exact ⟨next, shownNext, taken, by simp [lost, held, Loses, stage]⟩
        | finished => simp [stage] at stepped
        | dropped => simp [stage] at stepped

/-- The slot is taken and no call has it. -/
def Lost (driver : Driver) : Prop :=
  driver.invokeBusy = true ∧ ∀ call, ¬ driver.Holds call

theorem Shows.lost_iff {driver : Driver} {slot : HandedLock Nat} (shown : driver.Shows slot) :
    driver.Lost ↔ slot = .lost := by
  cases slot with
  | free => simp [Lost, shown.busy]
  | held call =>
      simp only [Lost, shown.holds, HandedLock.held.injEq, reduceCtorEq, iff_false, not_and]
      exact fun _ none => none call rfl
  | lost => simp [Lost, shown.busy, shown.holds]

/-- The release changes the stage of no call but the one that the slot is passed to. -/
theorem calls_release (driver : Driver) (call : Nat) :
    driver.releaseInvokeSlot.calls call = driver.calls call ∨
      driver.calls call = .waiting ∧ driver.releaseInvokeSlot.calls call = .granted := by
  rw [releaseInvokeSlot]
  split
  · next top rest _ =>
    rw [send]
    split
    · next waits =>
      by_cases this : call = top
      · subst this
        exact Or.inr ⟨waits, by simp⟩
      · exact Or.inl (by simp [this])
    · exact Or.inl rfl
  · exact Or.inl rfl

/-- Only a call that runs can end, and only a call whose future is dropped is dropped. -/
theorem ended_of_step {driver after : Driver} {move : InvokeMove} {call : Nat} {stage : Invoke}
    (ended : stage = .finished ∨ stage = .dropped) (stepped : driver.step move = some after)
    (atEnd : after.calls call = stage) :
    driver.calls call = stage ∨ stage = .finished ∧ driver.calls call = .running ∨
      stage = .dropped ∧ move = .drop call := by
  have unchanged : ∀ {before : Driver} {other : Nat} {next : Invoke},
      (before.set other next).calls call = stage →
      before.calls call = stage ∨ stage = next ∧ call = other := by
    intro before other next found
    rw [calls_set] at found
    split at found
    · next same => exact Or.inr ⟨found.symm, same⟩
    · exact Or.inl found
  have kept : ∀ {before : Driver} {other : Nat} {next : Invoke},
      next = .waiting ∨ next = .running → (before.set other next).calls call = stage →
      before.calls call = stage := by
    intro before other next going found
    apply (unchanged found).resolve_right
    rintro ⟨rfl, -⟩
    rcases going with rfl | rfl <;> simp at ended
  have released : ∀ {before : Driver}, before.releaseInvokeSlot.calls call = stage →
      before.calls call = stage := by
    intro before found
    rcases calls_release before call with same | ⟨_, granted⟩
    · exact same ▸ found
    · rw [found] at granted
      subst granted
      simp at ended
  cases move with
  | poll other =>
      refine Or.inl ?_
      simp only [step] at stepped
      split at stepped <;> cases stepped
      · rw [acquireInvokeSlot] at atEnd
        split at atEnd
        · exact kept (Or.inl rfl) atEnd
        · exact kept (Or.inr rfl) atEnd
      all_goals try exact atEnd
      all_goals
        rw [awaitInvokeSlot] at atEnd
        split at atEnd
        · exact kept (Or.inr rfl) atEnd
        · exact kept (Or.inr rfl) atEnd
        · exact atEnd
  | finish other =>
      simp only [step] at stepped
      split at stepped
      · next running =>
        obtain rfl := Option.some.inj stepped
        rcases unchanged (released atEnd) with same | ⟨rfl, rfl⟩
        · exact Or.inl same
        · exact Or.inr (Or.inl ⟨rfl, running⟩)
      · cases stepped
  | drop other =>
      have dropped : (driver.set other .dropped).calls call = stage := by
        simp only [step] at stepped
        split at stepped <;> cases stepped
        all_goals try exact atEnd
        exact released atEnd
      rcases unchanged dropped with same | ⟨rfl, rfl⟩
      · exact Or.inl same
      · exact Or.inr (Or.inr ⟨rfl, rfl⟩)

/-- **The slot in a run**: two calls never have it together; it is lost exactly if it was passed to
a call whose future had been dropped, or dropped with the future of the call it was passed to; and
once it is lost no call ever ends. -/
theorem slot_of_run {moves : List InvokeMove} {driver : Driver}
    (evaluated : invokes.run new moves = some driver) :
    (∀ first second, driver.Holds first → driver.Holds second → first = second) ∧
      (driver.Lost ↔ ¬ invokes.Permits (fun before move => ¬ before.Loses move) new moves) ∧
      (driver.Lost → ∀ later, invokes.Reaches System.always driver later →
        later.Lost ∧ ∀ call, later.calls call = .finished → driver.calls call = .finished) := by
  obtain ⟨slot, shown, _, lost⟩ := slotTracked.run shows_new evaluated
  refine ⟨fun _ _ => shown.unique, ?_, ?_⟩
  · rw [shown.lost_iff, lost]
    simp
  · intro isLost later reached
    rw [shown.lost_iff] at isLost
    subst isLost
    suffices kept : later.Shows .lost ∧ ∀ call, later.calls call = .finished →
        driver.calls call = .finished from ⟨kept.1.lost_iff.mpr rfl, kept.2⟩
    apply reached.invariant (I := fun state => state.Shows .lost ∧
      ∀ call, state.calls call = .finished → driver.calls call = .finished)
    · exact ⟨shown, fun _ => id⟩
    · rintro before after ⟨move, _, stepped⟩ ⟨stillLost, nobody⟩
      obtain ⟨next, shownNext, step, _⟩ := slotTracked.step stillLost stepped
      obtain rfl := step.lost
      refine ⟨shownNext, fun call finished => ?_⟩
      apply nobody
      rcases ended_of_step (Or.inl rfl) stepped finished with same | ⟨_, running⟩ | ⟨other, _⟩
      · exact same
      · exact absurd ((stillLost.holds call).mp (Or.inr running)) nofun
      · cases other

/-- The second call is dropped while it waits, and the slot is passed to it. -/
theorem slot_passed_to_nobody :
    ∃ driver, invokes.run new [.poll 0, .poll 1, .drop 1, .finish 0] = some driver ∧
      (∀ first second, driver.Holds first → driver.Holds second → first = second) ∧
      (driver.Lost ↔ ¬ invokes.Permits (fun before move => ¬ before.Loses move) new
        [.poll 0, .poll 1, .drop 1, .finish 0]) ∧
      (driver.Lost → ∀ later, invokes.Reaches System.always driver later →
        later.Lost ∧ ∀ call, later.calls call = .finished → driver.calls call = .finished) := by
  obtain ⟨driver, ran⟩ := Option.isSome_iff_exists.mp
    (show (invokes.run new [.poll 0, .poll 1, .drop 1, .finish 0]).isSome = true by decide)
  exact ⟨driver, ran, slot_of_run ran⟩

example : ¬ invokes.Permits (fun before move => ¬ before.Loses move) new
    [.poll 0, .poll 1, .drop 1, .finish 0] := by decide

/-! ## Turns -/

section Turns

variable {driver : Driver} {holder call : Nat}

/-- The next poll of the call that has the slot finds it running. -/
theorem Shows.poll_holder (shown : driver.Shows (.held holder)) :
    ∃ after, driver.step (.poll holder) = some after ∧ after.Shows (.held holder) ∧
      after.invokeWaiters = driver.invokeWaiters ∧ after.calls holder = .running ∧
      ∀ other, other ≠ holder → after.calls other = driver.calls other := by
  rcases (shown.holds holder).mpr rfl with granted | running
  · refine ⟨driver.awaitInvokeSlot holder, by simp [step, granted],
      shown.await (Or.inr granted), ?_⟩
    simp only [awaitInvokeSlot, tryRecv, if_pos granted]
    refine ⟨rfl, by simp, fun other different => ?_⟩
    rw [calls_set, if_neg different]
  · exact ⟨driver, by simp [step, running], shown, rfl, running, fun _ _ => rfl⟩

/-- The call that has the slot runs to its end, and the one on top of the waiters is next. -/
theorem Shows.turn {top : Nat} {rest : List Nat} (shown : driver.Shows (.held holder))
    (waiters : driver.invokeWaiters = top :: rest) (waits : driver.calls top = .waiting) :
    ∃ after, invokes.run driver [.poll holder, .finish holder] = some after ∧
      after.Shows (.held top) ∧ after.invokeWaiters = rest ∧ after.calls holder = .finished ∧
      ∀ other, other ≠ holder → other ≠ top → after.calls other = driver.calls other := by
  obtain ⟨polled, taken, stillShown, sameWaiters, running, others⟩ := shown.poll_holder
  have notHolder : top ≠ holder := by
    rintro rfl
    rcases (shown.holds top).mpr rfl with granted | runs <;> simp_all
  have topWaits : polled.calls top = .waiting := (others top notHolder).trans waits
  have passed : (polled.set holder .finished).releaseInvokeSlot =
      { polled.set holder .finished with invokeWaiters := rest }.set top .granted := by
    have sender : (polled.set holder .finished).invokeWaiters = top :: rest :=
      sameWaiters.trans waiters
    rw [releaseInvokeSlot, sender]
    simp [send, notHolder, topWaits]
  refine ⟨(polled.set holder .finished).releaseInvokeSlot, ?_, ?_, ?_⟩
  · have ended : polled.step (.finish holder) =
        some (polled.set holder .finished).releaseInvokeSlot := by
      rw [step, if_pos running]
    simp only [System.run, invokes, taken, ended, Option.bind_some]
  · obtain ⟨next, shownNext, _⟩ := stillShown.end_running running (Or.inl rfl)
    have granted : (polled.set holder .finished).releaseInvokeSlot.Holds top := by
      rw [passed]
      exact Or.inl (by simp)
    rwa [(shownNext.holds top).mp granted] at shownNext
  · rw [passed]
    refine ⟨rfl, by simp [Ne.symm notHolder], fun other notHolder' notTop => ?_⟩
    simp [notTop, notHolder', others other notHolder']

/-- A call that waits gets the slot after the calls above it have run to their ends. -/
theorem Shows.served {above below : List Nat} (shown : driver.Shows (.held holder))
    (queue : driver.invokeWaiters = above ++ call :: below)
    (patient : ∀ waiter ∈ driver.invokeWaiters, driver.calls waiter = .waiting) :
    ∃ moves after, (∀ move ∈ moves, ∀ other, move ≠ .drop other) ∧
      invokes.run driver moves = some after ∧ after.calls call = .running := by
  induction above generalizing driver holder with
  | nil =>
      obtain ⟨after, ran, stillShown, _⟩ :=
        shown.turn queue (patient call (by simp [queue]))
      obtain ⟨last, polled, _, _, running, _⟩ := stillShown.poll_holder
      refine ⟨[.poll holder, .finish holder] ++ [.poll call], last, by simp, ?_, running⟩
      rw [System.run_append, ran]
      simp only [System.run, invokes, polled, Option.bind_some]
  | cons top above inductionHypothesis =>
      have topWaits := patient top (by simp [queue])
      obtain ⟨after, ran, stillShown, rest, _, others⟩ := shown.turn queue topWaits
      have distinct := shown.distinct
      rw [queue, List.cons_append, List.nodup_cons] at distinct
      have stillPatient : ∀ waiter ∈ after.invokeWaiters, after.calls waiter = .waiting := by
        intro waiter member
        rw [rest] at member
        have waits := patient waiter (queue ▸ List.mem_cons_of_mem _ member)
        rw [others waiter _ (fun same => distinct.1 (same ▸ member)), waits]
        rintro rfl
        rcases (shown.holds waiter).mpr rfl with granted | runs <;> simp_all
      obtain ⟨moves, last, undropped, finished, running⟩ :=
        inductionHypothesis stillShown rest stillPatient
      refine ⟨[.poll holder, .finish holder] ++ moves, last, ?_, ?_, running⟩
      · simpa using undropped
      · rw [System.run_append, ran, Option.bind_some, finished]

/-- A call that is made while the slot is taken waits on top of the others. -/
theorem Shows.join (shown : driver.Shows (.held holder)) (idle : driver.calls call = .idle) :
    ∃ after, driver.step (.poll call) = some after ∧ after.Shows (.held holder) ∧
      after.invokeWaiters = call :: driver.invokeWaiters ∧ after.calls call = .waiting ∧
      ∀ other, other ≠ call → after.calls other = driver.calls other := by
  have isBusy : driver.invokeBusy = true := shown.busy.mpr nofun
  refine ⟨driver.acquireInvokeSlot call, by simp [step, idle], shown.acquire_busy nofun idle, ?_⟩
  rw [acquireInvokeSlot, if_pos isBusy]
  refine ⟨rfl, by simp, fun other different => ?_⟩
  rw [calls_set, if_neg different]

/-- Calls that are made later get the slot first. -/
theorem Shows.overtaken {later : List Nat} (shown : driver.Shows (.held holder))
    (distinct : later.Nodup) (idle : ∀ other ∈ later, driver.calls other = .idle) :
    ∃ moves after, (∀ move ∈ moves, ∀ other, move ≠ .drop other) ∧
      invokes.run driver moves = some after ∧
      (∀ other ∈ holder :: later, after.Holds other ∨ after.calls other = .finished) ∧
      ∀ other, other ∉ holder :: later → after.calls other = driver.calls other := by
  induction later generalizing driver holder with
  | nil =>
      refine ⟨[], driver, by simp, rfl, ?_, fun _ _ => rfl⟩
      intro other member
      exact Or.inl ((shown.holds other).mpr (by rw [List.mem_singleton.mp member]))
  | cons next later inductionHypothesis =>
      rw [List.nodup_cons] at distinct
      have nextIdle := idle next List.mem_cons_self
      have notHolder : ∀ other ∈ next :: later, other ≠ holder := by
        rintro other member rfl
        have otherIdle := idle other member
        rcases (shown.holds other).mpr rfl with granted | runs <;> simp_all
      obtain ⟨joined, polled, shownJoined, waiters, waits, others⟩ := shown.join nextIdle
      obtain ⟨after, ran, shownAfter, _, ended, unchanged⟩ := shownJoined.turn waiters waits
      have kept : ∀ other, other ≠ holder → other ≠ next →
          after.calls other = driver.calls other := by
        intro other different notNext
        rw [unchanged other different notNext, others other notNext]
      obtain ⟨moves, last, undropped, finished, served, rest⟩ :=
        inductionHypothesis shownAfter distinct.2 (by
          intro other member
          rw [kept other (notHolder other (List.mem_cons_of_mem _ member))
            (fun same => distinct.1 (same ▸ member))]
          exact idle other (List.mem_cons_of_mem _ member))
      have holderOut : holder ∉ next :: later := fun member => notHolder holder member rfl
      refine ⟨.poll next :: ([.poll holder, .finish holder] ++ moves), last, ?_, ?_, ?_, ?_⟩
      · simpa using undropped
      · show (invokes.step driver _).bind (fun state => invokes.run state _) = _
        rw [show invokes.step driver (.poll next) = some joined from polled, Option.bind_some,
          System.run_append, ran, Option.bind_some, finished]
      · intro other member
        rcases List.mem_cons.mp member with rfl | member
        · exact Or.inr ((rest _ holderOut).trans ended)
        · exact served other member
      · intro other absent
        obtain ⟨notHolder', absent⟩ := not_or.mp (List.mem_cons.not.mp absent)
        rw [rest other absent]
        exact kept other notHolder' fun same => absent (same ▸ List.mem_cons_self)

end Turns

/-! ## Runs in which no call that waits is dropped -/

/-- The future of a call that waits for the slot, or for its next poll, is not dropped. -/
def KeepsWaiting (driver : Driver) (move : InvokeMove) : Prop :=
  ∀ call, move = .drop call → driver.calls call ≠ .waiting ∧ driver.calls call ≠ .granted

instance (driver : Driver) : DecidablePred driver.KeepsWaiting
  | .poll _ => isTrue nofun
  | .finish _ => isTrue nofun
  | .drop call =>
      decidable_of_iff (driver.calls call ≠ .waiting ∧ driver.calls call ≠ .granted) (by
        simp [KeepsWaiting])

/-- A sender is pushed by the call that waits for it. -/
theorem waiter_of_step {driver after : Driver} {move : InvokeMove} {call : Nat}
    (stepped : driver.step move = some after) (member : call ∈ after.invokeWaiters) :
    call ∈ driver.invokeWaiters ∨ after.calls call = .waiting := by
  have released : ∀ {before : Driver}, call ∈ before.releaseInvokeSlot.invokeWaiters →
      call ∈ before.invokeWaiters := by
    intro before found
    rw [releaseInvokeSlot] at found
    split at found
    · next waiters =>
      rw [waiters]
      rw [send] at found
      split at found <;> exact List.mem_cons_of_mem _ found
    · next waiters => exact waiters ▸ found
  cases move with
  | poll other =>
      simp only [step] at stepped
      split at stepped <;> cases stepped
      · rw [acquireInvokeSlot] at member ⊢
        split at member
        · next isBusy =>
          rw [if_pos isBusy]
          rcases List.mem_cons.mp member with rfl | earlier
          · exact Or.inr (by simp)
          · exact Or.inl earlier
        · exact Or.inl member
      all_goals try exact Or.inl member
      all_goals
        rw [awaitInvokeSlot] at member
        split at member <;> exact Or.inl member
  | finish other =>
      simp only [step] at stepped
      split at stepped <;> cases stepped
      have earlier := released member
      exact Or.inl earlier
  | drop other =>
      simp only [step] at stepped
      split at stepped <;> cases stepped
      all_goals try exact Or.inl member
      have earlier := released member
      exact Or.inl earlier

/-- The slot is not lost, and whoever has a sender among the waiters waits. -/
structure Patient (driver : Driver) : Prop where
  slot : ∃ slot, driver.Shows slot ∧ slot ≠ .lost
  waits : ∀ call ∈ driver.invokeWaiters, driver.calls call = .waiting

theorem patient_of_reaches {driver : Driver} (reached : invokes.Reaches KeepsWaiting new driver) :
    driver.Patient := by
  apply reached.invariant (I := Patient)
  · exact ⟨⟨.free, shows_new, nofun⟩, fun _ member => absurd member List.not_mem_nil⟩
  · rintro before after ⟨move, permitted, stepped⟩ ⟨⟨slot, shown, notLost⟩, waits⟩
    obtain ⟨next, shownNext, _, lost⟩ := slotTracked.step shown stepped
    have keeps : ¬ before.Loses move := by
      have patient : ¬ before.Abandoned := by
        rintro ⟨top, first, gone⟩
        simp [waits top (List.mem_of_mem_head? first)] at gone
      cases move with
      | poll call => exact not_false
      | finish call => exact patient
      | drop call =>
          rintro (granted | ⟨_, abandoned⟩)
          · exact (permitted call rfl).2 granted
          · exact patient abandoned
    refine ⟨⟨next, shownNext, fun isLost => ?_⟩, fun call member => ?_⟩
    · rcases lost.mp isLost with wasLost | loses
      · exact notLost wasLost
      · exact keeps loses
    · apply (shownNext.queued call member).resolve_right
      intro gone
      rcases waiter_of_step stepped member with earlier | isWaiting
      · have waited := waits call earlier
        rcases ended_of_step (Or.inr rfl) stepped gone with same | ⟨other, _⟩ | ⟨_, rfl⟩
        · simp [waited] at same
        · cases other
        · exact (permitted call rfl).1 waited
      · simp [gone] at isWaiting

/-- **No call is stuck, and none is safe from being overtaken**: while no call that waits is
dropped, each of them can still get the slot; but whatever calls are made next, all of them can get
it first. -/
theorem waiting_served_and_overtaken {driver : Driver} {call : Nat}
    (reached : invokes.Reaches KeepsWaiting new driver) (waits : driver.calls call = .waiting) :
    (∃ moves after, (∀ move ∈ moves, ∀ other, move ≠ .drop other) ∧
      invokes.run driver moves = some after ∧ after.calls call = .running) ∧
    ∀ later : List Nat, later.Nodup → (∀ other ∈ later, driver.calls other = .idle) →
      ∃ moves after, (∀ move ∈ moves, ∀ other, move ≠ .drop other) ∧
        invokes.run driver moves = some after ∧
        (∀ other ∈ later, after.Holds other ∨ after.calls other = .finished) ∧
        after.calls call = .waiting := by
  obtain ⟨⟨slot, shown, notLost⟩, patient⟩ := patient_of_reaches reached
  have member := shown.sender call waits
  cases slot with
  | free => exact absurd (shown.unclaimed rfl) (List.ne_nil_of_mem member)
  | lost => exact absurd rfl notLost
  | held holder =>
      constructor
      · obtain ⟨above, below, queue⟩ := List.append_of_mem member
        exact shown.served queue patient
      · intro later distinct idle
        obtain ⟨moves, after, undropped, ran, served, rest⟩ := shown.overtaken distinct idle
        refine ⟨moves, after, undropped, ran,
          fun other made => served other (List.mem_cons_of_mem _ made), ?_⟩
        rw [rest call, waits]
        intro absurdly
        rcases List.mem_cons.mp absurdly with rfl | made
        · rcases (shown.holds call).mpr rfl with granted | runs <;> simp_all
        · simp [idle call made] at waits

/-- Two calls: the second waits for the first. -/
theorem second_served_and_overtaken :
    ∃ driver, driver.calls 1 = .waiting ∧
      (∃ moves after, (∀ move ∈ moves, ∀ other, move ≠ .drop other) ∧
        invokes.run driver moves = some after ∧ after.calls 1 = .running) ∧
      ∀ later : List Nat, later.Nodup → (∀ other ∈ later, driver.calls other = .idle) →
        ∃ moves after, (∀ move ∈ moves, ∀ other, move ≠ .drop other) ∧
          invokes.run driver moves = some after ∧
          (∀ other ∈ later, after.Holds other ∨ after.calls other = .finished) ∧
          after.calls 1 = .waiting := by
  have ran : (invokes.run new [.poll 0, .poll 1]).any
      (fun driver => decide (driver.calls 1 = .waiting)) = true := by decide
  have permitted : invokes.Permits KeepsWaiting new [.poll 0, .poll 1] := by decide
  obtain ⟨driver, reached, stage⟩ := System.exists_reaches_of_run ran permitted
  have waits := of_decide_eq_true stage
  exact ⟨driver, waits, waiting_served_and_overtaken reached waits⟩

end Driver

end FlareCore.Client
