import FlareCore.Foundations.Transition
import Mathlib.Data.List.Nodup
import Mathlib.Data.List.Perm.Subperm
import Mathlib.Logic.Function.Basic

/-!
# Starting and stopping the heartbeat detector

`start_heartbeat` starts the loop of a new detector at once, but a spawned task stores the detector
in the core; `stop_heartbeat` spawns a task that stops the detector which it finds there.  A loop
goes on until its detector is stopped or dropped, and storing a detector drops the one before.

So a loop that goes on is the loop of a detector that is still to be stored, or of the one that is
stored (`heartbeat_detectors`).  Once all tasks have run, at most one loop goes on, and it does
exactly if the task that ran last was one that stores: a task that stops and overtakes it has
nothing to stop.
-/

namespace FlareCore.Server

open FlareCore.Foundations

set_option autoImplicit false

/-- The loop of a detector: not started, checking at every tick, told by its channel to end, or
ended. -/
inductive DetectorLoop where
  | absent
  | checking
  | told
  | ended
  deriving DecidableEq, Repr

/-- A detector that has been started.  `stopTx` says whether it still has the sender. -/
structure HeartbeatDetector where
  number : Nat
  stopTx : Bool
  deriving DecidableEq, Repr

/-- What `start_heartbeat` and `stop_heartbeat` spawn. -/
inductive HeartbeatTask where
  | store (detector : HeartbeatDetector)
  | stop
  deriving DecidableEq, Repr

/-- The slot of the core, the tasks that have not run, and the loops.  The other fields count the
detectors and record the tasks in the order in which they were spawned and in which they ran. -/
structure HeartbeatCore where
  heartbeatDetector : Option HeartbeatDetector
  tasks : List HeartbeatTask
  loops : Nat → DetectorLoop
  started : Nat
  spawned : List HeartbeatTask
  ran : List HeartbeatTask

namespace HeartbeatCore

def new : HeartbeatCore where
  heartbeatDetector := none
  tasks := []
  loops := fun _ => .absent
  started := 0
  spawned := []
  ran := []

variable (core : HeartbeatCore)

/-- A message in the channel of a loop, or the end of its only sender. -/
def tell (number : Nat) : HeartbeatCore :=
  if core.loops number = .checking then
    { core with loops := Function.update core.loops number .told }
  else core

/-- What the sender of a detector does when it is used or dropped. -/
def release (detector : HeartbeatDetector) : HeartbeatCore :=
  if detector.stopTx then core.tell detector.number else core

def spawn (task : HeartbeatTask) : HeartbeatCore :=
  { core with tasks := core.tasks ++ [task], spawned := core.spawned ++ [task] }

/-- `HeartbeatDetector::start`, and the task that stores the detector. -/
def startHeartbeat : HeartbeatCore :=
  { core with
    loops := Function.update core.loops core.started .checking
    started := core.started + 1 }.spawn (.store ⟨core.started, true⟩)

def stopHeartbeat : HeartbeatCore :=
  core.spawn .stop

/-- `*guard = Some(detector)`, or `HeartbeatDetector::stop` for the detector in the slot. -/
def perform : HeartbeatTask → HeartbeatCore
  | .store detector =>
      { (core.heartbeatDetector.elim core core.release) with heartbeatDetector := some detector }
  | .stop =>
      match core.heartbeatDetector with
      | some detector =>
          { core.release detector with heartbeatDetector := some { detector with stopTx := false } }
      | none => core

/-- A task takes the lock of the slot. -/
def run (task : HeartbeatTask) (index : Nat) : HeartbeatCore :=
  { core with tasks := core.tasks.eraseIdx index, ran := core.ran ++ [task] }.perform task

end HeartbeatCore

/-- A call, the run of a task, or the end of a loop that was told to end. -/
inductive HeartbeatMove where
  | start
  | stop
  | run (index : Nat)
  | leave (number : Nat)
  deriving DecidableEq, Repr

namespace HeartbeatCore

def step (core : HeartbeatCore) : HeartbeatMove → Option HeartbeatCore
  | .start => some core.startHeartbeat
  | .stop => some core.stopHeartbeat
  | .run index => core.tasks[index]?.map fun task => core.run task index
  | .leave number =>
      if core.loops number = .told then
        some { core with loops := Function.update core.loops number .ended }
      else none

end HeartbeatCore

def heartbeats : System HeartbeatCore HeartbeatMove := ⟨HeartbeatCore.step⟩

/-! ## Senders -/

/-- The loop that ends with a detector. -/
def HeartbeatDetector.sender (detector : HeartbeatDetector) : Option Nat :=
  if detector.stopTx then some detector.number else none

/-- The sender that a task has with it. -/
def HeartbeatTask.sender : HeartbeatTask → Option Nat
  | store detector => detector.sender
  | stop => none

def HeartbeatTask.stores : HeartbeatTask → Bool
  | store _ => true
  | stop => false

namespace HeartbeatCore

/-- The sender in the slot. -/
def stored (core : HeartbeatCore) : List Nat :=
  (core.heartbeatDetector.bind HeartbeatDetector.sender).toList

/-- The senders with the tasks that have not run, and the one in the slot. -/
def senders (core : HeartbeatCore) : List Nat :=
  core.tasks.filterMap HeartbeatTask.sender ++ core.stored

/-- The loops that go on are those whose sender is somewhere. -/
structure Watched (core : HeartbeatCore) : Prop where
  checking : ∀ number, core.loops number = .checking ↔ number ∈ core.senders
  distinct : core.senders.Nodup
  absent : ∀ number, core.started ≤ number → core.loops number = .absent
  armed : ∀ detector, .store detector ∈ core.tasks → detector.stopTx = true
  last : core.stored ≠ [] ↔ ∃ detector, core.ran.getLast? = some (.store detector)

theorem watched_new : Watched .new where
  checking number := by simp [new, senders, stored]
  distinct := List.nodup_nil
  absent _ _ := rfl
  armed _ member := absurd member List.not_mem_nil
  last := by simp [new, stored]

section Perform

variable (core : HeartbeatCore) (task : HeartbeatTask)

theorem loops_release (detector : HeartbeatDetector) (number : Nat) :
    (core.release detector).loops number =
      if detector.sender = some number ∧ core.loops number = .checking then .told
      else core.loops number := by
  by_cases has : detector.stopTx = true
  · by_cases here : number = detector.number
    · subst here
      by_cases checking : core.loops detector.number = .checking <;>
        simp [release, tell, HeartbeatDetector.sender, has, checking]
    · have elsewhere : detector.number ≠ number := Ne.symm here
      by_cases checking : core.loops detector.number = .checking <;>
        simp [release, tell, HeartbeatDetector.sender, has, checking, here, elsewhere]
  · simp [release, HeartbeatDetector.sender, has]

theorem release_rest (detector : HeartbeatDetector) :
    (core.release detector).tasks = core.tasks ∧ (core.release detector).started = core.started ∧
      (core.release detector).ran = core.ran ∧ (core.release detector).spawned = core.spawned := by
  rw [release]
  split
  · rw [tell]
    split <;> exact ⟨rfl, rfl, rfl, rfl⟩
  · exact ⟨rfl, rfl, rfl, rfl⟩

/-- Either task ends the loop of the detector that was stored, and leaves its own sender in the
slot. -/
theorem perform_spec :
    (∀ number, (core.perform task).loops number =
      if number ∈ core.stored ∧ core.loops number = .checking then .told
      else core.loops number) ∧
    (core.perform task).stored = task.sender.toList ∧ (core.perform task).tasks = core.tasks ∧
    (core.perform task).started = core.started ∧ (core.perform task).ran = core.ran ∧
    (core.perform task).spawned = core.spawned := by
  have stored : ∀ {detector number}, core.heartbeatDetector = some detector →
      (number ∈ core.stored ↔ detector.sender = some number) := by
    intro detector number found
    simp [HeartbeatCore.stored, found]
  cases task with
  | store detector =>
      cases found : core.heartbeatDetector with
      | none =>
          refine ⟨fun number => ?_, rfl, ?_⟩
          · simp [perform, found, HeartbeatCore.stored]
          · simp [perform, found]
      | some previous =>
          refine ⟨fun number => ?_, rfl, ?_⟩
          · simp only [stored found]
            simpa [perform, found] using core.loops_release previous number
          · simpa [perform, found] using core.release_rest previous
  | stop =>
      cases found : core.heartbeatDetector with
      | none => simp [perform, found, HeartbeatCore.stored, HeartbeatTask.sender]
      | some previous =>
          refine ⟨fun number => ?_, ?_, ?_⟩
          · simp only [stored found]
            simpa [perform, found] using core.loops_release previous number
          · simp [perform, found, HeartbeatCore.stored, HeartbeatTask.sender,
              HeartbeatDetector.sender]
          · simpa [perform, found] using core.release_rest previous

end Perform

section Steps

variable {core : HeartbeatCore}

/-- A new detector is on its way to the slot. -/
theorem Watched.start (watched : core.Watched) : core.startHeartbeat.Watched := by
  have fresh : core.started ∉ core.senders := by
    rw [← watched.checking, watched.absent _ (Nat.le_refl _)]
    decide
  have senders : core.startHeartbeat.senders.Perm (core.started :: core.senders) := by
    simp only [startHeartbeat, spawn, HeartbeatCore.senders, stored, List.filterMap_append]
    rw [← List.cons_append]
    apply List.Perm.append_right
    exact List.perm_append_comm
  constructor
  · intro number
    rw [senders.mem_iff, List.mem_cons, ← watched.checking]
    by_cases this : number = core.started
    · simp [startHeartbeat, spawn, this]
    · simp [startHeartbeat, spawn, this]
  · rw [senders.nodup_iff]
    exact List.nodup_cons.mpr ⟨fresh, watched.distinct⟩
  · intro number later
    simp only [startHeartbeat, spawn] at later ⊢
    have different : number ≠ core.started := by omega
    rw [Function.update_of_ne different]
    exact watched.absent number (by omega)
  · intro detector member
    rcases List.mem_append.mp member with earlier | new
    · exact watched.armed detector earlier
    · cases List.mem_singleton.mp new
      rfl
  · exact watched.last

theorem Watched.stop (watched : core.Watched) : core.stopHeartbeat.Watched := by
  have senders : core.stopHeartbeat.senders = core.senders := by
    simp [stopHeartbeat, spawn, HeartbeatCore.senders, stored, HeartbeatTask.sender]
  refine ⟨senders ▸ watched.checking, senders ▸ watched.distinct, watched.absent, ?_, watched.last⟩
  intro detector member
  rcases List.mem_append.mp member with earlier | new
  · exact watched.armed detector earlier
  · cases List.mem_singleton.mp new

theorem Watched.leave {number : Nat} (watched : core.Watched)
    (told : core.loops number = .told) :
    Watched { core with loops := Function.update core.loops number .ended } where
  checking other := by
    refine Iff.trans ?_ (watched.checking other)
    by_cases this : other = number
    · simp [this, told]
    · simp [this]
  distinct := watched.distinct
  absent other later := by
    have different : other ≠ number := by
      rintro rfl
      have absent := watched.absent other later
      simp [told] at absent
    simp only
    rw [Function.update_of_ne different]
    exact watched.absent other later
  armed := watched.armed
  last := watched.last

/-- A task runs: the sender it has is now in the slot, and the one that was there is gone. -/
theorem Watched.run {earlier later : List HeartbeatTask} {task : HeartbeatTask}
    (watched : core.Watched) (tasks : core.tasks = earlier ++ task :: later) :
    Watched ({ core with
      tasks := earlier ++ later
      ran := core.ran ++ [task] }.perform task) := by
  obtain ⟨loops, stored, sameTasks, sameStarted, sameRan, _⟩ := perform_spec { core with
    tasks := earlier ++ later
    ran := core.ran ++ [task] } task
  have before : core.senders.Perm (core.stored ++
      (earlier.filterMap HeartbeatTask.sender ++ task.sender.toList ++
        later.filterMap HeartbeatTask.sender)) := by
    have split : core.tasks.filterMap HeartbeatTask.sender =
        earlier.filterMap HeartbeatTask.sender ++ task.sender.toList ++
          later.filterMap HeartbeatTask.sender := by
      rw [tasks, List.filterMap_append, List.filterMap_cons]
      cases task.sender <;> simp
    rw [senders, split]
    exact List.perm_append_comm
  have after : (earlier ++ later).filterMap HeartbeatTask.sender ++ task.sender.toList =
      earlier.filterMap HeartbeatTask.sender ++ later.filterMap HeartbeatTask.sender ++
        task.sender.toList := by
    rw [List.filterMap_append]
  have moved : (earlier.filterMap HeartbeatTask.sender ++ later.filterMap HeartbeatTask.sender ++
      task.sender.toList).Perm (earlier.filterMap HeartbeatTask.sender ++ task.sender.toList ++
        later.filterMap HeartbeatTask.sender) := by
    rw [List.append_assoc, List.append_assoc]
    exact List.perm_append_comm.append_left _
  have distinct := before.nodup_iff.mp watched.distinct
  rw [List.nodup_append'] at distinct
  obtain ⟨_, distinctLater, disjoint⟩ := distinct
  constructor
  · intro number
    rw [loops, senders, stored, sameTasks, after, moved.mem_iff]
    have known := watched.checking number
    rw [before.mem_iff, List.mem_append] at known
    change (if number ∈ core.stored ∧ core.loops number = .checking then DetectorLoop.told
      else core.loops number) = .checking ↔ _
    by_cases inSlot : number ∈ core.stored
    · have checking := known.mpr (Or.inl inSlot)
      have gone := disjoint inSlot
      simp only [inSlot, checking, and_self, if_true, reduceCtorEq, false_iff]
      exact gone
    · simp only [inSlot, false_and, if_false, known, false_or]
  · rw [senders, stored, sameTasks, after, moved.nodup_iff]
    exact distinctLater
  · intro number later
    rw [sameStarted] at later
    have absent := watched.absent number later
    rw [loops]
    change (if number ∈ core.stored ∧ core.loops number = .checking then DetectorLoop.told
      else core.loops number) = .absent
    rw [if_neg (by simp [absent]), absent]
  · intro detector member
    rw [sameTasks] at member
    apply watched.armed detector
    rw [tasks]
    rcases List.mem_append.mp member with early | late
    · exact List.mem_append_left _ early
    · exact List.mem_append_right _ (List.mem_cons_of_mem _ late)
  · rw [stored, sameRan]
    cases task with
    | store detector =>
        have armed := watched.armed detector (by simp [tasks])
        simp [HeartbeatTask.sender, HeartbeatDetector.sender, armed]
    | stop => simp [HeartbeatTask.sender]

theorem Watched.step {after : HeartbeatCore} {move : HeartbeatMove} (watched : core.Watched)
    (stepped : core.step move = some after) : after.Watched := by
  cases move with
  | start =>
      obtain rfl := Option.some.inj stepped
      exact watched.start
  | stop =>
      obtain rfl := Option.some.inj stepped
      exact watched.stop
  | run index =>
      obtain ⟨task, found, rfl⟩ := Option.map_eq_some_iff.mp stepped
      obtain ⟨inRange, rfl⟩ := List.getElem?_eq_some_iff.mp found
      have split : core.tasks =
          core.tasks.take index ++ core.tasks[index] :: core.tasks.drop (index + 1) := by
        rw [← List.drop_eq_getElem_cons inRange, List.take_append_drop]
      rw [HeartbeatCore.run, List.eraseIdx_eq_take_drop_succ]
      exact watched.run split
  | leave number =>
      simp only [HeartbeatCore.step] at stepped
      split at stepped
      · next told =>
        obtain rfl := Option.some.inj stepped
        exact watched.leave told
      · cases stepped

end Steps

theorem watched_of_reaches {allowed : HeartbeatCore → HeartbeatMove → Prop} {core : HeartbeatCore}
    (reached : heartbeats.Reaches allowed new core) : core.Watched := by
  apply reached.invariant watched_new
  rintro before after ⟨move, _, stepped⟩ watched
  exact watched.step stepped

/-- When every task has run, a loop goes on exactly if a detector was stored last. -/
theorem Watched.goesOn_iff {core : HeartbeatCore} (watched : core.Watched)
    (idle : core.tasks = []) : (∃ number, core.loops number = .checking) ↔
      ∃ detector, core.ran.getLast? = some (.store detector) := by
  rw [← watched.last]
  simp only [watched.checking, senders, idle, List.filterMap_nil, List.nil_append]
  constructor
  · rintro ⟨number, member⟩
    exact List.ne_nil_of_mem member
  · exact List.exists_mem_of_ne_nil _

/-- **The loops in a run**: no more loops go on than detectors are still to be stored, and one.
When every task has run at most one does, and it does exactly if the last task that ran stored a
detector. -/
theorem heartbeat_detectors {core : HeartbeatCore}
    (reached : heartbeats.Reaches System.always new core) :
    (∀ numbers : List Nat, numbers.Nodup → (∀ number ∈ numbers, core.loops number = .checking) →
      numbers.length ≤ core.tasks.countP HeartbeatTask.stores + 1) ∧
    (core.tasks = [] → ((∃ number, core.loops number = .checking) ↔
      ∃ detector, core.ran.getLast? = some (.store detector))) := by
  have watched := watched_of_reaches reached
  refine ⟨?_, watched.goesOn_iff⟩
  intro numbers distinct checking
  have included : numbers ⊆ core.senders := fun number member =>
    (watched.checking number).mp (checking number member)
  have bound := (List.Nodup.subperm distinct included).length_le
  have pending : (core.tasks.filterMap HeartbeatTask.sender).length ≤
      core.tasks.countP HeartbeatTask.stores := by
    induction core.tasks with
    | nil => simp
    | cons task tasks inductionHypothesis =>
        cases task with
        | store detector =>
            rw [List.countP_cons_of_pos rfl, List.filterMap_cons]
            split
            · omega
            · rw [List.length_cons]
              omega
        | stop =>
            rw [List.filterMap_cons_none rfl, List.countP_cons_of_neg (by decide)]
            exact inductionHypothesis
  have inSlot : core.stored.length ≤ 1 := by
    rw [stored]
    cases core.heartbeatDetector.bind HeartbeatDetector.sender <;> simp
  rw [senders, List.length_append] at bound
  omega

/-- The task that stops overtakes the one that stores: the loop goes on. -/
theorem stop_overtakes_store :
    ∃ core : HeartbeatCore, (core.tasks = [] ∧ core.ran.getLast? = some (.store ⟨0, true⟩)) ∧
      (∀ numbers : List Nat, numbers.Nodup → (∀ number ∈ numbers, core.loops number = .checking) →
        numbers.length ≤ core.tasks.countP HeartbeatTask.stores + 1) ∧
      (core.tasks = [] → ((∃ number, core.loops number = .checking) ↔
        ∃ detector, core.ran.getLast? = some (.store detector))) := by
  have ran : (heartbeats.run new [.start, .stop, .run 1, .run 0]).any (fun core => decide
      (core.tasks = [] ∧ core.ran.getLast? = some (.store ⟨0, true⟩))) = true := by decide
  obtain ⟨core, reached, found⟩ := System.exists_reaches_of_run ran (System.permits_always _ _)
  exact ⟨core, of_decide_eq_true found, heartbeat_detectors reached⟩

/-- The tasks run in the order in which they were spawned. -/
def RunsInOrder (_ : HeartbeatCore) : HeartbeatMove → Prop
  | .run index => index = 0
  | .start | .stop | .leave _ => True

/-- Then no loop goes on behind a stop that was called last. -/
theorem stopped_if_in_order {core : HeartbeatCore}
    (reached : heartbeats.Reaches RunsInOrder new core) (idle : core.tasks = [])
    (stopped : core.spawned.getLast? = some .stop) (number : Nat) :
    core.loops number ≠ .checking := by
  have inOrder : core.spawned = core.ran ++ core.tasks := by
    apply reached.invariant (I := fun core => core.spawned = core.ran ++ core.tasks) rfl
    rintro before after ⟨move, permitted, stepped⟩ inOrder
    cases move with
    | start =>
        obtain rfl := Option.some.inj stepped
        simp [startHeartbeat, spawn, inOrder]
    | stop =>
        obtain rfl := Option.some.inj stepped
        simp [stopHeartbeat, spawn, inOrder]
    | run index =>
        obtain rfl : index = 0 := permitted
        obtain ⟨task, found, rfl⟩ := Option.map_eq_some_iff.mp stepped
        cases tasks : before.tasks with
        | nil => simp [tasks] at found
        | cons first rest =>
            obtain rfl : first = task := by simpa [tasks] using found
            obtain ⟨_, _, sameTasks, _, sameRan, sameSpawned⟩ := perform_spec { before with
              tasks := rest
              ran := before.ran ++ [first] } first
            simp only [HeartbeatCore.run, tasks, List.eraseIdx_cons_zero]
            rw [sameTasks, sameRan, sameSpawned]
            simp [inOrder, tasks]
    | leave number =>
        simp only [heartbeats, step] at stepped
        split at stepped
        · obtain rfl := Option.some.inj stepped
          exact inOrder
        · cases stepped
  intro checking
  obtain ⟨detector, last⟩ := ((watched_of_reaches reached).goesOn_iff idle).mp ⟨number, checking⟩
  rw [inOrder, idle, List.append_nil, last] at stopped
  cases stopped

end HeartbeatCore

end FlareCore.Server
