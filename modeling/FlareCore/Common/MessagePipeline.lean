import FlareCore.Common.Protocol
import FlareCore.Foundations.StableSort
import FlareCore.Foundations.TaskPool

/-!
# The message pipeline

A frame passes the `before` of every middleware, the processors, and the `after` of every
middleware.  Each call awaits, and in between middlewares are added and removed.  The list is
replaced as a whole and a frame works on a snapshot of it, so an update never waits for a frame.

The list is always sorted, and ties are in the order of addition (`InOrder`).  But a frame takes a
second snapshot for the `after`s.  They are the middlewares whose `before` it ran as long as no
update comes between the two (`runs_ordered_and_paired`), and whenever one does, the frame may go
on to run the `after` of others (`unpaired_reachable`).
-/

namespace FlareCore.Common

set_option autoImplicit false

open Foundations

/-! ## The lists of the pipeline -/

/-- The middlewares and the processors, each by its identity.  `additions` is not in the source: the
additions in their order that no removal has undone. -/
structure MessagePipeline (Middleware Processor : Type) where
  middlewares : List Middleware
  processors : List Processor
  additions : List Middleware
  deriving DecidableEq

/-- An update holds the lock of its list while it replaces it. -/
inductive PipelineUpdate (Middleware Processor : Type) where
  | addMiddleware (middleware : Middleware)
  | removeMiddleware (middleware : Middleware)
  | addProcessor (processor : Processor)
  | removeProcessor (processor : Processor)
  deriving DecidableEq

section Pipeline

variable {Frame Middleware Processor : Type}

namespace MessagePipeline

def new : MessagePipeline Middleware Processor :=
  ⟨[], [], []⟩

variable [DecidableEq Middleware] [DecidableEq Processor] (priority : Middleware → Nat)
  (pipeline : MessagePipeline Middleware Processor)

def addMiddleware (middleware : Middleware) : MessagePipeline Middleware Processor :=
  { pipeline with
    middlewares := sortByKey priority (pipeline.middlewares ++ [middleware])
    additions := pipeline.additions ++ [middleware] }

def removeMiddleware (middleware : Middleware) : MessagePipeline Middleware Processor :=
  { pipeline with
    middlewares := pipeline.middlewares.filter (· ≠ middleware)
    additions := pipeline.additions.filter (· ≠ middleware) }

def addProcessor (processor : Processor) : MessagePipeline Middleware Processor :=
  { pipeline with processors := pipeline.processors ++ [processor] }

def removeProcessor (processor : Processor) : MessagePipeline Middleware Processor :=
  { pipeline with processors := pipeline.processors.filter (· ≠ processor) }

def update : PipelineUpdate Middleware Processor → MessagePipeline Middleware Processor
  | .addMiddleware middleware => pipeline.addMiddleware priority middleware
  | .removeMiddleware middleware => pipeline.removeMiddleware middleware
  | .addProcessor processor => pipeline.addProcessor processor
  | .removeProcessor processor => pipeline.removeProcessor processor

end MessagePipeline

/-! ## Frames in the pipeline -/

/-- Where a frame stands.  Between two stages others may act. -/
inductive FrameStage (Frame Middleware Processor : Type) where
  /-- In front of the first snapshot. -/
  | arrived
  | before (remaining : List Middleware)
  | processing (remaining : List Processor)
  /-- In front of the second snapshot. -/
  | processed (response : Option Frame)
  | after (remaining : List Middleware) (response : Option Frame)
  /-- Answered or given up ahead of the `after`s. -/
  | returnedEarly (result : Result (Option Frame))
  /-- Given up at the `after` of a middleware in front of the remaining ones. -/
  | failed (error : FlareError) (remaining : List Middleware)
  | finished (response : Option Frame)
  deriving DecidableEq

/-- A frame with the middlewares that were called for it. -/
structure FrameTask (Frame Middleware Processor : Type) where
  frame : Frame
  connectionId : Option String
  stage : FrameStage Frame Middleware Processor
  beforeRan : List Middleware
  afterRan : List Middleware
  deriving DecidableEq

/-- The next step of `process_frame`, where what is called, if anything, gives `answer`. -/
def FrameTask.advance (pipeline : MessagePipeline Middleware Processor)
    (task : FrameTask Frame Middleware Processor) (answer : Result (Option Frame)) :
    Option (FrameTask Frame Middleware Processor) :=
  match task.stage with
  | .arrived => some { task with stage := .before pipeline.middlewares }
  | .before [] => some { task with stage := .processing pipeline.processors }
  | .before (middleware :: remaining) =>
      let called := { task with beforeRan := task.beforeRan ++ [middleware] }
      match answer with
      | .error error => some { called with stage := .returnedEarly (.error error) }
      | .ok (some response) => some { called with stage := .returnedEarly (.ok (some response)) }
      | .ok none => some { called with stage := .before remaining }
  | .processing [] => some { task with stage := .processed none }
  | .processing (_ :: remaining) =>
      match answer with
      | .error error => some { task with stage := .returnedEarly (.error error) }
      | .ok (some response) => some { task with stage := .processed (some response) }
      | .ok none => some { task with stage := .processing remaining }
  | .processed response => some { task with stage := .after pipeline.middlewares response }
  | .after [] response => some { task with stage := .finished response }
  | .after (middleware :: remaining) response =>
      let called := { task with afterRan := task.afterRan ++ [middleware] }
      match answer with
      | .error error => some { called with stage := .failed error remaining }
      | .ok (some modified) => some { called with stage := .after remaining (some modified) }
      | .ok none => some { called with stage := .after remaining response }
  | .returnedEarly _ | .failed _ _ | .finished _ => none

namespace FrameTask

/-- Where the `after`s are reached, they are called for the middlewares whose `before` was, in the
order in which it was; an error ends them early. -/
def Paired (task : FrameTask Frame Middleware Processor) : Prop :=
  match task.stage with
  | .after remaining _ | .failed _ remaining => task.afterRan ++ remaining = task.beforeRan
  | .finished _ => task.afterRan = task.beforeRan
  | .arrived | .before _ | .processing _ | .processed _ | .returnedEarly _ => True

instance [DecidableEq Middleware] (task : FrameTask Frame Middleware Processor) :
    Decidable task.Paired := by
  unfold Paired
  split <;> infer_instance

/-- The first snapshot, until there is a second one. -/
def snapshot (task : FrameTask Frame Middleware Processor) : Option (List Middleware) :=
  match task.stage with
  | .before remaining => some (task.beforeRan ++ remaining)
  | .processing _ | .processed _ => some task.beforeRan
  | .arrived | .after _ _ | .returnedEarly _ | .failed _ _ | .finished _ => none

/-- What is called ahead of its stage. -/
def Started (task : FrameTask Frame Middleware Processor) : Prop :=
  match task.stage with
  | .arrived => task.beforeRan = [] ∧ task.afterRan = []
  | .before _ | .processing _ | .processed _ => task.afterRan = []
  | .after _ _ | .returnedEarly _ | .failed _ _ | .finished _ => True

/-- The second snapshot is the first. -/
theorem advance_paired {pipeline : MessagePipeline Middleware Processor}
    {task task' : FrameTask Frame Middleware Processor} {answer : Result (Option Frame)}
    (advanced : task.advance pipeline answer = some task') (started : task.Started)
    (paired : task.Paired) (current : ∀ list ∈ task.snapshot, list = pipeline.middlewares) :
    task'.Started ∧ task'.Paired ∧ ∀ list ∈ task'.snapshot, list = pipeline.middlewares := by
  obtain ⟨frame, connectionId, stage, beforeRan, afterRan⟩ := task
  cases stage with
  | arrived =>
      cases advanced
      obtain ⟨rfl, rfl⟩ := started
      exact ⟨rfl, trivial, fun list same => (Option.some_inj.mp same).symm⟩
  | before remaining =>
      have first : beforeRan ++ remaining = pipeline.middlewares := current _ rfl
      cases remaining with
      | nil =>
          cases advanced
          rw [List.append_nil] at first
          exact ⟨started, trivial, fun list same => (Option.some_inj.mp same) ▸ first⟩
      | cons middleware remaining =>
          rcases answer with error | _ | response
          · cases advanced
            exact ⟨trivial, trivial, nofun⟩
          · cases advanced
            refine ⟨started, trivial, fun list same => ?_⟩
            rw [← Option.some_inj.mp same, List.append_assoc]
            exact first
          · cases advanced
            exact ⟨trivial, trivial, nofun⟩
  | processing remaining =>
      cases remaining with
      | nil =>
          cases advanced
          exact ⟨started, trivial, current⟩
      | cons processor remaining =>
          rcases answer with error | _ | response
          · cases advanced
            exact ⟨trivial, trivial, nofun⟩
          · cases advanced
            exact ⟨started, trivial, current⟩
          · cases advanced
            exact ⟨started, trivial, current⟩
  | processed response =>
      have first : beforeRan = pipeline.middlewares := current _ rfl
      have nothingYet : afterRan = [] := started
      cases advanced
      refine ⟨trivial, ?_, nofun⟩
      show afterRan ++ pipeline.middlewares = beforeRan
      rw [nothingYet, first, List.nil_append]
  | after remaining response =>
      have goesOn : afterRan ++ remaining = beforeRan := paired
      cases remaining with
      | nil =>
          cases advanced
          rw [List.append_nil] at goesOn
          exact ⟨trivial, goesOn, nofun⟩
      | cons middleware remaining =>
          have further : afterRan ++ [middleware] ++ remaining = beforeRan := by
            rw [List.append_assoc]
            exact goesOn
          rcases answer with error | _ | modified
          all_goals
            cases advanced
            exact ⟨trivial, further, nofun⟩
  | returnedEarly result => cases advanced
  | failed error remaining => cases advanced
  | finished response => cases advanced

/-- A step of a frame for which nothing answers. -/
def QuietStep (pipeline : MessagePipeline Middleware Processor)
    (task task' : FrameTask Frame Middleware Processor) : Prop :=
  task.advance pipeline (.ok none) = some task'

theorem quiet_of_processed {pipeline : MessagePipeline Middleware Processor}
    (frame : Frame) (connectionId : Option String) (response : Option Frame)
    (beforeRan afterRan : List Middleware) :
    Relation.ReflTransGen (QuietStep pipeline)
      ⟨frame, connectionId, .processed response, beforeRan, afterRan⟩
      ⟨frame, connectionId, .after pipeline.middlewares response, beforeRan, afterRan⟩ :=
  .single rfl

theorem quiet_of_processing {pipeline : MessagePipeline Middleware Processor}
    (frame : Frame) (connectionId : Option String) (remaining : List Processor)
    (beforeRan afterRan : List Middleware) :
    Relation.ReflTransGen (QuietStep pipeline)
      ⟨frame, connectionId, .processing remaining, beforeRan, afterRan⟩
      ⟨frame, connectionId, .after pipeline.middlewares none, beforeRan, afterRan⟩ := by
  induction remaining with
  | nil => exact .head rfl (quiet_of_processed ..)
  | cons processor remaining inductionHypothesis => exact .head rfl inductionHypothesis

theorem quiet_of_before {pipeline : MessagePipeline Middleware Processor}
    (frame : Frame) (connectionId : Option String)
    (remaining beforeRan afterRan : List Middleware) :
    Relation.ReflTransGen (QuietStep pipeline)
      ⟨frame, connectionId, .before remaining, beforeRan, afterRan⟩
      ⟨frame, connectionId, .after pipeline.middlewares none, beforeRan ++ remaining,
        afterRan⟩ := by
  induction remaining generalizing beforeRan with
  | nil =>
      rw [List.append_nil]
      exact .head rfl (quiet_of_processing ..)
  | cons middleware remaining inductionHypothesis =>
      rw [List.append_cons]
      exact .head rfl (inductionHypothesis (beforeRan ++ [middleware]))

/-- A frame with a snapshot may reach the `after`s of the middlewares of now. -/
theorem exists_quiet {pipeline : MessagePipeline Middleware Processor}
    {task : FrameTask Frame Middleware Processor} {list : List Middleware} (started : task.Started)
    (taken : task.snapshot = some list) :
    ∃ task', Relation.ReflTransGen (QuietStep pipeline) task task' ∧
      (task'.Paired ↔ pipeline.middlewares = list) := by
  obtain ⟨frame, connectionId, stage, beforeRan, afterRan⟩ := task
  cases stage with
  | before remaining =>
      cases taken
      obtain rfl : afterRan = [] := started
      exact ⟨_, quiet_of_before .., Iff.rfl⟩
  | processing remaining =>
      cases taken
      obtain rfl : afterRan = [] := started
      exact ⟨_, quiet_of_processing .., Iff.rfl⟩
  | processed response =>
      cases taken
      obtain rfl : afterRan = [] := started
      exact ⟨_, quiet_of_processed .., Iff.rfl⟩
  | arrived => cases taken
  | after remaining response => cases taken
  | returnedEarly result => cases taken
  | failed error remaining => cases taken
  | finished response => cases taken

end FrameTask

/-! ## Calls from many tasks -/

inductive PipelineCall (Frame Middleware Processor : Type) where
  | update (update : PipelineUpdate Middleware Processor)
  | processFrame (frame : Frame) (connectionId : Option String)
  deriving DecidableEq

inductive PipelineTask (Frame Middleware Processor : Type) where
  | update (update : PipelineUpdate Middleware Processor)
  | updated
  | frame (task : FrameTask Frame Middleware Processor)
  deriving DecidableEq

variable [DecidableEq Middleware] [DecidableEq Processor] (priority : Middleware → Nat)

/-- Calls of the pipeline from any number of tasks.  What middlewares and processors answer is the
choice of a step. -/
def pipelineMachine :
    Machine (MessagePipeline Middleware Processor) (PipelineCall Frame Middleware Processor)
      (PipelineTask Frame Middleware Processor) (Result (Option Frame)) Empty where
  start _
    | .update update => .update update
    | .processFrame frame connectionId => .frame ⟨frame, connectionId, .arrived, [], []⟩
  advance pipeline _ task answer :=
    match task with
    | .update update => some (pipeline.update priority update, .updated)
    | .updated => none
    | .frame task => (task.advance pipeline answer).map fun task => (pipeline, .frame task)
  environment pipeline _ := pipeline

abbrev PipelinePool (Frame Middleware Processor : Type) : Type :=
  Pool (MessagePipeline Middleware Processor) (PipelineTask Frame Middleware Processor)

def emptyPool : PipelinePool Frame Middleware Processor :=
  ⟨.new, []⟩

/-! ## The list is sorted -/

/-- The middlewares are in the order of their priorities, and ties in the order of addition. -/
def MessagePipeline.InOrder (pipeline : MessagePipeline Middleware Processor) : Prop :=
  StablySorted priority pipeline.middlewares pipeline.additions

variable {priority}

theorem MessagePipeline.InOrder.update {pipeline : MessagePipeline Middleware Processor}
    (ordered : pipeline.InOrder priority) (update : PipelineUpdate Middleware Processor) :
    (pipeline.update priority update).InOrder priority := by
  cases update with
  | addMiddleware middleware => exact StablySorted.push ordered middleware
  | removeMiddleware middleware => exact StablySorted.filter ordered (· ≠ middleware)
  | addProcessor processor => exact ordered
  | removeProcessor processor => exact ordered

/-- What a step does to the lists: nothing, or one update. -/
theorem pipelineMachine_advance {pipeline later : MessagePipeline Middleware Processor}
    {others : List (PipelineTask Frame Middleware Processor)}
    {task task' : PipelineTask Frame Middleware Processor} {answer : Result (Option Frame)}
    (advanced : (pipelineMachine priority).advance pipeline others task answer =
      some (later, task')) :
    (∃ update, task = .update update ∧ task' = .updated ∧
      later = pipeline.update priority update) ∨
    (∃ frame frame', task = .frame frame ∧ task' = .frame frame' ∧ later = pipeline ∧
      frame.advance pipeline answer = some frame') := by
  cases task with
  | update update =>
      cases advanced
      exact .inl ⟨update, rfl, rfl, rfl⟩
  | updated => cases advanced
  | frame frame =>
      obtain ⟨frame', stepped, same⟩ := Option.map_eq_some_iff.mp advanced
      cases same
      exact .inr ⟨frame, frame', rfl, rfl, rfl, stepped⟩

theorem inOrder_step
    {allowed : PipelinePool Frame Middleware Processor →
      Move (PipelineCall Frame Middleware Processor) (Result (Option Frame)) Empty → Prop}
    {before after : PipelinePool Frame Middleware Processor}
    (step : (pipelineMachine priority).Allowed allowed before after)
    (ordered : before.memory.InOrder priority) : after.memory.InOrder priority := by
  refine Machine.step_preserves (I := fun pool => pool.memory.InOrder priority) ?_ ?_ ?_ step
    ordered
  · intro memory tasks call _ ordered
    exact ordered
  · intro memory earlier task later answer memory' task' _ ordered advanced
    rcases pipelineMachine_advance advanced with ⟨update, -, -, rfl⟩ | ⟨_, _, -, -, rfl, -⟩
    · exact ordered.update update
    · exact ordered
  · intro memory tasks event
    exact event.elim

/-! ## The two snapshots -/

/-- No update changes the middlewares while a frame has a first snapshot and no second one. -/
def SparesSnapshots (priority : Middleware → Nat) (pool : PipelinePool Frame Middleware Processor) :
    Move (PipelineCall Frame Middleware Processor) (Result (Option Frame)) Empty → Prop
  | .advance index _ =>
      ∀ update, pool.tasks[index]? = some (.update update) →
        (pool.memory.update priority update).middlewares = pool.memory.middlewares ∨
          ∀ frame, .frame frame ∈ pool.tasks → frame.snapshot = none
  | .call _ | .environment _ => True

/-- The frames in progress have started, are paired and have a current snapshot. -/
def FramesCurrent (pool : PipelinePool Frame Middleware Processor) : Prop :=
  ∀ frame, .frame frame ∈ pool.tasks →
    frame.Started ∧ frame.Paired ∧ ∀ list ∈ frame.snapshot, list = pool.memory.middlewares

theorem framesCurrent_step {before after : PipelinePool Frame Middleware Processor}
    (step : (pipelineMachine priority).Allowed (SparesSnapshots priority) before after)
    (current : FramesCurrent before) : FramesCurrent after := by
  refine Machine.step_preserves ?_ ?_ ?_ step current
  · intro memory tasks call _ current frame member
    rcases List.mem_append.mp member with earlier | new
    · exact current frame earlier
    · cases call with
      | update update => nomatch List.mem_singleton.mp new
      | processFrame received connectionId =>
          cases List.mem_singleton.mp new
          exact ⟨⟨rfl, rfl⟩, trivial, nofun⟩
  · intro memory earlier task later answer memory' task' spared current advanced frame member
    have others : ∀ other, .frame other ∈ earlier ++ later →
        other.Started ∧ other.Paired ∧ ∀ list ∈ other.snapshot, list = memory.middlewares :=
      fun other among => current other (mem_append_cons.mpr (.inr among))
    rcases pipelineMachine_advance advanced with
      ⟨update, rfl, rfl, rfl⟩ | ⟨moved, moved', rfl, rfl, rfl, stepped⟩
    · have among : .frame frame ∈ earlier ++ later :=
        (mem_append_cons.mp member).resolve_left nofun
      obtain ⟨started, paired, snapshotCurrent⟩ := others frame among
      refine ⟨started, paired, ?_⟩
      rcases spared update (getElem?_append_cons_self ..) with unchanged | noSnapshot
      · rw [unchanged]
        exact snapshotCurrent
      · rw [noSnapshot frame (mem_append_cons.mpr (.inr among))]
        exact nofun
    · rcases mem_append_cons.mp member with same | among
      · cases same
        obtain ⟨started, paired, snapshotCurrent⟩ :=
          current moved (mem_append_cons.mpr (.inl rfl))
        exact moved.advance_paired stepped started paired snapshotCurrent
      · exact others frame among
  · intro memory tasks event
    exact event.elim

/-- **The list is always sorted, and the frames of a run are paired as long as no update comes
between the snapshots of one.** -/
theorem runs_ordered_and_paired (priority : Middleware → Nat) :
    (∀ pool : PipelinePool Frame Middleware Processor,
      (pipelineMachine priority).Reaches System.always emptyPool pool →
        pool.memory.InOrder priority) ∧
    ∀ pool : PipelinePool Frame Middleware Processor,
      (pipelineMachine priority).Reaches (SparesSnapshots priority) emptyPool pool →
        ∀ frame, .frame frame ∈ pool.tasks → frame.Paired := by
  refine ⟨fun pool reached => ?_, fun pool reached frame member => ?_⟩
  · exact reached.invariant (I := fun pool => pool.memory.InOrder priority) StablySorted.nil
      inOrder_step
  · have current := reached.invariant (I := FramesCurrent) (fun _ => nofun) framesCurrent_step
    exact (current frame member).2.1

/-! ## Updates between the snapshots -/

/-- The steps of one frame are steps of the pool. -/
theorem reaches_of_quiet {pool : PipelinePool Frame Middleware Processor} {index : Nat}
    {task task' : FrameTask Frame Middleware Processor}
    (found : pool.tasks[index]? = some (.frame task))
    (quiet : Relation.ReflTransGen (FrameTask.QuietStep pool.memory) task task') :
    (pipelineMachine priority).Reaches System.always pool
      ⟨pool.memory, pool.tasks.set index (.frame task')⟩ := by
  obtain ⟨inRange, here⟩ := List.getElem?_eq_some_iff.mp found
  induction quiet with
  | refl =>
      rw [← here, List.set_getElem_self]
  | @tail earlier later _ step inductionHypothesis =>
      refine inductionHypothesis.tail ⟨.advance index (.ok none), trivial, ?_⟩
      have stepped : earlier.advance pool.memory (.ok none) = some later := step
      simp only [Machine.system, Machine.step, List.getElem?_set_self inRange, pipelineMachine,
        stepped, Option.map_some, List.set_set]

/-- **Every update that comes between the snapshots of a frame may leave it unpaired.** -/
theorem unpaired_reachable {pool : PipelinePool Frame Middleware Processor}
    {move : Move (PipelineCall Frame Middleware Processor) (Result (Option Frame)) Empty}
    (reached : (pipelineMachine priority).Reaches (SparesSnapshots priority) emptyPool pool)
    (disturbs : ¬SparesSnapshots priority pool move) :
    ∃ later, (pipelineMachine priority).Reaches System.always pool later ∧
      ∃ frame, .frame frame ∈ later.tasks ∧ ¬frame.Paired := by
  have current := reached.invariant (I := FramesCurrent) (fun _ => nofun) framesCurrent_step
  match move with
  | .call _ => exact absurd trivial disturbs
  | .environment _ => exact absurd trivial disturbs
  | .advance index answer =>
      simp only [SparesSnapshots, not_forall, not_or] at disturbs
      obtain ⟨update, found, changed, frame, member, taken⟩ := disturbs
      obtain ⟨started, -, isCurrent⟩ := current frame member
      obtain ⟨list, snapshotEq⟩ := Option.ne_none_iff_exists'.mp taken
      obtain rfl := isCurrent list snapshotEq
      let after : PipelinePool Frame Middleware Processor :=
        ⟨pool.memory.update priority update, pool.tasks.set index .updated⟩
      have updated : (pipelineMachine priority).Allowed System.always pool after := by
        refine ⟨.advance index answer, trivial, ?_⟩
        simp only [Machine.system, Machine.step, found, pipelineMachine, after]
      obtain ⟨position, there⟩ := List.mem_iff_getElem?.mp member
      have elsewhere : index ≠ position := by
        rintro rfl
        cases found.symm.trans there
      have still : after.tasks[position]? = some (.frame frame) := by
        rw [List.getElem?_set_ne elsewhere, there]
      obtain ⟨frame', quiet, pairedIff⟩ := frame.exists_quiet started snapshotEq
      refine ⟨_, .head updated (reaches_of_quiet still quiet), frame', ?_, ?_⟩
      · exact List.mem_set (List.getElem?_eq_some_iff.mp still).1 _
      · exact fun paired => changed (pairedIff.mp paired)

/-- A middleware is added while a frame is at the `before` of another one. -/
theorem late_middleware_runs_after :
    ∃ pool : PipelinePool Unit Nat Unit,
      (pipelineMachine fun _ => 100).Reaches System.always emptyPool pool ∧
        ∃ frame, .frame frame ∈ pool.tasks ∧ frame.stage = .finished none ∧
          frame.beforeRan = [1] ∧ frame.afterRan = [1, 2] ∧ ¬frame.Paired := by
  let moves : List (Move (PipelineCall Unit Nat Unit) (Result (Option Unit)) Empty) :=
    [.call (.update (.addMiddleware 1)), .advance 0 (.ok none),
      .call (.processFrame () (some "conn-1")), .advance 1 (.ok none),
      .call (.update (.addMiddleware 2)), .advance 2 (.ok none)] ++
      List.replicate 7 (.advance 1 (.ok none))
  let frame : FrameTask Unit Nat Unit := ⟨(), some "conn-1", .finished none, [1], [1, 2]⟩
  have evaluated : (pipelineMachine fun _ => 100).run emptyPool moves =
      some ⟨⟨[1, 2], [], [1, 2]⟩, [.updated, .frame frame, .updated]⟩ := rfl
  have reached := System.reaches_of_run evaluated (System.permits_always ..)
  refine ⟨_, reached, frame, ?_, rfl, rfl, rfl, ?_⟩
  · exact .tail _ (.head _)
  · decide

end Pipeline

end FlareCore.Common
