import FlareCore.Server.Admission
import FlareCore.Server.Lifetime

/-!
# The order of the handlers of a connection

The frames of a connection pass through one queue and one consumer, which awaits the handlers
of payloads and notifications.  A custom command is handed to a task of its own, and the
consumer goes on at once.

A history numbers the arrivals and remembers for each frame in a queue, each task and each
callback which arrival it comes from.  The handlers of a connection start in the order of the
arrivals in every run in which no handler is started while the task of an earlier custom
command of the connection still waits to be run (`handlers_in_order_of_arrival`).
-/

namespace FlareCore.Server

open FlareCore.Common FlareCore.Foundations

set_option autoImplicit false

/-! ## Frames, tasks and callbacks -/

/-- The frames of the commands whose handlers are to start in order. -/
def isCommandFrame (frame : Frame) : Bool :=
  match frame.commandType with
  | some (.payload _) | some (.notification _) | some (.custom _) => true
  | some (.system _) | none => false

/-- The frames whose handlers `handle_frame` awaits. -/
def isAwaitedFrame (frame : Frame) : Bool :=
  match frame.commandType with
  | some (.payload command) => isHandledPayload command
  | some (.notification _) => true
  | some (.system _) | some (.custom _) | none => false

/-- The callback is the handler of a payload, a notification or a custom command. -/
def Callback.isCommand (id : String) : Callback → Bool
  | .handle other frame _ => other = id && isCommandFrame frame
  | .onConnect _ | .onDisconnect _ | .onError _ => false

/-- The task will call the handler of a custom command. -/
def Job.isCustom (id : String) : Job → Bool
  | .customCommand other _ _ => other = id
  | _ => false

/-- The tasks that never call the handler of a command. -/
def Job.Bystands : Job → Prop
  | .customCommand _ _ _ => False
  | .systemEvent _ frame _ => isCommandFrame frame = false
  | _ => True

/-- The consumer has a frame in hand. -/
def Consumer.isBusy : Consumer → Bool
  | .receive => false
  | _ => true

/-- What a consumer may add to the tasks and to the callbacks: the handler of a command that is
awaited, the task of a custom command, or nothing that concerns commands. -/
inductive Consumer.Contributes (own : String) : Consumer → List Job → List Callback → Prop
  | handler {frame : Frame} {received : Option Bool} {jobs : List Job}
      (awaited : isAwaitedFrame frame = true) (others : ∀ job ∈ jobs, job.Bystands) :
      Contributes own (.handling frame received) jobs [.handle own frame received]
  | task {frame : Frame} {received : Option Bool} :
      Contributes own (.handling frame received) [.customCommand own frame received] []
  | other {consumer : Consumer} {jobs : List Job} {callbacks : List Callback}
      (others : ∀ job ∈ jobs, job.Bystands)
      (silent : ∀ callback ∈ callbacks, ∀ id, callback.isCommand id = false) :
      Contributes own consumer jobs callbacks

/-- What a task may add: only that of a custom command calls a command handler. -/
inductive Job.Contributes : Job → List Job → List Callback → Prop
  | handler {id : String} {frame : Frame} {received : Option Bool} {jobs : List Job}
      (others : ∀ job ∈ jobs, job.Bystands) :
      Contributes (.customCommand id frame received) jobs [.handle id frame received]
  | other {job : Job} {jobs : List Job} {callbacks : List Callback}
      (others : ∀ job ∈ jobs, job.Bystands)
      (silent : ∀ callback ∈ callbacks, ∀ id, callback.isCommand id = false) :
      Contributes job jobs callbacks

theorem Job.Bystands.isCustom {job : Job} (bystands : job.Bystands) (id : String) :
    job.isCustom id = false := by
  cases job with
  | customCommand other frame received => exact bystands.elim
  | _ => rfl

/-! ## Origins -/

/-- The numbers of the entries that satisfy a test. -/
def origins {α : Type} (test : α → Bool) (entries : List (α × Nat)) : List Nat :=
  (entries.filter fun entry => test entry.1).map Prod.snd

/-- A list that has grown at its end: what is new comes from `origin`. -/
def noted {α : Type} (entries : List (α × Nat)) (now : List α) (origin : Nat) : List (α × Nat) :=
  entries ++ (now.drop entries.length).map fun item => (item, origin)

section Origins

variable {α : Type} {test : α → Bool} {entries : List (α × Nat)} {kept more : List α} {origin : Nat}

theorem noted_eq (same : entries.map Prod.fst = kept) :
    noted entries (kept ++ more) origin = entries ++ more.map fun item => (item, origin) := by
  have length : entries.length = kept.length := by rw [← same, List.length_map]
  rw [noted, length, List.drop_left]

theorem map_noted (same : entries.map Prod.fst = kept) :
    (noted entries (kept ++ more) origin).map Prod.fst = kept ++ more := by
  rw [noted_eq same, List.map_append, same, List.map_map]
  exact congrArg (kept ++ ·) (List.map_id more)

theorem origins_append (earlier later : List (α × Nat)) :
    origins test (earlier ++ later) = origins test earlier ++ origins test later := by
  rw [origins, List.filter_append, List.map_append, origins, origins]

theorem origins_eq_nil (quiet : ∀ item ∈ entries.map Prod.fst, test item = false) :
    origins test entries = [] := by
  rw [origins, List.map_eq_nil_iff, List.filter_eq_nil_iff]
  intro entry member
  simp [quiet entry.1 (List.mem_map_of_mem member)]

/-- What the test ignores leaves the numbers alone. -/
theorem origins_noted_of_quiet (same : entries.map Prod.fst = kept)
    (quiet : ∀ item ∈ more, test item = false) :
    origins test (noted entries (kept ++ more) origin) = origins test entries := by
  have nothing : origins test (more.map fun item => (item, origin)) = [] := by
    refine origins_eq_nil ?_
    intro item member
    rw [List.map_map] at member
    exact quiet item (by simpa using member)
  rw [noted_eq same, origins_append, nothing, List.append_nil]

/-- A single new item adds its origin at most. -/
theorem origins_noted_singleton {item : α} (same : entries.map Prod.fst = kept) :
    origins test (noted entries (kept ++ [item]) origin) =
      origins test entries ++ if test item then [origin] else [] := by
  rw [noted_eq same, origins_append]
  cases found : test item <;> simp [origins, found]

theorem map_eraseIdx (index : Nat) :
    (entries.eraseIdx index).map Prod.fst = (entries.map Prod.fst).eraseIdx index := by
  rw [List.eraseIdx_eq_take_drop_succ, List.eraseIdx_eq_take_drop_succ, List.map_append,
    List.map_take, List.map_drop]

theorem origins_eraseIdx_sublist (index : Nat) :
    (origins test (entries.eraseIdx index)).Sublist (origins test entries) :=
  ((List.eraseIdx_sublist entries index).filter _).map _

/-- The first entry that satisfies the test has the first of the numbers. -/
theorem origins_eq_cons {index number : Nat} {item : α}
    (entry : entries[index]? = some (item, number)) (accepted : test item = true)
    (first : ((entries.map Prod.fst).take index).any test = false) :
    origins test entries = number :: origins test (entries.eraseIdx index) := by
  obtain ⟨bound, found⟩ := List.getElem?_eq_some_iff.mp entry
  have none : origins test (entries.take index) = [] := by
    refine origins_eq_nil ?_
    intro earlier member
    rw [List.map_take] at member
    exact Bool.eq_false_iff.mpr (List.any_eq_false.mp first earlier member)
  have split : entries = entries.take index ++ (item, number) :: entries.drop (index + 1) := by
    rw [← found, List.getElem_cons_drop, List.take_append_drop]
  rw [List.eraseIdx_eq_take_drop_succ, origins_append, none, List.nil_append]
  conv_lhs => rw [split, origins_append, none, List.nil_append]
  simp [origins, accepted]

end Origins

/-- The history of a server.  Arrivals are numbered from zero; `current` is the number of the
frame that the consumer of a connection has taken up last. -/
structure History where
  arrivals : Nat
  inbound : String → List Nat
  current : String → Nat
  jobs : List (Job × Nat)
  callbacks : List (Callback × Nat)

def History.initial : History := ⟨0, fun _ => [], fun _ => 0, [], []⟩

section Ordering

variable [Hashing]

/-- The consumer of the connection waits for a frame. -/
def Runtime.isIdle (state : Runtime) (id : String) : Bool :=
  (state.consumers id).all fun consumer => !consumer.isBusy

namespace History

variable (history : History)

/-- The arrival on whose behalf a step is made. -/
def origin (state : Runtime) : Move → Nat
  | .consume id _ =>
      if state.isIdle id then (history.inbound id).headD 0 else history.current id
  | .work index _ => (history.jobs[index]?).elim 0 Prod.snd
  | _ => 0

/-- The tasks that are still there after a step. -/
def kept : Move → List (Job × Nat)
  | .work index _ => history.jobs.eraseIdx index
  | _ => history.jobs

/-- The queues: a frame that finds its queue full is dropped. -/
def queued (state : Runtime) : Move → String → List Nat
  | .arrive id _ =>
      if inboundQueueCapacity ≤ (state.world.inbound id).length then history.inbound
      else Function.update history.inbound id (history.inbound id ++ [history.arrivals])
  | .consume id _ =>
      if state.isIdle id then Function.update history.inbound id (history.inbound id).tail
      else history.inbound
  | _ => history.inbound

def arrived : Move → Nat
  | .arrive _ _ => history.arrivals + 1
  | _ => history.arrivals

def taken (state : Runtime) : Move → String → Nat
  | .consume id answer =>
      Function.update history.current id (history.origin state (.consume id answer))
  | _ => history.current

/-- The history after a step. -/
def record (before : Runtime) (move : Move) (after : Runtime) (history : History) : History where
  arrivals := history.arrived move
  inbound := history.queued before move
  current := history.taken before move
  jobs := noted (history.kept move) after.world.jobs (history.origin before move)
  callbacks := noted history.callbacks after.world.callbacks (history.origin before move)

/-- The arrivals for which a command handler of the connection was called, in the order of the
calls. -/
def handled (id : String) : List Nat :=
  Server.origins (Callback.isCommand id) history.callbacks

/-- The arrivals whose custom commands wait to be run. -/
def waiting (id : String) : List Nat :=
  Server.origins (Job.isCustom id) history.jobs

/-- The arrival that the consumer has in hand. -/
def inHand (state : Runtime) (id : String) : List Nat :=
  if state.isIdle id then [] else [history.current id]

/-- All the arrivals of a connection that are remembered, in the order in which they are to be
handled. -/
def trail (state : Runtime) (id : String) : List Nat :=
  history.handled id ++ (history.waiting id ++ (history.inHand state id ++ history.inbound id))

variable {history} in
/-- The front of a trail may shrink, and so may its rear. -/
theorem trail_sublist {history' : History} {state state' : Runtime} {id : String}
    (front : (history'.handled id ++ history'.waiting id).Sublist
      (history.handled id ++ history.waiting id))
    (rear : (history'.inHand state' id ++ history'.inbound id).Sublist
      (history.inHand state id ++ history.inbound id)) :
    (history'.trail state' id).Sublist (history.trail state id) := by
  simpa only [trail, List.append_assoc] using front.append rear

end History

/-! ## Steps -/

section Steps

variable [RustText] (setting : Setting) (world : World) (answer : Answer)

theorem Job.contributes_perform {job : Job}
    (event : ∀ id frame received, job = .systemEvent id frame received →
      isCommandFrame frame = false) :
    ∃ jobs callbacks, job.Contributes jobs callbacks ∧
      (job.perform setting.registries setting.stamps setting.enumeration world answer).jobs =
        world.jobs ++ jobs ∧
      (job.perform setting.registries setting.stamps setting.enumeration world answer).callbacks =
        world.callbacks ++ callbacks ∧
      (job.perform setting.registries setting.stamps setting.enumeration world answer).inbound =
        world.inbound := by
  have nothing : ∀ list : List Job, list = list ++ [] := fun list => (List.append_nil list).symm
  have silent : world.callbacks = world.callbacks ++ [] := (List.append_nil _).symm
  cases job with
  | systemCommand owner frame received =>
      simp only [perform, World.handleSystemCommand]
      have system : ∀ kind, ((Server.systemCommand frame).bind fun command =>
          SystemType.ofInt32 command.type) = some kind → isCommandFrame frame = false := by
        intro kind found
        unfold Server.systemCommand at found
        unfold isCommandFrame
        split at found
        · next command is => rw [is]
        · cases found
      split
      · next found =>
          refine ⟨_, _, .other ?_ ?_, rfl, rfl, rfl⟩
          · simp [Bystands, sendFrameToJob]
          · simp [Callback.isCommand, system _ found]
      · next found =>
          refine ⟨_, _, .other ?_ ?_, rfl, rfl, rfl⟩
          · simp [Bystands]
          · simp [Callback.isCommand, system _ found]
      · next found =>
          refine ⟨_, [], .other ?_ (by simp), rfl, silent, rfl⟩
          simp [Bystands, system _ found]
      · refine ⟨_, [], .other ?_ (by simp), rfl, silent, rfl⟩
        simp [Bystands]
      · exact ⟨[], [], .other (by simp) (by simp), nothing _, silent, rfl⟩
  | systemEvent owner frame received =>
      refine ⟨_, _, .other ?_ ?_, rfl, rfl, rfl⟩
      · simp [Bystands, sendFrameToJob]
      · simp [Callback.isCommand, event owner frame received rfl]
  | customCommand owner frame received =>
      refine ⟨_, _, .handler ?_, List.append_assoc .., rfl, rfl⟩
      simp [Bystands, sendFrameToJob]
  | read reads fanout =>
      cases reads <;> exact ⟨_, [], .other (by simp [Bystands]) (by simp), rfl, silent, rfl⟩
  | deliver fanout =>
      simp only [perform, World.deliver]
      split <;> exact ⟨_, [], .other (by simp [Bystands]) (by simp), rfl, silent, rfl⟩
  | activate now groups =>
      cases groups with
      | nil => exact ⟨[], [], .other (by simp) (by simp), nothing _, silent, rfl⟩
      | cons group groups => exact ⟨_, [], .other (by simp [Bystands]) (by simp), rfl, silent, rfl⟩
  | readUser owner fanout | removeDisconnected owner | scan timeout | forceClose =>
      exact ⟨_, [], .other (by simp [Bystands]) (by simp), rfl, silent, rfl⟩
  | transportError owner | disconnected owner =>
      exact ⟨_, _, .other (by simp [Bystands]) (by simp [Callback.isCommand]), rfl, rfl, rfl⟩
  | _ => exact ⟨[], [], .other (by simp) (by simp), nothing _, silent, rfl⟩

theorem World.contributes_consume (own : String) (consumer : Consumer) :
    ∃ jobs callbacks, consumer.Contributes own jobs callbacks ∧
      (world.consume setting own answer consumer).1.jobs = world.jobs ++ jobs ∧
      (world.consume setting own answer consumer).1.callbacks = world.callbacks ++ callbacks ∧
      (consumer.isBusy = true →
        (world.consume setting own answer consumer).1.inbound = world.inbound) := by
  have nothing : ∀ next : World, next.jobs = world.jobs → next.callbacks = world.callbacks →
      (consumer.isBusy = true → next.inbound = world.inbound) →
      ∃ jobs callbacks, consumer.Contributes own jobs callbacks ∧ next.jobs = world.jobs ++ jobs ∧
        next.callbacks = world.callbacks ++ callbacks ∧
        (consumer.isBusy = true → next.inbound = world.inbound) := by
    intro next sameJobs sameCallbacks sameInbound
    refine ⟨[], [], .other (by simp) (by simp), ?_, ?_, sameInbound⟩
    · rw [sameJobs, List.append_nil]
    · rw [sameCallbacks, List.append_nil]
  have explained : ∀ encoded : Result Wire, (world.explain own encoded).jobs = world.jobs ∧
      (world.explain own encoded).callbacks = world.callbacks ∧
      (world.explain own encoded).inbound = world.inbound := by
    intro encoded
    cases encoded <;> exact ⟨rfl, rfl, rfl⟩
  cases consumer with
  | receive =>
      simp only [consume, takeUp]
      split
      · exact nothing _ rfl rfl Bool.noConfusion
      · split_ifs <;> exact nothing _ rfl rfl Bool.noConfusion
  | negotiated data info received =>
      simp only [consume, handleNegotiatedMessage]
      split_ifs
      · exact nothing _ rfl rfl fun _ => rfl
      · split <;> exact nothing _ rfl rfl fun _ => rfl
  | handling frame received =>
      simp only [consume, handleFrame]
      split
      · split_ifs
        · exact nothing _ rfl rfl fun _ => rfl
        · refine ⟨_, [], .other ?_ (by simp), rfl, (List.append_nil _).symm, fun _ => rfl⟩
          simp [Job.Bystands]
      · next command is =>
          split_ifs with handled
          · refine ⟨_, _, .handler ?_ ?_, rfl, rfl, fun _ => rfl⟩
            · rw [isAwaitedFrame, is]
              exact handled
            · simp [Job.Bystands, sendFrameToJob]
          · exact nothing _ rfl rfl fun _ => rfl
      · next is =>
          refine ⟨_, _, .handler ?_ ?_, rfl, rfl, fun _ => rfl⟩
          · rw [isAwaitedFrame, is]
          · simp [Job.Bystands, sendFrameToJob]
      · exact ⟨_, [], .task, rfl, (List.append_nil _).symm, fun _ => rfl⟩
      · exact nothing _ rfl rfl fun _ => rfl
  | registering acceptance =>
      simp only [consume, register]
      split <;> exact nothing _ rfl rfl fun _ => rfl
  | kicking conflict victims =>
      cases victims with
      | nil => exact nothing _ rfl rfl fun _ => rfl
      | cons victim victims =>
          simp only [consume, kick]
          split_ifs
          · exact nothing _ rfl rfl fun _ => rfl
          · split
            · exact nothing _ rfl rfl fun _ => rfl
            · split <;> exact nothing _ rfl rfl fun _ => rfl
  | acknowledging profile conflicts =>
      simp only [consume, acknowledge]
      split <;> exact nothing _ rfl rfl fun _ => rfl
  | notifying profile =>
      refine ⟨[], _, .other (by simp) ?_, (List.append_nil _).symm, rfl, fun _ => rfl⟩
      simp [Callback.isCommand]
  | rejectingLate profile error =>
      simp only [consume, rejectAfterAck]
      exact nothing _ (explained _).1 (explained _).2.1 fun _ => (explained _).2.2
  | rejecting error =>
      simp only [consume, rejectConnect]
      split
      · exact nothing _ rfl rfl fun _ => rfl
      · exact nothing _ (explained _).1 (explained _).2.1 fun _ => (explained _).2.2
  | _ => exact nothing _ rfl rfl fun _ => rfl

theorem World.inbound_takeUp (own : String) :
    (world.takeUp setting own).1.inbound =
      Function.update world.inbound own (world.inbound own).tail := by
  unfold takeUp
  split
  · next empty => rw [empty, List.tail_nil, ← empty, Function.update_eq_self]
  · next data rest queue =>
      rw [queue, List.tail_cons]
      dsimp only
      split_ifs <;> rfl

/-- A consumer that waits gets a frame in hand only from its queue. -/
theorem World.inbound_ne_nil_of_isBusy {own : String}
    (busy : (world.consume setting own answer .receive).2.isBusy = true) :
    world.inbound own ≠ [] := by
  intro empty
  simp only [consume, takeUp, empty, Consumer.isBusy] at busy
  cases busy

end Steps

section Runtime

variable [RustText] {setting : Setting}

/-- Neither a consumer nor a task. -/
def Move.isOutside : Move → Bool
  | .consume _ _ | .work _ _ => false
  | _ => true

namespace Runtime

variable {state state' : Runtime} {move : Move}

/-- What the other moves contribute. -/
theorem contributes_outside (outside : move.isOutside = true)
    (stepped : state.step setting move = some state') :
    (∃ jobs, (∀ job ∈ jobs, job.Bystands) ∧ state'.world.jobs = state.world.jobs ++ jobs) ∧
      state'.world.callbacks = state.world.callbacks ∧
      ∀ id, state'.isIdle id = state.isIdle id := by
  cases move with
  | consume id answer => cases outside
  | work index answer => cases outside
  | accept id connection =>
      simp only [step, accept] at stepped
      split_ifs at stepped with taken
      split at stepped
      · obtain rfl := Option.some.inj stepped
        refine ⟨⟨[], by simp, (List.append_nil _).symm⟩, rfl, ?_⟩
        intro other
        by_cases same : other = id
        · subst same
          rw [Option.not_isSome_iff_eq_none] at taken
          simp [isIdle, taken, Consumer.isBusy]
        · simp [isIdle, Function.update_of_ne same]
      · obtain rfl := Option.some.inj stepped
        exact ⟨⟨[], by simp, (List.append_nil _).symm⟩, rfl, fun _ => rfl⟩
  | flush handle succeeds =>
      rcases flush_cases stepped with ⟨data, manager, -, -, rfl⟩ |
        ⟨data, manager, jobs, -, -, isolates, rfl⟩
      · exact ⟨⟨[], by simp, (List.append_nil _).symm⟩, rfl, fun _ => rfl⟩
      · refine ⟨⟨jobs, ?_, rfl⟩, rfl, fun _ => rfl⟩
        intro job member
        rw [isolates job member]
        trivial
  | _ =>
      obtain ⟨inbound, clock, frames, jobs, written, rfl, started, -⟩ := outer_cases rfl stepped
      refine ⟨⟨jobs, ?_, rfl⟩, rfl, fun _ => rfl⟩
      intro job member
      rcases started job member with ⟨id, rfl | rfl⟩ | ⟨call, stamp, called⟩
      · trivial
      · trivial
      · cases call <;> simp only [ServerCall.jobs, List.mem_cons, List.not_mem_nil, or_false]
          at called
        all_goals first
          | subst called; trivial
          | rcases called with rfl | rfl <;> trivial

/-- What they do to the inbound queues and to their history: a frame joins one of the queues, if
that is not full. -/
theorem inbound_outside (outside : move.isOutside = true)
    (stepped : state.step setting move = some state') (history : History) :
    state'.world.inbound = state.world.inbound ∧ history.queued state move = history.inbound ∨
      ∃ own data, move = .arrive own data ∧
        state'.world.inbound = Function.update state.world.inbound own
          (state.world.inbound own ++ [data]) ∧
        history.queued state move = Function.update history.inbound own
          (history.inbound own ++ [history.arrivals]) := by
  cases move with
  | consume id answer => cases outside
  | work index answer => cases outside
  | accept id connection =>
      simp only [step, accept] at stepped
      split_ifs at stepped
      split at stepped
      all_goals
        obtain rfl := Option.some.inj stepped
        exact Or.inl ⟨rfl, rfl⟩
  | flush handle succeeds =>
      rcases flush_cases stepped with ⟨data, manager, -, -, rfl⟩ |
        ⟨data, manager, jobs, -, -, -, rfl⟩ <;> exact Or.inl ⟨rfl, rfl⟩
  | arrive own data =>
      simp only [step, arrive] at stepped
      split_ifs at stepped with known full
      · obtain rfl := Option.some.inj stepped
        exact Or.inl ⟨rfl, if_pos full⟩
      · obtain rfl := Option.some.inj stepped
        exact Or.inr ⟨own, data, rfl, rfl, if_neg full⟩
  | websocketPing id | closed id errored =>
      simp only [step] at stepped
      split_ifs at stepped
      all_goals
        obtain rfl := Option.some.inj stepped
        exact Or.inl ⟨rfl, rfl⟩
  | call call | tick duration =>
      obtain rfl := Option.some.inj stepped
      exact Or.inl ⟨rfl, rfl⟩

/-- A step starts the handler of a command while the task of an earlier custom command of the
connection waits to be run. -/
def overtakes (state : Runtime) : Move → Bool
  | .consume id _ =>
      match state.consumers id with
      | some (.handling frame _) => isAwaitedFrame frame && state.world.jobs.any (Job.isCustom id)
      | _ => false
  | .work index _ =>
      match state.world.jobs[index]? with
      | some (.customCommand id _ _) => (state.world.jobs.take index).any (Job.isCustom id)
      | _ => false
  | _ => false

end Runtime

/-- No handler overtakes the task of an earlier custom command. -/
def NothingOvertaken (state : Runtime) (move : Move) : Prop :=
  state.overtakes move = false

instance (state : Runtime) (move : Move) : Decidable (NothingOvertaken state move) :=
  inferInstanceAs (Decidable (_ = _))

/-! ## The invariant -/

/-- The server together with its history. -/
def recordedServer (setting : Setting) : System (Runtime × History) Move :=
  (serverSystem setting).recording History.record

/-- The history speaks of what is there, and all that is remembered of a connection is in the
order of its arrivals. -/
structure Ordered (state : Runtime) (history : History) : Prop where
  jobs : history.jobs.map Prod.fst = state.world.jobs
  callbacks : history.callbacks.map Prod.fst = state.world.callbacks
  inbound : ∀ id, (history.inbound id).length = (state.world.inbound id).length
  events : ∀ id frame received, Job.systemEvent id frame received ∈ state.world.jobs →
    isCommandFrame frame = false
  increasing : ∀ id, (history.trail state id).Pairwise (· < ·)
  bounded : ∀ id, ∀ number ∈ history.trail state id, number < history.arrivals

namespace Ordered

variable {state state' : Runtime} {history : History} {move : Move}

omit [RustText] in
/-- A step after which less is remembered, or the same. -/
theorem of_sublist {history' : History} (ordered : Ordered state history)
    (jobs : history'.jobs.map Prod.fst = state'.world.jobs)
    (callbacks : history'.callbacks.map Prod.fst = state'.world.callbacks)
    (inbound : ∀ id, (history'.inbound id).length = (state'.world.inbound id).length)
    (events : ∀ id frame received, Job.systemEvent id frame received ∈ state'.world.jobs →
      isCommandFrame frame = false)
    (arrivals : history.arrivals ≤ history'.arrivals)
    (trail : ∀ id, (history'.trail state' id).Sublist (history.trail state id)) :
    Ordered state' history' := by
  refine ⟨jobs, callbacks, inbound, events, ?_, ?_⟩
  · exact fun id => (ordered.increasing id).sublist (trail id)
  · intro id number member
    exact (ordered.bounded id number ((trail id).subset member)).trans_le arrivals

omit [RustText] in
/-- The tasks that a step keeps, and those it adds. -/
theorem events_append (ordered : Ordered state history) {kept more : List Job}
    (keeps : kept.Sublist state.world.jobs)
    (others : ∀ id frame received, Job.systemEvent id frame received ∈ more →
      isCommandFrame frame = false) :
    ∀ id frame received, Job.systemEvent id frame received ∈ kept ++ more →
      isCommandFrame frame = false := by
  intro id frame received member
  rcases List.mem_append.mp member with old | new
  · exact ordered.events id frame received (keeps.subset old)
  · exact others id frame received new

/-- What arrives joins the end of its queue; the other moves outside leave the trails alone. -/
theorem outside (ordered : Ordered state history) (outside : move.isOutside = true)
    (stepped : state.step setting move = some state') :
    Ordered state' (history.record state move state') := by
  obtain ⟨⟨jobs, others, moreJobs⟩, sameCallbacks, idle⟩ :=
    Runtime.contributes_outside outside stepped
  have kept : history.kept move = history.jobs := by
    cases move <;> first | rfl | cases outside
  have current : history.taken state move = history.current := by
    cases move <;> first | rfl | cases outside
  have recordedJobs : (history.record state move state').jobs =
      noted history.jobs (state.world.jobs ++ jobs) (history.origin state move) := by
    rw [History.record, kept, moreJobs]
  have recordedCallbacks : (history.record state move state').callbacks = history.callbacks := by
    rw [History.record, sameCallbacks, ← List.append_nil state.world.callbacks,
      noted_eq ordered.callbacks, List.map_nil, List.append_nil]
  have trail : ∀ id, (history.record state move state').trail state' id =
      history.handled id ++ (history.waiting id ++ (history.inHand state id ++
        history.queued state move id)) := by
    intro id
    rw [History.trail, History.handled, recordedCallbacks, History.waiting, recordedJobs,
      origins_noted_of_quiet ordered.jobs fun job member => (others job member).isCustom id,
      History.inHand, idle]
    simp only [History.record, current]
    rfl
  have jobs_eq : (history.record state move state').jobs.map Prod.fst = state'.world.jobs := by
    rw [recordedJobs, map_noted ordered.jobs, moreJobs]
  have callbacks_eq : (history.record state move state').callbacks.map Prod.fst =
      state'.world.callbacks := by
    rw [recordedCallbacks, ordered.callbacks, sameCallbacks]
  have events : ∀ id frame received, Job.systemEvent id frame received ∈ state'.world.jobs →
      isCommandFrame frame = false := by
    rw [moreJobs]
    exact ordered.events_append (List.Sublist.refl _) fun _ _ _ member => others _ member
  rcases Runtime.inbound_outside outside stepped history with ⟨same, queued⟩ |
    ⟨own, data, rfl, longer, queued⟩
  · have arrivals : history.arrivals ≤ history.arrived move := by
      cases move <;> first | exact le_rfl | exact Nat.le_succ _
    refine ordered.of_sublist jobs_eq callbacks_eq ?_ events arrivals ?_
    · intro id
      rw [same, ← ordered.inbound id, ← queued]
      rfl
    · intro id
      rw [trail, queued]
      exact List.Sublist.refl _
  · have next : ∀ id, (history.record state (.arrive own data) state').trail state' id =
        history.trail state id ++ if id = own then [history.arrivals] else [] := by
      intro id
      rw [trail, queued, Function.update_apply]
      split_ifs with own_id
      · subst own_id
        simp only [History.trail, List.append_assoc]
      · rw [List.append_nil]
        rfl
    refine ⟨jobs_eq, callbacks_eq, ?_, events, ?_, ?_⟩
    · intro id
      simp only [History.record, queued, longer, Function.update_apply]
      split_ifs
      · rw [List.length_append, List.length_append, ordered.inbound own]
        rfl
      · exact ordered.inbound id
    · intro id
      rw [next, List.pairwise_append]
      refine ⟨ordered.increasing id, ?_, ?_⟩
      · split_ifs <;> simp
      · intro earlier member later last
        split_ifs at last
        · rw [List.mem_singleton.mp last]
          exact ordered.bounded id earlier member
        · cases last
    · intro id number member
      rw [next, List.mem_append] at member
      rcases member with earlier | last
      · exact (ordered.bounded id number earlier).trans_le (Nat.le_succ _)
      · split_ifs at last
        · rw [List.mem_singleton.mp last]
          exact Nat.lt_succ_self _
        · cases last

/-- **A task**: the handler of a custom command takes the place of its task at the end of what
has been handled, since no earlier one waits. -/
theorem work (ordered : Ordered state history) {index : Nat} {answer : Answer}
    (orderly : NothingOvertaken state (.work index answer))
    (stepped : state.step setting (.work index answer) = some state') :
    Ordered state' (history.record state (.work index answer) state') := by
  obtain ⟨job, found, rfl⟩ := Option.map_eq_some_iff.mp stepped
  have event : ∀ id frame received, job = .systemEvent id frame received →
      isCommandFrame frame = false := by
    rintro id frame received rfl
    exact ordered.events id frame received (List.mem_of_getElem? found)
  obtain ⟨jobs, callbacks, contributes, moreJobs, moreCallbacks, sameInbound⟩ :=
    Job.contributes_perform setting
      { state.world with jobs := state.world.jobs.eraseIdx index } answer event
  have keptJobs : (history.jobs.eraseIdx index).map Prod.fst = state.world.jobs.eraseIdx index := by
    rw [map_eraseIdx, ordered.jobs]
  obtain ⟨number, entry⟩ : ∃ number, history.jobs[index]? = some (job, number) := by
    rw [← ordered.jobs, List.getElem?_map] at found
    obtain ⟨⟨_, number⟩, entry, rfl⟩ := Option.map_eq_some_iff.mp found
    exact ⟨number, entry⟩
  have origin : history.origin state (.work index answer) = number := by
    rw [History.origin, entry]
    rfl
  have events : ∀ id frame received, Job.systemEvent id frame received ∈
      state.world.jobs.eraseIdx index ++ jobs → isCommandFrame frame = false := by
    refine ordered.events_append (List.eraseIdx_sublist _ _) ?_
    cases contributes with
    | handler others => exact fun _ _ _ member => others _ member
    | other others silent => exact fun _ _ _ member => others _ member
  refine ordered.of_sublist ?_ ?_ ?_ ?_ le_rfl ?_
  · simp only [History.record, History.kept]
    rw [moreJobs, map_noted keptJobs]
  · simp only [History.record]
    rw [moreCallbacks, map_noted ordered.callbacks]
  · intro id
    rw [sameInbound]
    exact ordered.inbound id
  · rw [moreJobs]
    exact events
  · intro id
    have fewer : (origins (Job.isCustom id) (history.jobs.eraseIdx index)).Sublist
        (history.waiting id) := origins_eraseIdx_sublist index
    have front : (origins (Callback.isCommand id) (noted history.callbacks
          (state.world.callbacks ++ callbacks) number) ++
        origins (Job.isCustom id) (noted (history.jobs.eraseIdx index)
          (state.world.jobs.eraseIdx index ++ jobs) number)).Sublist
        (history.handled id ++ history.waiting id) := by
      cases contributes with
      | other others silent =>
          rw [origins_noted_of_quiet ordered.callbacks
              fun callback member => silent callback member id,
            origins_noted_of_quiet keptJobs fun job member => (others job member).isCustom id]
          exact fewer.append_left _
      | @handler own frame received jobs others =>
          rw [origins_noted_singleton ordered.callbacks,
            origins_noted_of_quiet keptJobs fun job member => (others job member).isCustom id]
          by_cases same : own = id
          · subst same
            have first : ((history.jobs.map Prod.fst).take index).any (Job.isCustom own) =
                false := by
              rw [ordered.jobs]
              simpa only [NothingOvertaken, Runtime.overtakes, found] using orderly
            have accepted : (Job.customCommand own frame received).isCustom own = true :=
              decide_eq_true rfl
            rw [History.waiting, origins_eq_cons entry accepted first, List.append_assoc]
            refine List.Sublist.append_left ?_ _
            split_ifs
            · exact List.Sublist.refl _
            · exact List.sublist_cons_self number _
          · have foreign : (Callback.handle own frame received).isCommand id = false := by
              simp [Callback.isCommand, same]
            rw [foreign, if_neg Bool.false_ne_true, List.append_nil]
            exact fewer.append_left _
    refine History.trail_sublist ?_ (List.Sublist.refl _)
    simp only [History.handled, History.waiting, History.record, History.kept]
    rw [moreJobs, moreCallbacks, origin]
    exact front

omit [RustText] in
/-- Whose consumer is idle. -/
theorem isIdle_eq {id : String} {consumer : Consumer} (found : state.consumers id = some consumer) :
    state.isIdle id = !consumer.isBusy := by
  rw [Runtime.isIdle, found, Option.all_some]

/-- What the consumer has in hand was in hand before, or at the head of its queue. -/
theorem rear_consume (ordered : Ordered state history) {own : String} {answer : Answer}
    (stepped : state.step setting (.consume own answer) = some state') (id : String) :
    ((history.record state (.consume own answer) state').inHand state' id ++
        (history.record state (.consume own answer) state').inbound id).Sublist
      (history.inHand state id ++ history.inbound id) := by
  obtain ⟨consumer, found, after⟩ := Option.map_eq_some_iff.mp stepped
  have consumers : state'.consumers = Function.update state.consumers own
      (some (state.world.consume setting own answer consumer).2) := by rw [← after]
  have inbound : (history.record state (.consume own answer) state').inbound =
      if state.isIdle own then Function.update history.inbound own (history.inbound own).tail
      else history.inbound := rfl
  have current : (history.record state (.consume own answer) state').current =
      Function.update history.current own
        (if state.isIdle own then (history.inbound own).headD 0 else history.current own) := rfl
  rw [History.inHand, History.inHand, inbound, current, isIdle_eq found]
  by_cases same : id = own
  · subst same
    rw [isIdle_eq found, isIdle_eq (by rw [consumers, Function.update_self]), Function.update_self]
    cases busy : consumer.isBusy with
    | true =>
        simp only [Bool.not_true, Bool.false_eq_true, if_false]
        split_ifs
        · exact (List.nil_sublist _).append (List.Sublist.refl _)
        · exact List.Sublist.refl _
    | false =>
        obtain rfl : consumer = .receive := by
          cases consumer <;> first | rfl | cases busy
        simp only [Bool.not_false, if_true, Function.update_self, List.nil_append]
        split_ifs with waits
        · exact List.tail_sublist _
        · have nonempty : history.inbound id ≠ [] := by
            intro empty
            have length := ordered.inbound id
            rw [empty, List.length_nil] at length
            refine World.inbound_ne_nil_of_isBusy setting state.world answer ?_
              (List.length_eq_zero_iff.mp length.symm)
            simpa using waits
          obtain ⟨first, rest, queue⟩ := List.exists_cons_of_ne_nil nonempty
          rw [queue]
          exact List.Sublist.refl _
  · have idle : state'.isIdle id = state.isIdle id := by
      rw [Runtime.isIdle, consumers, Function.update_of_ne same, Runtime.isIdle]
    rw [idle, Function.update_of_ne same]
    refine List.Sublist.append (List.Sublist.refl _) ?_
    split_ifs
    · rw [Function.update_of_ne same]
    · exact List.Sublist.refl _

omit [RustText] in
/-- The trails around the handling of a frame: it is in hand before, and no longer after. -/
theorem trail_handling {own : String} {frame : Frame} {received : Option Bool}
    (history : History) (answer : Answer) (found : state.consumers own = some (.handling frame received))
    (after : state'.consumers own = some .receive) :
    history.origin state (.consume own answer) = history.current own ∧
      history.trail state own = history.handled own ++
        (history.waiting own ++ history.current own :: history.inbound own) ∧
      (history.record state (.consume own answer) state').trail state' own =
        (history.record state (.consume own answer) state').handled own ++
          ((history.record state (.consume own answer) state').waiting own ++
            history.inbound own) := by
  have busy : state.isIdle own = false := isIdle_eq found
  have idle : state'.isIdle own = true := isIdle_eq after
  have inbound : (history.record state (.consume own answer) state').inbound = history.inbound := by
    simp only [History.record, History.queued, busy, Bool.false_eq_true, if_false]
  refine ⟨?_, ?_, ?_⟩
  · simp only [History.origin, busy, Bool.false_eq_true, if_false]
  · simp only [History.trail, History.inHand, busy, Bool.false_eq_true, if_false,
      List.singleton_append]
  · rw [History.trail, History.inHand, idle, if_pos rfl, List.nil_append, inbound]

/-- **A consumer**: the frame in hand takes its place at the end of what has been handled, since
no custom command waits, or becomes the last custom command that waits. -/
theorem consume (ordered : Ordered state history) {own : String} {answer : Answer}
    (orderly : NothingOvertaken state (.consume own answer))
    (stepped : state.step setting (.consume own answer) = some state') :
    Ordered state' (history.record state (.consume own answer) state') := by
  obtain ⟨consumer, found, after⟩ := Option.map_eq_some_iff.mp stepped
  obtain ⟨jobs, callbacks, contributes, moreJobs, moreCallbacks, sameInbound⟩ :=
    World.contributes_consume setting state.world answer own consumer
  have world : state'.world = (state.world.consume setting own answer consumer).1 := by
    rw [← after]
  have consumers : state'.consumers own =
      some (state.world.consume setting own answer consumer).2 := by
    rw [← after]
    exact Function.update_self ..
  rw [← world] at moreJobs moreCallbacks sameInbound
  have idle := isIdle_eq found
  have events : ∀ id frame received, Job.systemEvent id frame received ∈
      state.world.jobs ++ jobs → isCommandFrame frame = false := by
    refine ordered.events_append (List.Sublist.refl _) ?_
    intro id frame received member
    cases contributes with
    | handler awaited others => exact others _ member
    | task =>
        rw [List.mem_singleton] at member
        cases member
    | other others silent => exact others _ member
  refine ordered.of_sublist ?_ ?_ ?_ ?_ le_rfl ?_
  · simp only [History.record, History.kept]
    rw [moreJobs, map_noted ordered.jobs]
  · simp only [History.record]
    rw [moreCallbacks, map_noted ordered.callbacks]
  · intro id
    simp only [History.record, History.queued, idle]
    cases busy : consumer.isBusy with
    | true =>
        rw [sameInbound busy]
        exact ordered.inbound id
    | false =>
        obtain rfl : consumer = .receive := by
          cases consumer <;> first | rfl | cases busy
        rw [world, World.consume, World.inbound_takeUp]
        simp only [Bool.not_false, if_true, Function.update_apply]
        split_ifs
        · rw [List.length_tail, List.length_tail, ordered.inbound own]
        · exact ordered.inbound id
  · rw [moreJobs]
    exact events
  · intro id
    have unconcerned : (∀ job ∈ jobs, job.isCustom id = false) →
        (∀ callback ∈ callbacks, callback.isCommand id = false) →
        (history.record state (.consume own answer) state').handled id ++
          (history.record state (.consume own answer) state').waiting id =
        history.handled id ++ history.waiting id := by
      intro others silent
      simp only [History.handled, History.waiting, History.record, History.kept]
      rw [moreJobs, moreCallbacks, origins_noted_of_quiet ordered.callbacks silent,
        origins_noted_of_quiet ordered.jobs others]
    have rear := ordered.rear_consume stepped id
    cases contributes with
    | other others silent =>
        refine History.trail_sublist ?_ rear
        rw [unconcerned (fun job member => (others job member).isCustom id)
          fun callback member => silent callback member id]
    | @handler frame received jobs awaited others =>
        by_cases same : id = own
        · subst same
          have none : history.waiting id = [] := by
            refine origins_eq_nil ?_
            rw [ordered.jobs]
            have idleJobs : (isAwaitedFrame frame && state.world.jobs.any (Job.isCustom id)) =
                false := by
              simpa only [NothingOvertaken, Runtime.overtakes, found] using orderly
            rw [awaited, Bool.true_and] at idleJobs
            exact fun job member => Bool.eq_false_iff.mpr (List.any_eq_false.mp idleJobs job member)
          obtain ⟨origin, before, next⟩ := trail_handling history answer found consumers
          rw [before, next, none, List.nil_append]
          simp only [History.handled, History.waiting, History.record, History.kept]
          rw [moreJobs, moreCallbacks, origin, origins_noted_singleton ordered.callbacks,
            origins_noted_of_quiet ordered.jobs fun job member => (others job member).isCustom id]
          rw [show origins (Job.isCustom id) history.jobs = [] from none, List.nil_append,
            List.append_assoc]
          refine List.Sublist.append_left ?_ _
          split_ifs
          · exact List.Sublist.refl _
          · exact List.sublist_cons_self _ _
        · refine History.trail_sublist ?_ rear
          rw [unconcerned (fun job member => (others job member).isCustom id) ?_]
          intro callback member
          rw [List.mem_singleton.mp member]
          simp [Callback.isCommand, Ne.symm same]
    | @task frame received =>
        by_cases same : id = own
        · subst same
          obtain ⟨origin, before, next⟩ := trail_handling history answer found consumers
          have accepted : (Job.customCommand id frame received).isCustom id = true :=
            decide_eq_true rfl
          rw [before, next]
          simp only [History.handled, History.waiting, History.record, History.kept]
          rw [moreJobs, moreCallbacks, origin, origins_noted_singleton ordered.jobs, accepted,
            if_pos rfl, origins_noted_of_quiet ordered.callbacks (by simp), List.append_assoc,
            List.singleton_append]
        · refine History.trail_sublist ?_ rear
          rw [unconcerned ?_ (by simp)]
          intro job member
          rw [List.mem_singleton.mp member]
          simp [Job.isCustom, Ne.symm same]

/-- **A step that lets nothing be overtaken keeps the order.** -/
theorem step (ordered : Ordered state history) (orderly : NothingOvertaken state move)
    (stepped : state.step setting move = some state') :
    Ordered state' (history.record state move state') := by
  cases move with
  | consume id answer => exact ordered.consume orderly stepped
  | work index answer => exact ordered.work orderly stepped
  | _ => exact ordered.outside rfl stepped

omit [RustText] in
theorem initial (writeQueueCapacity : Nat) (devices : Option DeviceManager) (clock : Instant) :
    Ordered (.initial writeQueueCapacity devices clock) .initial where
  jobs := rfl
  callbacks := rfl
  inbound _ := rfl
  events := by simp [Runtime.initial]
  increasing _ := .nil
  bounded := by simp [History.trail, History.handled, History.waiting, History.inHand,
    History.initial, origins, Runtime.isIdle, Runtime.initial]

end Ordered

/-- Every run of the server is the run of the server with its history. -/
theorem exists_history {allowed : Runtime → Move → Prop} {start state : Runtime}
    (reached : (serverSystem setting).Reaches allowed start state) :
    ∃ history, (recordedServer setting).Reaches (fun state move => allowed state.1 move)
      (start, .initial) (state, history) :=
  System.Reaches.recorded reached History.initial

/-- **The handlers of the payloads, notifications and custom commands of a connection start in
the order in which the frames arrived**, in every run in which no handler is started while the
task of an earlier custom command of the connection waits to be run. -/
theorem handlers_in_order_of_arrival (setting : Setting) (writeQueueCapacity : Nat)
    (devices : Option DeviceManager) (clock : Instant) {state : Runtime} {history : History}
    (reached : (recordedServer setting).Reaches (fun state move => NothingOvertaken state.1 move)
      (.initial writeQueueCapacity devices clock, .initial) (state, history)) :
    history.callbacks.map Prod.fst = state.world.callbacks ∧
      ∀ id, (history.handled id).Pairwise (· < ·) := by
  have ordered : Ordered state history := by
    refine System.Reaches.invariant
      (I := fun state : Runtime × History => Ordered state.1 state.2) reached
      (Ordered.initial writeQueueCapacity devices clock) ?_
    rintro before after ⟨move, orderly, stepped⟩ ordered
    obtain ⟨taken, recorded⟩ := System.recording_step_eq_some stepped
    rw [recorded]
    exact ordered.step orderly taken
  refine ⟨ordered.callbacks, ?_⟩
  intro id
  exact (ordered.increasing id).sublist (List.sublist_append_left _ _)

end Runtime

end Ordering

/-! ## Concrete runs -/

section Runs

open scoped SingleShard AsciiText

/-- A custom command as a client sends it. -/
def customFrame : Frame :=
  .withCommand ⟨"x", 0⟩ (.custom ⟨"seat", [], ∅⟩) .atLeastOnce

/-- The server that asks for a token, which may also meet the custom command. -/
def customSetting : Setting :=
  { guardedSetting with registries := builtinRegistries [customFrame, helloFrame, tokenConnect] }

/-- CONNECT on the only connection. -/
def tokenConnects : List Move :=
  .accept "c" 0 :: received "c" tokenConnect 14

/-- The custom command is run before the payload is handled: the theorem applies. -/
theorem handlers_in_order_of_arrival_custom_first :
    ∃ state history, (recordedServer customSetting).Reaches
        (fun state move => NothingOvertaken state.1 move)
        (.initial 8 none 0, .initial) (state, history) ∧
      history.handled "c" = [1, 2] ∧
      history.callbacks.map Prod.fst = state.world.callbacks ∧
      ∀ id, (history.handled id).Pairwise (· < ·) := by
  have run : ((recordedServer customSetting).run (.initial 8 none 0, .initial)
      (tokenConnects ++ received "c" customFrame 5 ++ [.work 0 quiet] ++
        received "c" helloFrame 5)).any
        (fun state => decide (state.2.handled "c" = [1, 2])) = true := by
    decide +kernel
  have permitted : (recordedServer customSetting).Permits
      (fun state move => NothingOvertaken state.1 move) (.initial 8 none 0, .initial)
      (tokenConnects ++ received "c" customFrame 5 ++ [.work 0 quiet] ++
        received "c" helloFrame 5) := by
    decide +kernel
  obtain ⟨⟨state, history⟩, reached, holds⟩ := System.exists_reaches_of_run run permitted
  exact ⟨state, history, reached, of_decide_eq_true holds,
    handlers_in_order_of_arrival customSetting 8 none 0 reached⟩

/-- **A payload overtakes the custom command that arrived before it.** -/
theorem custom_command_overtaken :
    ∃ state history, (recordedServer customSetting).Reaches System.always
        (.initial 8 none 0, .initial) (state, history) ∧
      ¬(history.handled "c").Pairwise (· < ·) := by
  have run : ((recordedServer customSetting).run (.initial 8 none 0, .initial)
      (tokenConnects ++ received "c" customFrame 5 ++ received "c" helloFrame 5 ++
        [.work 0 quiet])).any (fun state => decide (state.2.handled "c" = [2, 1])) = true := by
    decide +kernel
  obtain ⟨⟨state, history⟩, reached, holds⟩ :=
    System.exists_reaches_of_run run (System.permits_always _ _)
  refine ⟨state, history, reached, ?_⟩
  rw [of_decide_eq_true holds]
  decide

end Runs

end FlareCore.Server
