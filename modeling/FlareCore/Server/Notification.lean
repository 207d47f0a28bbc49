import FlareCore.Server.Encoding
import FlareCore.Server.Lifetime

/-!
# The order of `on_connect` and `on_disconnect`

The application hears of a new connection from the consumer that handles CONNECT, and of its
end from the task that handles Disconnected or Error.  CONNECT looks the connection up once, at
its beginning; everything that follows, down to `on_connect`, goes on whether or not the
connection is still there.

`on_connect` is never called twice.  It comes in time, before `on_disconnect` and while the
connection is in the table, in every run in which CONNECT_ACK is written only on connections that
are still there and whose end has not been reported, and nothing removes a connection or reports
its end between the acknowledgement and `on_connect` (`on_connect_once_and_in_time`).
-/

namespace FlareCore.Server

open FlareCore.Common FlareCore.Foundations

set_option autoImplicit false

/-! ## Callbacks -/

/-- The callback is `on_connect` for the connection. -/
def Callback.connects (id : String) : Callback → Bool
  | .onConnect other => other = id
  | _ => false

/-- The callback is `on_disconnect` for the connection. -/
def Callback.disconnects (id : String) : Callback → Bool
  | .onDisconnect other => other = id
  | _ => false

/-- The consumers that handle a CONNECT, or may still find that one is to be handled, and have not
acknowledged it. -/
def Consumer.opens : Consumer → Bool
  | .preNegotiation _ _ | .connecting _ | .authenticating _ | .informing _ | .marking _
  | .registering _ | .kicking _ _ | .kickSending _ _ _ _ | .kickUnregistering _ _ _
  | .kickRemoving _ _ _ | .acknowledging _ _ => true
  | _ => false

/-- The consumers between the acknowledgement and `on_connect`. -/
def Consumer.establishes : Consumer → Bool
  | .completing _ | .storing _ _ _ | .notifying _ => true
  | _ => false

/-- The consumer is about to call `on_connect`. -/
def Consumer.notifies : Consumer → Bool
  | .notifying _ => true
  | _ => false

section Notification

variable [Hashing]

namespace World

/-- How often `on_connect` was called for a connection. -/
def connects (world : World) (id : String) : Nat :=
  world.callbacks.countP (Callback.connects id)

/-- `on_disconnect` was called for the connection. -/
def reported (world : World) (id : String) : Bool :=
  world.callbacks.any (Callback.disconnects id)

end World

section Steps

variable [RustText] (setting : Setting) (world : World) (answer : Answer)

/-- A callback of a job is not `on_connect`, and `on_disconnect` in one case only. -/
theorem Job.callbacks_perform (job : Job) :
    ∃ more, (job.perform setting.registries setting.stamps setting.enumeration world
        answer).callbacks = world.callbacks ++ more ∧
      ∀ callback ∈ more, ∀ id, callback.connects id = false ∧
        (callback.disconnects id = true → job = .disconnected id) := by
  have nothing : ∃ more, world.callbacks = world.callbacks ++ more ∧ ∀ callback ∈ more, ∀ id,
      callback.connects id = false ∧ (callback.disconnects id = true → job = .disconnected id) :=
    ⟨[], (List.append_nil _).symm, by simp⟩
  have handled : ∀ owner frame received, ∃ more, world.callbacks ++ [Callback.handle owner frame
        received] = world.callbacks ++ more ∧ ∀ callback ∈ more, ∀ id,
      callback.connects id = false ∧ (callback.disconnects id = true → job = .disconnected id) := by
    intro owner frame received
    refine ⟨_, rfl, ?_⟩
    intro callback member id
    rw [List.mem_singleton.mp member]
    exact ⟨rfl, Bool.noConfusion⟩
  cases job with
  | systemCommand owner frame received =>
      simp only [perform, World.handleSystemCommand]
      split
      all_goals first
        | exact nothing
        | exact handled _ _ _
  | systemEvent owner frame received => exact handled _ _ _
  | customCommand owner frame received => exact handled _ _ _
  | read reads fanout => cases reads <;> exact nothing
  | deliver fanout =>
      simp only [perform, World.deliver]
      split <;> exact nothing
  | activate now groups => cases groups <;> exact nothing
  | transportError owner =>
      refine ⟨_, rfl, ?_⟩
      intro callback member id
      rw [List.mem_singleton.mp member]
      exact ⟨rfl, Bool.noConfusion⟩
  | disconnected owner =>
      refine ⟨_, rfl, ?_⟩
      intro callback member id
      rw [List.mem_singleton.mp member]
      exact ⟨rfl, fun same => of_decide_eq_true same ▸ rfl⟩
  | _ => exact nothing

/-- A callback of a consumer is not `on_disconnect`, and `on_connect` in one case only. -/
theorem World.callbacks_consume (own : String) (consumer : Consumer) :
    (∃ profile, consumer = .notifying profile ∧ (world.consume setting own answer
        consumer).1.callbacks = world.callbacks ++ [.onConnect own]) ∨
      consumer.notifies = false ∧
        ∃ more, (world.consume setting own answer consumer).1.callbacks = world.callbacks ++ more ∧
          ∀ callback ∈ more, ∀ id, callback.connects id = false ∧
            callback.disconnects id = false := by
  have nothing : ∃ more, world.callbacks = world.callbacks ++ more ∧ ∀ callback ∈ more, ∀ id,
      callback.connects id = false ∧ callback.disconnects id = false :=
    ⟨[], (List.append_nil _).symm, by simp⟩
  have handled : ∀ owner frame received, ∃ more, world.callbacks ++ [Callback.handle owner frame
        received] = world.callbacks ++ more ∧ ∀ callback ∈ more, ∀ id,
      callback.connects id = false ∧ callback.disconnects id = false := by
    intro owner frame received
    refine ⟨_, rfl, ?_⟩
    intro callback member id
    rw [List.mem_singleton.mp member]
    exact ⟨rfl, rfl⟩
  have explained : ∀ encoded : Result Wire,
      (world.explain own encoded).callbacks = world.callbacks := by
    intro encoded
    cases encoded <;> rfl
  cases consumer with
  | notifying profile => exact Or.inl ⟨profile, rfl, rfl⟩
  | receive =>
      simp only [consume, takeUp]
      split
      · exact Or.inr ⟨rfl, nothing⟩
      · split_ifs <;> exact Or.inr ⟨rfl, nothing⟩
  | negotiated data info received =>
      simp only [consume, handleNegotiatedMessage]
      split_ifs
      · exact Or.inr ⟨rfl, nothing⟩
      · split <;> exact Or.inr ⟨rfl, nothing⟩
  | handling frame received =>
      simp only [consume, handleFrame]
      split <;> try split_ifs
      all_goals first
        | exact Or.inr ⟨rfl, nothing⟩
        | exact Or.inr ⟨rfl, handled _ _ _⟩
  | registering acceptance =>
      simp only [consume, register]
      split <;> exact Or.inr ⟨rfl, nothing⟩
  | kicking conflict victims =>
      cases victims with
      | nil => exact Or.inr ⟨rfl, nothing⟩
      | cons victim victims =>
          simp only [consume, kick]
          split_ifs
          · exact Or.inr ⟨rfl, nothing⟩
          · split
            · exact Or.inr ⟨rfl, nothing⟩
            · split <;> exact Or.inr ⟨rfl, nothing⟩
  | acknowledging profile conflicts =>
      simp only [consume, acknowledge]
      split <;> exact Or.inr ⟨rfl, nothing⟩
  | rejectingLate profile error =>
      simp only [consume, rejectAfterAck]
      rw [explained]
      exact Or.inr ⟨rfl, nothing⟩
  | rejecting error =>
      simp only [consume, rejectConnect]
      split
      · exact Or.inr ⟨rfl, nothing⟩
      · rw [explained]
        exact Or.inr ⟨rfl, nothing⟩
  | _ => exact Or.inr ⟨rfl, nothing⟩

end Steps

/-! ## The runtime -/

section Invariant

variable [RustText] {setting : Setting}

namespace Runtime

variable {state state' : Runtime} {move : Move}

omit [RustText] in
/-- Callbacks that do not concern a connection leave its reports alone. -/
theorem reports_append {more : List Callback} {id : String}
    (extended : state'.world.callbacks = state.world.callbacks ++ more) :
    ((∀ callback ∈ more, callback.connects id = false) →
      state'.world.connects id = state.world.connects id) ∧
    ((∀ callback ∈ more, callback.disconnects id = false) →
      state'.world.reported id = state.world.reported id) := by
  constructor
  · intro silent
    have none : more.countP (Callback.connects id) = 0 :=
      List.countP_eq_zero.mpr fun callback member => by simp [silent callback member]
    rw [World.connects, extended, List.countP_append, none, Nat.add_zero, World.connects]
  · intro silent
    have none : more.any (Callback.disconnects id) = false :=
      List.any_eq_false.mpr fun callback member => by simp [silent callback member]
    rw [World.reported, extended, List.any_append, none, Bool.or_false, World.reported]

/-- **What a step reports**: `on_connect` at the end of CONNECT, `on_disconnect` in the handling
of a disconnect. -/
theorem reports_step (stepped : state.step setting move = some state') (id : String) :
    (state'.world.connects id = state.world.connects id ∨
      state'.world.connects id = state.world.connects id + 1 ∧ ∃ answer profile,
        move = .consume id answer ∧ state.consumers id = some (.notifying profile)) ∧
    (state'.world.reported id = state.world.reported id ∨
      state'.world.reported id = true ∧ ∃ index answer, move = .work index answer ∧
        state.world.jobs[index]? = some (.disconnected id)) := by
  have unchanged : state'.world.callbacks = state.world.callbacks →
      (state'.world.connects id = state.world.connects id) ∧
        (state'.world.reported id = state.world.reported id) := by
    intro callbacks
    rw [World.connects, World.reported, callbacks]
    exact ⟨rfl, rfl⟩
  cases move with
  | accept own connection =>
      obtain ⟨manager, consumers, rfl, -⟩ := Runtime.accept_cases stepped
      exact (unchanged rfl).imp Or.inl Or.inl
  | consume own answer =>
      obtain ⟨consumer, found, rfl⟩ := Option.map_eq_some_iff.mp stepped
      rcases state.world.callbacks_consume setting answer own consumer with
        ⟨profile, rfl, called⟩ | ⟨-, more, extended, silent⟩
      · by_cases own_id : own = id
        · subst own_id
          refine ⟨Or.inr ⟨?_, answer, profile, rfl, found⟩, Or.inl ((reports_append called).2 ?_)⟩
          · rw [World.connects, called, List.countP_append, World.connects]
            simp [Callback.connects]
          · simp [Callback.disconnects]
        · refine ⟨Or.inl ((reports_append called).1 ?_), Or.inl ((reports_append called).2 ?_)⟩
          · simpa [Callback.connects] using own_id
          · simp [Callback.disconnects]
      · exact ⟨Or.inl ((reports_append extended).1 fun callback member =>
            (silent callback member id).1),
          Or.inl ((reports_append extended).2 fun callback member =>
            (silent callback member id).2)⟩
  | work index answer =>
      obtain ⟨job, found, rfl⟩ := Option.map_eq_some_iff.mp stepped
      obtain ⟨more, extended, silent⟩ := job.callbacks_perform setting
        { state.world with jobs := state.world.jobs.eraseIdx index } answer
      refine ⟨Or.inl ((reports_append extended).1 fun callback member =>
        (silent callback member id).1), ?_⟩
      by_cases ends : job = .disconnected id
      · subst ends
        refine Or.inr ⟨?_, index, answer, rfl, found⟩
        simp [World.reported, Job.perform, World.calls, World.spawn, Callback.disconnects]
      · refine Or.inl ((reports_append extended).2 fun callback member => ?_)
        rw [Bool.eq_false_iff]
        exact fun reports => ends ((silent callback member id).2 reports)
  | flush handle succeeds =>
      rcases Runtime.flush_cases stepped with ⟨data, manager, -, -, rfl⟩ |
        ⟨data, manager, jobs, -, -, -, rfl⟩ <;> exact (unchanged rfl).imp Or.inl Or.inl
  | _ =>
      obtain ⟨inbound, clock, frames, jobs, written, rfl, -⟩ := Runtime.outer_cases rfl stepped
      exact (unchanged rfl).imp Or.inl Or.inl

end Runtime

/-! ## Disturbances -/

namespace Runtime

/-- The step removes a connection between its acknowledgement and `on_connect`. -/
def removesEstablishing (setting : Setting) (state : Runtime) (move : Move) : Bool :=
  (state.removes setting move).any fun id =>
    (state.consumers id).any Consumer.establishes &&
      (state.world.manager.connections.get id).isSome

/-- The step reports the end of a connection between its acknowledgement and `on_connect`. -/
def reportsEstablishing (state : Runtime) : Move → Bool
  | .work index _ =>
      match state.world.jobs[index]? with
      | some (.disconnected id) => (state.consumers id).any Consumer.establishes
      | _ => false
  | _ => false

/-- The step writes the acknowledgement on a connection that has left the table, or whose end has
been reported. -/
def acknowledgesLate (setting : Setting) (state : Runtime) : Move → Bool
  | .consume id answer =>
      match state.consumers id with
      | some (.acknowledging profile conflicts) =>
          (state.world.acknowledge setting id profile conflicts answer).2.establishes &&
            ((state.world.manager.connections.get id).isNone || state.world.reported id)
      | _ => false
  | _ => false

end Runtime

/-- The side condition of the runs in which no acknowledged CONNECT is disturbed. -/
def Undisturbed (setting : Setting) (state : Runtime) (move : Move) : Prop :=
  state.removesEstablishing setting move = false ∧ state.reportsEstablishing move = false ∧
    state.acknowledgesLate setting move = false

instance (setting : Setting) (state : Runtime) (move : Move) :
    Decidable (Undisturbed setting state move) :=
  inferInstanceAs (Decidable (_ ∧ _ ∧ _))

/-! ## The invariant -/

/-- The connection is gone, or its negotiation is completed: CONNECT has no effect any more. -/
def Settled (codec : Option ConnectionCodec) : Prop :=
  ∀ present, codec = some present → present.negotiationCompleted = true

/-- What is known where the consumer of a connection stands. -/
structure Consumer.Announces (connects : Nat) (reported : Bool) (codec : Option ConnectionCodec)
    (consumer : Consumer) : Prop where
  settled : connects = 0 ∨ Settled codec
  opening : consumer.opens = true → connects = 0 ∨ codec = none
  inTime : consumer.establishes = true → connects = 0 ∧ reported = false ∧ codec ≠ none
  notifying : consumer.notifies = true → Settled codec

structure Runtime.Announced (state : Runtime) : Prop where
  once : ∀ id, state.world.connects id ≤ 1
  unknown : ∀ id, state.consumers id = none → state.world.connects id = 0
  consumers : ∀ id consumer, state.consumers id = some consumer →
    consumer.Announces (state.world.connects id) (state.world.reported id)
      (state.world.manager.codec id)

omit [Hashing] [RustText] in
theorem Settled.none : Settled none := by
  intro present found
  cases found

omit [Hashing] [RustText] in
/-- A consumer that stays where it is. -/
theorem Consumer.Announces.imp {connects : Nat} {reported reported' : Bool}
    {codec codec' : Option ConnectionCodec} {consumer : Consumer}
    (announces : consumer.Announces connects reported codec)
    (kept : codec' = codec ∨ codec' = none)
    (undisturbed : consumer.establishes = true → reported' = reported ∧ codec' = codec) :
    consumer.Announces connects reported' codec' := by
  have settled : Settled codec → Settled codec' := by
    intro holds
    rcases kept with same | none
    · exact same ▸ holds
    · exact none ▸ Settled.none
  refine ⟨announces.settled.imp_right settled, ?_, ?_, ?_⟩
  · intro opens
    refine (announces.opening opens).imp_right fun missing => ?_
    exact kept.elim (fun same => same.trans missing) id
  · intro establishes
    obtain ⟨rfl, rfl⟩ := undisturbed establishes
    exact announces.inTime establishes
  · intro notifies
    exact settled (announces.notifying notifies)

/-! ## One step of a consumer -/

section Consumers

variable {world : World} {own : String} {answer : Answer} {consumer : Consumer}

/-- A consumer comes to a CONNECT from the look at the negotiation. -/
theorem World.opens_consume
    (opens : (world.consume setting own answer consumer).2.opens = true) :
    consumer.opens = true ∨ (∃ data received, consumer = .refreshed data received) ∧
        ¬∃ codec, world.manager.codec own = some codec ∧ codec.negotiationCompleted = true := by
  have leads := world.leadsTo_consume setting answer own consumer
  generalize (world.consume setting own answer consumer).2 = next at leads opens
  cases leads with
  | unfinished data received uncompleted =>
      refine Or.inr ⟨⟨data, received, rfl⟩, ?_⟩
      rintro ⟨codec, present, completed⟩
      obtain ⟨entry, found, rfl⟩ := Option.map_eq_some_iff.mp present
      exact absurd ((uncompleted entry found).symm.trans completed) Bool.false_ne_true
  | connects | authenticates | accepts | marks | registers | conflicts | unregistered | resolved
  | skips | kicks | unencoded | missing | unregisters | removes | kicked => exact Or.inl rfl
  | _ => cases opens

/-- A consumer goes on towards `on_connect`, which begins with the acknowledgement. -/
theorem World.establishes_consume
    (establishes : (world.consume setting own answer consumer).2.establishes = true) :
    consumer.establishes = true ∧ consumer.notifies = false ∨
      ∃ profile conflicts, consumer = .acknowledging profile conflicts := by
  have leads := world.leadsTo_consume setting answer own consumer
  generalize (world.consume setting own answer consumer).2 = next at leads establishes
  cases leads with
  | acknowledged profile conflicts => exact Or.inr ⟨profile, conflicts, rfl⟩
  | gone | completes | stored => exact Or.inl ⟨rfl, rfl⟩
  | _ => cases establishes

/-- CONNECT comes to `on_connect` from the completion of the negotiation. -/
theorem World.notifies_consume
    (notifies : (world.consume setting own answer consumer).2.notifies = true) :
    Settled ((world.consume setting own answer consumer).1.manager.codec own) := by
  have leads := world.leadsTo_consume setting answer own consumer
  generalize (world.consume setting own answer consumer).2 = next at leads notifies
  cases leads with
  | gone profile missing =>
      have unchanged : (world.consume setting own answer (.completing profile)).1 = world := rfl
      rw [unchanged, ConnectionManager.get_eq_none_iff.mp missing]
      exact Settled.none
  | stored profile device userId =>
      rw [World.codec_storing]
      intro codec present
      obtain ⟨earlier, -, rfl⟩ := Option.map_eq_some_iff.mp present
      rfl
  | _ => cases notifies

/-- CONNECT writes to a connection that is there, and leaves it there. -/
theorem World.codec_consume_of_negotiates (negotiates : consumer.negotiates = true) :
    (world.consume setting own answer consumer).1.manager.codec own = none ↔
      world.manager.codec own = none := by
  cases consumer with
  | informing acceptance => rw [World.codec_informing, Option.map_eq_none_iff]
  | storing profile device userId => rw [World.codec_storing, Option.map_eq_none_iff]
  | _ => cases negotiates

/-- A connection that has left the table does not come back. -/
theorem World.codec_consume_eq_none (gone : world.manager.codec own = none) :
    (world.consume setting own answer consumer).1.manager.codec own = none := by
  by_cases negotiates : consumer.negotiates = true
  · exact (World.codec_consume_of_negotiates negotiates).mpr gone
  · exact (world.evolves_consume setting answer own consumer own
      (Or.inr (Bool.eq_false_iff.mpr negotiates))).eq_none gone

/-- A consumer that removes nothing leaves its connection in the table. -/
theorem World.codec_consume_ne_none_iff (removes : consumer.removes own = []) :
    (world.consume setting own answer consumer).1.manager.codec own ≠ none ↔
      world.manager.codec own ≠ none := by
  by_cases negotiates : consumer.negotiates = true
  · exact not_congr (World.codec_consume_of_negotiates negotiates)
  · rw [(world.evolves_consume setting answer own consumer own
      (Or.inr (Bool.eq_false_iff.mpr negotiates))).of_notMem (by simp [removes])]

omit [Hashing] [RustText] in
theorem Consumer.removes_of_establishes (establishes : consumer.establishes = true) :
    consumer.removes own = [] := by
  cases consumer with
  | completing profile => rfl
  | storing profile device userId => rfl
  | notifying profile => rfl
  | _ => cases establishes

omit [Hashing] [RustText] in
theorem Consumer.notifies_of_opens (opens : consumer.opens = true) :
    consumer.notifies = false := by
  cases consumer with
  | notifying profile => cases opens
  | _ => rfl

/-- A completed negotiation is not taken back. -/
theorem Settled.consume (settled : Settled (world.manager.codec own)) :
    Settled ((world.consume setting own answer consumer).1.manager.codec own) := by
  cases negotiates : consumer.negotiates with
  | false =>
      rcases world.evolves_consume setting answer own consumer own (Or.inr negotiates) with
        same | ⟨-, gone⟩
      · rw [same]
        exact settled
      · rw [gone]
        exact Settled.none
  | true =>
      cases consumer with
      | informing acceptance =>
          rw [World.codec_informing]
          intro codec present
          obtain ⟨earlier, found, rfl⟩ := Option.map_eq_some_iff.mp present
          exact settled earlier found
      | storing profile device userId =>
          rw [World.codec_storing]
          intro codec present
          obtain ⟨earlier, -, rfl⟩ := Option.map_eq_some_iff.mp present
          rfl
      | _ => cases negotiates

/-- **One step of the connection's own consumer.** -/
theorem World.announces_consume {connects : Nat} {reported : Bool}
    (announces : consumer.Announces connects reported (world.manager.codec own))
    (inTime : ∀ profile conflicts, consumer = .acknowledging profile conflicts →
      (world.consume setting own answer consumer).2.establishes = true →
        reported = false ∧ world.manager.codec own ≠ none) :
    (world.consume setting own answer consumer).2.Announces
      (if consumer.notifies then connects + 1 else connects) reported
      ((world.consume setting own answer consumer).1.manager.codec own) := by
  constructor
  · by_cases notifies : consumer.notifies = true
    · exact Or.inr (announces.notifying notifies).consume
    · rw [if_neg notifies]
      exact announces.settled.imp_right Settled.consume
  · intro opens
    rcases World.opens_consume opens with opened | ⟨⟨data, received, rfl⟩, open_⟩
    · rw [Consumer.notifies_of_opens opened]
      exact (announces.opening opened).imp_right World.codec_consume_eq_none
    · refine announces.settled.imp_right fun settled => ?_
      cases found : world.manager.codec own with
      | none => exact found
      | some codec => exact absurd ⟨codec, found, settled codec found⟩ open_
  · intro establishes
    rcases World.establishes_consume establishes with ⟨earlier, quiet⟩ |
      ⟨profile, conflicts, rfl⟩
    · obtain ⟨never, silent, present⟩ := announces.inTime earlier
      rw [quiet]
      refine ⟨never, silent, ?_⟩
      rw [World.codec_consume_ne_none_iff (Consumer.removes_of_establishes earlier)]
      exact present
    · obtain ⟨silent, present⟩ := inTime profile conflicts rfl establishes
      refine ⟨(announces.opening rfl).resolve_right present, silent, ?_⟩
      rw [World.codec_consume_ne_none_iff rfl]
      exact present
  · exact World.notifies_consume

end Consumers

/-! ## Runs -/

namespace Runtime

variable {state state' : Runtime} {move : Move}

/-- A connection that is removed while its CONNECT is on the way is a disturbance. -/
theorem not_mem_removes (undisturbed : Undisturbed setting state move) {id : String}
    {consumer : Consumer} (found : state.consumers id = some consumer)
    (establishes : consumer.establishes = true) (present : state.world.manager.codec id ≠ none) :
    id ∉ state.removes setting move := by
  intro removed
  have spared := List.any_eq_false.mp undisturbed.1 id removed
  rw [found, Option.any_some, establishes, Bool.true_and, Bool.not_eq_true,
    Option.isSome_eq_false_iff, Option.isNone_iff_eq_none] at spared
  exact present (ConnectionManager.get_eq_none_iff.mp spared)

/-- A consumer that stays where it is while something else happens. -/
theorem Announced.other (announced : state.Announced) (undisturbed : Undisturbed setting state move)
    (stepped : state.step setting move = some state') {id : String} {consumer : Consumer}
    (found : state.consumers id = some consumer) (foreign : ∀ answer, move ≠ .consume id answer) :
    consumer.Announces (state'.world.connects id) (state'.world.reported id)
      (state'.world.manager.codec id) := by
  have announces := announced.consumers id consumer found
  have evolves : ConnectionManager.Evolves (state.removes setting move) state.world.manager
      state'.world.manager id := by
    rcases Runtime.codec_step stepped id with evolves | ⟨fresh, -⟩ | ⟨answer, _, same, -⟩
    · exact evolves
    · rw [found] at fresh
      cases fresh
    · exact absurd same (foreign answer)
  obtain ⟨calls, reports⟩ := Runtime.reports_step stepped id
  have connects : state'.world.connects id = state.world.connects id := by
    rcases calls with same | ⟨-, answer, profile, same, -⟩
    · exact same
    · exact absurd same (foreign answer)
  rw [connects]
  refine announces.imp (evolves.imp_right fun gone => gone.2) ?_
  intro establishes
  refine ⟨?_, evolves.of_notMem (not_mem_removes undisturbed found establishes
    (announces.inTime establishes).2.2)⟩
  rcases reports with same | ⟨-, index, answer, rfl, job⟩
  · exact same
  · have spared := undisturbed.2.1
    simp only [reportsEstablishing, job, found, Option.any_some, establishes] at spared
    cases spared

/-- The consumer that moves. -/
theorem Announced.own (announced : state.Announced) {id : String} {answer : Answer}
    (undisturbed : Undisturbed setting state (.consume id answer))
    (stepped : state.step setting (.consume id answer) = some state') {later : Consumer}
    (moved : state'.consumers id = some later) :
    later.Announces (state'.world.connects id) (state'.world.reported id)
      (state'.world.manager.codec id) := by
  obtain ⟨consumer, found, rfl⟩ := Option.map_eq_some_iff.mp stepped
  have announces := announced.consumers id consumer found
  dsimp only at moved
  rw [Function.update_self] at moved
  obtain rfl := Option.some.inj moved
  have next : (state.world.consume setting id answer consumer).2.Announces
      (if consumer.notifies then state.world.connects id + 1 else state.world.connects id)
      (state.world.reported id)
      ((state.world.consume setting id answer consumer).1.manager.codec id) := by
    refine World.announces_consume announces ?_
    rintro profile conflicts rfl establishes
    have inTime := undisturbed.2.2
    have acknowledges : (state.world.acknowledge setting id profile conflicts
        answer).2.establishes = true := establishes
    simp only [acknowledgesLate, found, acknowledges, Bool.true_and, Bool.or_eq_false_iff,
      Option.isNone_eq_false_iff] at inTime
    refine ⟨inTime.2, fun gone => ?_⟩
    rw [ConnectionManager.get_eq_none_iff.mpr gone] at inTime
    cases inTime.1
  rcases state.world.callbacks_consume setting answer id consumer with
    ⟨profile, rfl, called⟩ | ⟨quiet, more, extended, silent⟩
  · have once : (state.world.consume setting id answer (.notifying profile)).1.connects id =
        state.world.connects id + 1 := by
      rw [World.connects, called, List.countP_append, World.connects]
      simp [Callback.connects]
    have same : (state.world.consume setting id answer (.notifying profile)).1.reported id =
        state.world.reported id := by
      rw [World.reported, called, List.any_append, World.reported]
      simp [Callback.disconnects]
    dsimp only
    rw [once, same]
    exact next
  · rw [quiet] at next
    rw [(reports_append extended).1 fun callback member => (silent callback member id).1,
      (reports_append extended).2 fun callback member => (silent callback member id).2]
    exact next

/-- **An undisturbed step keeps the invariant.** -/
theorem Announced.step (announced : state.Announced) (undisturbed : Undisturbed setting state move)
    (stepped : state.step setting move = some state') : state'.Announced := by
  have consumers : ∀ id consumer, state'.consumers id = some consumer →
      consumer.Announces (state'.world.connects id) (state'.world.reported id)
        (state'.world.manager.codec id) := by
    intro id later found
    rcases Runtime.consumers_step stepped found with same | ⟨rfl, fresh⟩ |
      ⟨answer, consumer, rfl, current, rfl⟩
    · by_cases foreign : ∀ answer, move ≠ .consume id answer
      · exact announced.other undisturbed stepped same foreign
      · rw [not_forall] at foreign
        obtain ⟨answer, own⟩ := foreign
        rw [not_not] at own
        subst own
        exact announced.own undisturbed stepped found
    · have never : state'.world.connects id = 0 := by
        rcases (Runtime.reports_step stepped id).1 with same | ⟨-, answer, profile, -, current⟩
        · rw [same, announced.unknown id fresh]
        · rw [fresh] at current
          cases current
      exact ⟨Or.inl never, fun _ => Or.inl never, Bool.noConfusion, Bool.noConfusion⟩
    · exact announced.own undisturbed stepped found
  refine ⟨?_, ?_, consumers⟩
  · intro id
    rcases (Runtime.reports_step stepped id).1 with same | ⟨more, answer, profile, -, current⟩
    · exact same ▸ announced.once id
    · obtain ⟨never, -⟩ := (announced.consumers id _ current).inTime rfl
      rw [more, never]
  · intro id missing
    have fresh : state.consumers id = none := by
      refine Option.eq_none_iff_forall_ne_some.mpr ?_
      intro consumer found
      obtain ⟨later, present⟩ := Runtime.exists_consumer_step stepped found
      rw [missing] at present
      cases present
    rcases (Runtime.reports_step stepped id).1 with same | ⟨-, answer, profile, -, current⟩
    · rw [same, announced.unknown id fresh]
    · rw [fresh] at current
      cases current

/-- It is too late for `on_connect`: `on_disconnect` was called, or the connection has left the
table. -/
def TooLate (state : Runtime) (id : String) : Prop :=
  state.world.reported id = true ∨
    (state.consumers id).isSome = true ∧ state.world.manager.connections.get id = none

/-- What is too late stays too late, and `on_connect` is not called any more. -/
theorem TooLate.step {id : String} (late : state.TooLate id) (announced : state.Announced)
    (stepped : state.step setting move = some state') :
    state'.TooLate id ∧ state'.world.connects id = state.world.connects id := by
  constructor
  · rcases late with reported | ⟨accepted, gone⟩
    · refine Or.inl ?_
      rcases (Runtime.reports_step stepped id).2 with same | ⟨reports, -⟩
      · exact same.trans reported
      · exact reports
    · obtain ⟨consumer, found⟩ := Option.isSome_iff_exists.mp accepted
      obtain ⟨later, present⟩ := Runtime.exists_consumer_step stepped found
      refine Or.inr ⟨by rw [present, Option.isSome_some], ?_⟩
      rw [ConnectionManager.get_eq_none_iff] at gone ⊢
      rcases Runtime.codec_step stepped id with evolves | ⟨fresh, -⟩ |
        ⟨answer, current, rfl, own, negotiates⟩
      · exact evolves.eq_none gone
      · rw [found] at fresh
        cases fresh
      · obtain ⟨same, isSame, rfl⟩ := Option.map_eq_some_iff.mp stepped
        exact World.codec_consume_eq_none gone
  · rcases (Runtime.reports_step stepped id).1 with same | ⟨-, answer, profile, -, current⟩
    · exact same
    · obtain ⟨-, unreported, present⟩ := (announced.consumers id _ current).inTime rfl
      rcases late with reported | ⟨-, gone⟩
      · rw [unreported] at reported
        cases reported
      · exact absurd (ConnectionManager.get_eq_none_iff.mp gone) present

omit [RustText] in
theorem announced_initial (writeQueueCapacity : Nat) (devices : Option DeviceManager)
    (clock : Instant) : (Runtime.initial writeQueueCapacity devices clock).Announced where
  once _ := Nat.zero_le 1
  unknown _ _ := rfl
  consumers := by simp [Runtime.initial]

end Runtime

/-- **`on_connect` is called at most once, and never after `on_disconnect` or after the
connection has left the table**, in every run in which no acknowledged CONNECT is disturbed. -/
theorem on_connect_once_and_in_time (setting : Setting) (writeQueueCapacity : Nat)
    (devices : Option DeviceManager) (clock : Instant) {start state : Runtime}
    (reached : (serverSystem setting).Reaches (Undisturbed setting)
      (Runtime.initial writeQueueCapacity devices clock) start)
    (continued : (serverSystem setting).Reaches (Undisturbed setting) start state) (id : String) :
    state.world.connects id ≤ 1 ∧
      (start.TooLate id → state.world.connects id = start.world.connects id) := by
  have kept : ∀ {before after : Runtime}, (serverSystem setting).Allowed (Undisturbed setting)
      before after → before.Announced → after.Announced := by
    rintro before after ⟨move, undisturbed, stepped⟩ announced
    exact announced.step undisturbed stepped
  have started : start.Announced := System.Reaches.invariant (I := Runtime.Announced) reached
    (Runtime.announced_initial writeQueueCapacity devices clock) kept
  have announced : state.Announced :=
    System.Reaches.invariant (I := Runtime.Announced) continued started kept
  refine ⟨announced.once id, ?_⟩
  intro late
  have unchanged : state.Announced ∧ state.TooLate id ∧
      state.world.connects id = start.world.connects id := by
    refine System.Reaches.invariant (I := fun state : Runtime => state.Announced ∧
      state.TooLate id ∧ state.world.connects id = start.world.connects id) continued
      ⟨started, late, rfl⟩ ?_
    rintro before after ⟨move, undisturbed, stepped⟩ ⟨announced, late, same⟩
    obtain ⟨stillLate, unchanged⟩ := late.step announced stepped
    exact ⟨announced.step undisturbed stepped, stillLate, unchanged.trans same⟩
  exact unchanged.2.2

end Invariant

end Notification

/-! ## Concrete runs -/

section Runs

open scoped SingleShard AsciiText

/-- The transport reports the end of the first connection, and the handler runs. -/
def firstCloses : List Move :=
  .closed "a" false :: List.replicate 3 (.work 0 ⟨.ok none, true⟩)

/-- A connection is established and closed, another one follows: the theorem applies. -/
theorem on_connect_once_and_in_time_closed :
    ∃ start state, (serverSystem openSetting).Reaches (Undisturbed openSetting) exclusiveServer
        start ∧
      (serverSystem openSetting).Reaches (Undisturbed openSetting) start state ∧
      start.TooLate "a" ∧ start.world.connects "a" = 1 ∧ state.world.connects "b" = 1 ∧
      state.world.connects "a" ≤ 1 ∧ state.world.connects "a" = start.world.connects "a" := by
  have run : ((serverSystem openSetting).run exclusiveServer
      (devicesConnect 14 0 ++ firstCloses)).any (fun start =>
        start.world.reported "a" && decide (start.world.connects "a" = 1) &&
        decide ((serverSystem openSetting).Permits (Undisturbed openSetting) start
          (List.replicate 14 (.consume "b" ⟨.ok none, true⟩))) &&
        ((serverSystem openSetting).run start (List.replicate 14 (.consume "b"
          ⟨.ok none, true⟩))).any fun state => decide (state.world.connects "b" = 1)) = true := by
    decide +kernel
  have permitted : (serverSystem openSetting).Permits (Undisturbed openSetting) exclusiveServer
      (devicesConnect 14 0 ++ firstCloses) := by
    decide +kernel
  obtain ⟨start, reached, holds⟩ := System.exists_reaches_of_run run permitted
  rw [Bool.and_eq_true, Bool.and_eq_true, Bool.and_eq_true] at holds
  obtain ⟨⟨⟨reported, once⟩, permittedLater⟩, rest⟩ := holds
  obtain ⟨state, evaluated, second⟩ := (Option.any_eq_true _ _).mp rest
  have continued := System.reaches_of_run evaluated (of_decide_eq_true permittedLater)
  obtain ⟨atMost, unchanged⟩ := on_connect_once_and_in_time openSetting 8
    (some (.new .platformExclusive)) 0 reached continued "a"
  exact ⟨start, state, reached, continued, Or.inl reported, of_decide_eq_true once,
    of_decide_eq_true second, atMost, unchanged (Or.inl reported)⟩

/-- **A connection that is closed between CONNECT_ACK and the completion is announced after its
end.** -/
theorem on_connect_after_on_disconnect :
    ∃ start state, (serverSystem openSetting).Reaches System.always exclusiveServer start ∧
      (serverSystem openSetting).Reaches System.always start state ∧
      start.world.reported "a" = true ∧ start.world.manager.connections.get "a" = none ∧
      (start.consumers "a").isSome = true ∧ start.world.connects "a" = 0 ∧
      state.world.connects "a" = 1 := by
  have run : ((serverSystem openSetting).run exclusiveServer
      (devicesConnect 12 0 ++ firstCloses)).any (fun start =>
        start.world.reported "a" && (start.world.manager.connections.get "a").isNone &&
        (start.consumers "a").isSome && decide (start.world.connects "a" = 0) &&
        ((serverSystem openSetting).run start (List.replicate 2 (.consume "a"
          ⟨.ok none, true⟩))).any fun state => decide (state.world.connects "a" = 1)) = true := by
    decide +kernel
  obtain ⟨start, reached, holds⟩ := System.exists_reaches_of_run run (System.permits_always _ _)
  rw [Bool.and_eq_true, Bool.and_eq_true, Bool.and_eq_true, Bool.and_eq_true] at holds
  obtain ⟨⟨⟨⟨reported, gone⟩, accepted⟩, never⟩, rest⟩ := holds
  obtain ⟨state, evaluated, once⟩ := (Option.any_eq_true _ _).mp rest
  exact ⟨start, state, reached, System.reaches_of_run evaluated (System.permits_always _ _),
    reported, Option.isNone_iff_eq_none.mp gone, accepted, of_decide_eq_true never,
    of_decide_eq_true once⟩

end Runs

end FlareCore.Server
