import FlareCore.Server.DeviceRegistry
import FlareCore.Server.Encoding
import FlareCore.Server.Lifetime

/-!
# Registered devices and their connections

The device manager and the connection manager are updated by different tasks.  CONNECT
registers the device of a connection some time after it has looked the connection up, and a
connection leaves the table in many ways, of which only the handling of Disconnected and Error
unregisters the device too.

So a device may be left behind: it is registered when its connection is gone already, or its
connection is removed by another path, and no handler of a disconnect is still to come.  In
every run in which neither happens, a registered device has its connection whenever the
handlers are done (`registered_devices_connected`).
-/

namespace FlareCore.Server

open FlareCore.Common FlareCore.Foundations

set_option autoImplicit false

theorem mem_eraseIdx_of_ne {α : Type} {list : List α} {index : Nat} {removed other : α}
    (found : list[index]? = some removed) (distinct : other ≠ removed) (member : other ∈ list) :
    other ∈ list.eraseIdx index := by
  rw [List.mem_eraseIdx_iff_getElem?]
  obtain ⟨position, located⟩ := List.mem_iff_getElem?.mp member
  refine ⟨position, ?_, located⟩
  rintro rfl
  exact distinct (Option.some.inj (located.symm.trans found))

/-! ## The device manager -/

namespace DeviceManager

/-- A connection is registered: it has an owner, or it is listed under one. -/
def registers (manager : DeviceManager) (id : String) : Bool :=
  decide (id ∈ manager.owners.keys) ||
    manager.devices.entries.any fun entry => decide (id ∈ entry.2.keys)

/-- The owners know every connection that is listed. -/
def Consistent (manager : DeviceManager) : Prop :=
  ∀ owner devices id, manager.devices.lookup owner = some devices → id ∈ devices →
    manager.owners.lookup id = some owner

theorem consistent_new (strategy : DeviceConflictStrategy) : (new strategy).Consistent := by
  intro owner devices id found
  simp [new] at found

variable {manager : DeviceManager}

/-- The registered connections are those with an owner. -/
theorem Consistent.registers_iff (consistent : manager.Consistent) (id : String) :
    manager.registers id = true ↔ id ∈ manager.owners := by
  rw [registers, Bool.or_eq_true, decide_eq_true_eq, ← AList.mem_keys]
  constructor
  · rintro (owned | listed)
    · exact owned
    · obtain ⟨⟨owner, devices⟩, member, holds⟩ := List.any_eq_true.mp listed
      have found : manager.devices.lookup owner = some devices := AList.mem_lookup_iff.mpr member
      have owned := consistent owner devices id found (AList.mem_keys.mpr (of_decide_eq_true holds))
      exact AList.lookup_isSome.mp (by rw [owned, Option.isSome_some])
  · exact Or.inl

theorem consistent_iff :
    manager.Consistent ↔ ∀ owner id, (manager.registration owner id).isSome →
      manager.owners.lookup id = some owner := by
  constructor
  · intro consistent owner id registered
    obtain ⟨devices, found, listed⟩ := isSome_registration.mp registered
    exact consistent owner devices id found listed
  · intro owned owner devices id found listed
    exact owned owner id (isSome_registration.mpr ⟨devices, found, listed⟩)

/-- A connection is taken out of both maps. -/
theorem Consistent.unregister (consistent : manager.Consistent) {owner : DeviceOwner} {id : String}
    (owned : manager.owners.lookup id = some owner) : (manager.unregister owner id).Consistent := by
  rw [consistent_iff] at consistent ⊢
  intro other listed registered
  rw [registration_unregister] at registered
  split_ifs at registered with removed
  · cases registered
  · have ownedEarlier := consistent other listed registered
    have different : listed ≠ id := by
      rintro rfl
      exact removed ⟨Option.some.inj (ownedEarlier.symm.trans owned), rfl⟩
    rw [owners_unregister, AList.lookup_erase_ne different]
    exact ownedEarlier

theorem Consistent.removeDevice (consistent : manager.Consistent) (owner : DeviceOwner)
    (id : String) : (manager.removeDevice owner id).Consistent := by
  rw [removeDevice_eq]
  split_ifs with owned
  · exact consistent.unregister owned
  · exact consistent

theorem Consistent.removeConnection (consistent : manager.Consistent) (id : String) :
    (manager.removeConnection id).1.Consistent := by
  rw [removeConnection_eq]
  cases owned : manager.owners.lookup id with
  | none => exact consistent
  | some owner => exact consistent.unregister owned

/-- A registration adds one connection. -/
theorem mem_owners_addDevice {owner : DeviceOwner} {id other : String} {device : DeviceInfo}
    (member : other ∈ (manager.addDevice owner id device).1.owners) :
    other = id ∨ other ∈ manager.owners := by
  rw [← AList.lookup_isSome, lookup_owners_addDevice] at member
  split_ifs at member with new displaced
  · exact Or.inl new
  · cases member
  · exact Or.inr (AList.lookup_isSome.mp member)

theorem Consistent.addDevice (consistent : manager.Consistent) (owner : DeviceOwner) (id : String)
    (device : DeviceInfo) : (manager.addDevice owner id device).1.Consistent := by
  rw [consistent_iff] at consistent ⊢
  intro other listed registered
  rw [lookup_owners_addDevice]
  by_cases same : other = owner
  · subst same
    rw [registration_addDevice] at registered
    split_ifs at registered with new displaced
    · rw [if_pos new]
    · cases registered
    · rw [if_neg new, if_neg displaced]
      exact consistent other listed registered
  · rw [registration_addDevice_of_ne same] at registered
    split_ifs at registered with taken
    · cases registered
    · have owned := consistent other listed registered
      rw [if_neg, if_neg, owned]
      · intro displaced
        obtain ⟨-, victim, isVictim, -⟩ := mem_conflicts_iff.mp displaced
        have ownedHere := consistent owner listed (by rw [isVictim, Option.isSome_some])
        exact same (Option.some.inj (owned.symm.trans ownedHere))
      · rintro rfl
        exact taken ⟨owned, rfl⟩

end DeviceManager

/-! ## Handlers -/

/-- The connection whose disconnect a job handles. -/
def Job.cleans : Job → Option String
  | .transportError id | .disconnected id | .removeDisconnected id | .unregister id => some id
  | _ => none

/-- The jobs of a disconnect, and those of the timeout cleanup. -/
def Job.handlesLifetime : Job → Bool
  | .scan _ | .evict _ => true
  | job => job.cleans.isSome

theorem Job.handlesLifetime_of_cleans (job : Job) {id : String} (cleans : job.cleans = some id) :
    job.handlesLifetime = true := by
  cases job with
  | transportError id => rfl
  | disconnected id => rfl
  | removeDisconnected id => rfl
  | unregister id => rfl
  | _ => cases cleans

/-- The consumers that are in the middle of CONNECT. -/
def Consumer.connects : Consumer → Bool
  | .receive | .taken _ _ | .refreshed _ _ | .negotiated _ _ _ | .preNegotiation _ _
  | .handling _ _ => false
  | _ => true

section Registration

variable [Hashing]

/-- No handler is in progress. -/
structure Runtime.Quiescent (state : Runtime) : Prop where
  consumers : ∀ id consumer, state.consumers id = some consumer → consumer.connects = false
  jobs : ∀ job ∈ state.world.jobs, job.handlesLifetime = false

namespace World

/-- The device manager has the connection. -/
def registers (world : World) (id : String) : Bool :=
  world.devices.any fun devices => devices.registers id

/-- A handler of the connection's disconnect is still to come. -/
def cleanupPending (world : World) (id : String) : Bool :=
  world.jobs.any fun job => job.cleans = some id

theorem cleanupPending_iff {world : World} {id : String} :
    world.cleanupPending id = true ↔ ∃ job ∈ world.jobs, job.cleans = some id := by
  simp [cleanupPending]

end World

/-! ## What the tasks do to devices and handlers -/

section Steps

variable [RustText] (setting : Setting) (world : World) (answer : Answer)

/-- A job keeps the other jobs, and leaves more of them. -/
theorem Job.jobs_perform (job : Job) :
    ∃ more, (job.perform setting.registries setting.stamps setting.enumeration world answer).jobs =
        world.jobs ++ more ∧
      ∀ id, job.cleans = some id → job = .unregister id ∨ ∃ next ∈ more, next.cleans = some id := by
  have unconcerned : ∀ {other : Job} {more : List Job}, other.cleans = none → ∀ id,
      other.cleans = some id → other = .unregister id ∨ ∃ next ∈ more, next.cleans = some id := by
    intro other more nothing id cleans
    rw [nothing] at cleans
    cases cleans
  cases job with
  | systemCommand id frame received =>
      simp only [perform, World.handleSystemCommand]
      split
      all_goals first
        | exact ⟨_, rfl, unconcerned rfl⟩
        | exact ⟨[], (List.append_nil _).symm, unconcerned rfl⟩
  | systemEvent id frame received => exact ⟨_, rfl, unconcerned rfl⟩
  | customCommand id frame received => exact ⟨_, List.append_assoc .., unconcerned rfl⟩
  | readUser owner fanout => exact ⟨_, rfl, unconcerned rfl⟩
  | read reads fanout => cases reads <;> exact ⟨_, rfl, unconcerned rfl⟩
  | deliver fanout =>
      simp only [perform, World.deliver]
      split <;> exact ⟨_, rfl, unconcerned rfl⟩
  | activate now groups =>
      cases groups with
      | nil => exact ⟨[], (List.append_nil _).symm, unconcerned rfl⟩
      | cons group groups => exact ⟨_, rfl, unconcerned rfl⟩
  | transportError id =>
      refine ⟨_, rfl, ?_⟩
      rintro other same
      exact Or.inr ⟨_, List.mem_singleton_self _, same⟩
  | disconnected id =>
      refine ⟨_, rfl, ?_⟩
      rintro other same
      exact Or.inr ⟨_, List.mem_singleton_self _, same⟩
  | removeDisconnected id =>
      refine ⟨_, rfl, ?_⟩
      rintro other same
      exact Or.inr ⟨_, List.mem_singleton_self _, same⟩
  | unregister id =>
      refine ⟨[], (List.append_nil _).symm, ?_⟩
      rintro other same
      exact Or.inl (Option.some.inj same ▸ rfl)
  | scan timeout => exact ⟨_, rfl, unconcerned rfl⟩
  | forceClose => exact ⟨_, rfl, unconcerned rfl⟩
  | _ => exact ⟨[], (List.append_nil _).symm, unconcerned rfl⟩

/-- Only the end of a disconnect changes the devices. -/
theorem Job.devices_perform (job : Job) :
    (job.perform setting.registries setting.stamps setting.enumeration world answer).devices =
        world.devices ∨
      ∃ id, job = .unregister id ∧
        (job.perform setting.registries setting.stamps setting.enumeration world answer).devices =
          world.devices.map fun devices => (devices.removeConnection id).1 := by
  cases job with
  | systemCommand id frame received =>
      simp only [perform, World.handleSystemCommand]
      split <;> exact Or.inl rfl
  | read reads fanout => cases reads <;> exact Or.inl rfl
  | deliver fanout =>
      simp only [perform, World.deliver]
      split <;> exact Or.inl rfl
  | activate now groups => cases groups <;> exact Or.inl rfl
  | unregister id => exact Or.inr ⟨id, rfl, rfl⟩
  | _ => exact Or.inl rfl

/-- A consumer keeps the jobs. -/
theorem World.jobs_consume (id : String) (consumer : Consumer) :
    ∃ more, (world.consume setting id answer consumer).1.jobs = world.jobs ++ more := by
  have same : world.jobs = world.jobs ++ [] := (List.append_nil _).symm
  have explained : ∀ encoded : Result Wire, (world.explain id encoded).jobs = world.jobs := by
    intro encoded
    cases encoded <;> rfl
  cases consumer with
  | receive =>
      simp only [consume, takeUp]
      split
      · exact ⟨[], same⟩
      · split_ifs <;> exact ⟨[], same⟩
  | negotiated data info received =>
      simp only [consume, handleNegotiatedMessage]
      split_ifs
      · exact ⟨[], same⟩
      · split <;> exact ⟨[], same⟩
  | handling frame received =>
      simp only [consume, handleFrame]
      split <;> try split_ifs
      all_goals first
        | exact ⟨[], same⟩
        | exact ⟨_, rfl⟩
  | registering acceptance =>
      simp only [consume, register]
      split <;> exact ⟨[], same⟩
  | kicking conflict victims =>
      cases victims with
      | nil => exact ⟨[], same⟩
      | cons victim victims =>
          simp only [consume, kick]
          split_ifs
          · exact ⟨[], same⟩
          · split
            · exact ⟨[], same⟩
            · split <;> exact ⟨[], same⟩
  | acknowledging profile conflicts =>
      simp only [consume, acknowledge]
      split <;> exact ⟨[], same⟩
  | rejectingLate profile error => exact ⟨[], (explained _).trans same⟩
  | rejecting error =>
      simp only [consume, rejectConnect]
      split
      · exact ⟨[], same⟩
      · exact ⟨[], (explained _).trans same⟩
  | _ => exact ⟨[], same⟩

/-- CONNECT registers the device of the connection, and unregisters those it displaces. -/
theorem World.devices_consume (id : String) (consumer : Consumer) :
    (world.consume setting id answer consumer).1.devices = world.devices ∨
      (∃ acceptance devices device owner, consumer = .registering acceptance ∧
        world.devices = some devices ∧ acceptance.negotiation.deviceInfo = some device ∧
        acceptance.identity.deviceOwner = some owner ∧
        (world.consume setting id answer consumer).1.devices =
          some (devices.addDevice owner id device).1) ∨
      ∃ owner victim, (world.consume setting id answer consumer).1.devices =
        world.devices.map fun devices => devices.removeDevice owner victim := by
  have explained : ∀ encoded : Result Wire,
      (world.explain id encoded).devices = world.devices := by
    intro encoded
    cases encoded <;> rfl
  cases consumer with
  | receive =>
      simp only [consume, takeUp]
      split
      · exact Or.inl rfl
      · split_ifs <;> exact Or.inl rfl
  | negotiated data info received =>
      simp only [consume, handleNegotiatedMessage]
      split_ifs
      · exact Or.inl rfl
      · split <;> exact Or.inl rfl
  | handling frame received =>
      simp only [consume, handleFrame]
      split <;> try split_ifs
      all_goals exact Or.inl rfl
  | registering acceptance =>
      simp only [consume, register]
      split
      · next devices device owner found info identity =>
          exact Or.inr (Or.inl ⟨acceptance, devices, device, owner, rfl, found, info, identity,
            rfl⟩)
      · exact Or.inl rfl
  | kicking conflict victims =>
      cases victims with
      | nil => exact Or.inl rfl
      | cons victim victims =>
          simp only [consume, kick]
          split_ifs
          · exact Or.inl rfl
          · split
            · exact Or.inl rfl
            · split <;> exact Or.inl rfl
  | kickUnregistering conflict victim victims =>
      exact Or.inr (Or.inr ⟨conflict.owner, victim, rfl⟩)
  | acknowledging profile conflicts =>
      simp only [consume, acknowledge]
      split <;> exact Or.inl rfl
  | rejectingLate profile error => exact Or.inl (explained _)
  | rejecting error =>
      simp only [consume, rejectConnect]
      split
      · exact Or.inl rfl
      · exact Or.inl (explained _)
  | _ => exact Or.inl rfl

end Steps

/-! ## Devices that are left behind -/

section Invariant

variable [RustText] {setting : Setting}

/-- The step removes a registered connection, and no handler of its disconnect is still to
come. -/
def Runtime.removesRegistered (setting : Setting) (state : Runtime) (move : Move) : Bool :=
  (state.removes setting move).any fun id =>
    state.world.registers id && !state.world.cleanupPending id

/-- The step registers a connection that is gone, and no handler of its disconnect is still to
come. -/
def Runtime.registersGone (state : Runtime) : Move → Bool
  | .consume id _ =>
      match state.consumers id with
      | some (.registering acceptance) =>
          state.world.devices.isSome && acceptance.negotiation.deviceInfo.isSome &&
            acceptance.identity.deviceOwner.isSome &&
            (state.world.manager.connections.get id).isNone && !state.world.cleanupPending id
      | _ => false
  | _ => false

/-- The side condition of the runs in which no device is left behind. -/
def NothingAbandoned (setting : Setting) (state : Runtime) (move : Move) : Prop :=
  state.removesRegistered setting move = false ∧ state.registersGone move = false

instance (setting : Setting) (state : Runtime) (move : Move) :
    Decidable (NothingAbandoned setting state move) :=
  inferInstanceAs (Decidable (_ ∧ _))

/-- A registered connection is in the table, or its disconnect is being handled. -/
structure Runtime.Attended (state : Runtime) : Prop where
  consistent : ∀ devices, state.world.devices = some devices → devices.Consistent
  attended : ∀ id, state.world.registers id = true →
    state.world.manager.codec id ≠ none ∨ state.world.cleanupPending id = true

namespace Runtime

variable {state state' : Runtime} {move : Move}

/-- What is not removed stays in the table. -/
theorem present_step (stepped : state.step setting move = some state') {id : String}
    (present : state.world.manager.codec id ≠ none) (kept : id ∉ state.removes setting move) :
    state'.world.manager.codec id ≠ none := by
  rcases Runtime.codec_step stepped id with evolves | ⟨-, -, codec, found, -⟩ |
    ⟨answer, consumer, rfl, current, negotiates⟩
  · rw [evolves.of_notMem kept]
    exact present
  · rw [found]
    exact Option.some_ne_none codec
  · obtain ⟨consumer, found, rfl⟩ := Option.map_eq_some_iff.mp stepped
    obtain rfl := Option.some.inj (current.symm.trans found)
    cases consumer with
    | informing acceptance =>
        dsimp only
        rw [World.codec_informing]
        exact fun gone => present (Option.map_eq_none_iff.mp gone)
    | storing profile device userId =>
        dsimp only
        rw [World.codec_storing]
        exact fun gone => present (Option.map_eq_none_iff.mp gone)
    | _ => cases negotiates

/-- The handling of a disconnect goes on until the device is unregistered. -/
theorem cleanup_step (stepped : state.step setting move = some state') {id : String}
    (pending : state.world.cleanupPending id = true) :
    state'.world.cleanupPending id = true ∨
      ∃ index answer, move = .work index answer ∧
        state.world.jobs[index]? = some (.unregister id) := by
  obtain ⟨job, listed, cleans⟩ := World.cleanupPending_iff.mp pending
  have kept : ∀ {more : List Job}, state'.world.jobs = state.world.jobs ++ more →
      state'.world.cleanupPending id = true := by
    intro more extended
    exact World.cleanupPending_iff.mpr
      ⟨job, extended ▸ List.mem_append_left _ listed, cleans⟩
  cases move with
  | accept other connection =>
      obtain ⟨manager, consumers, rfl, -⟩ := Runtime.accept_cases stepped
      exact Or.inl (kept (List.append_nil _).symm)
  | consume other answer =>
      obtain ⟨consumer, -, rfl⟩ := Option.map_eq_some_iff.mp stepped
      obtain ⟨more, extended⟩ := state.world.jobs_consume setting answer other consumer
      exact Or.inl (kept extended)
  | work index answer =>
      obtain ⟨current, found, rfl⟩ := Option.map_eq_some_iff.mp stepped
      obtain ⟨more, extended, continues⟩ := current.jobs_perform setting
        { state.world with jobs := state.world.jobs.eraseIdx index } answer
      by_cases own : job = current
      · subst own
        rcases continues id cleans with rfl | ⟨next, new, nextCleans⟩
        · exact Or.inr ⟨index, answer, rfl, found⟩
        · refine Or.inl (World.cleanupPending_iff.mpr ⟨next, ?_, nextCleans⟩)
          exact extended ▸ List.mem_append_right _ new
      · refine Or.inl (World.cleanupPending_iff.mpr ⟨job, ?_, cleans⟩)
        refine extended ▸ List.mem_append_left _ ?_
        exact mem_eraseIdx_of_ne found own listed
  | flush handle succeeds =>
      rcases Runtime.flush_cases stepped with ⟨data, manager, -, -, rfl⟩ |
        ⟨data, manager, jobs, -, -, -, rfl⟩
      · exact Or.inl (kept (List.append_nil _).symm)
      · exact Or.inl (kept rfl)
  | _ =>
      obtain ⟨inbound, clock, frames, jobs, written, rfl, -⟩ := Runtime.outer_cases rfl stepped
      exact Or.inl (kept rfl)

/-- What a step does to the devices. -/
theorem devices_step (stepped : state.step setting move = some state') :
    state'.world.devices = state.world.devices ∨
      (∃ id answer acceptance devices device owner, move = .consume id answer ∧
        state.consumers id = some (.registering acceptance) ∧
        state.world.devices = some devices ∧ acceptance.negotiation.deviceInfo = some device ∧
        acceptance.identity.deviceOwner = some owner ∧
        state'.world.devices = some (devices.addDevice owner id device).1) ∨
      (∃ owner victim, state'.world.devices =
        state.world.devices.map fun devices => devices.removeDevice owner victim) ∨
      ∃ id, state'.world.devices =
        state.world.devices.map fun devices => (devices.removeConnection id).1 := by
  cases move with
  | accept other connection =>
      obtain ⟨manager, consumers, rfl, -⟩ := Runtime.accept_cases stepped
      exact Or.inl rfl
  | consume other answer =>
      obtain ⟨consumer, found, rfl⟩ := Option.map_eq_some_iff.mp stepped
      rcases state.world.devices_consume setting answer other consumer with same |
        ⟨acceptance, devices, device, owner, rfl, rest⟩ | ⟨owner, victim, removed⟩
      · exact Or.inl same
      · exact Or.inr (Or.inl ⟨other, answer, acceptance, devices, device, owner, rfl, found, rest⟩)
      · exact Or.inr (Or.inr (Or.inl ⟨owner, victim, removed⟩))
  | work index answer =>
      obtain ⟨job, found, rfl⟩ := Option.map_eq_some_iff.mp stepped
      rcases job.devices_perform setting
        { state.world with jobs := state.world.jobs.eraseIdx index } answer with same |
        ⟨id, -, removed⟩
      · exact Or.inl same
      · exact Or.inr (Or.inr (Or.inr ⟨id, removed⟩))
  | flush handle succeeds =>
      rcases Runtime.flush_cases stepped with ⟨data, manager, -, -, rfl⟩ |
        ⟨data, manager, jobs, -, -, -, rfl⟩ <;> exact Or.inl rfl
  | _ =>
      obtain ⟨inbound, clock, frames, jobs, written, rfl, -⟩ := Runtime.outer_cases rfl stepped
      exact Or.inl rfl

namespace Attended

variable (attended : state.Attended)

include attended

theorem consistent_step (stepped : state.step setting move = some state') :
    ∀ devices, state'.world.devices = some devices → devices.Consistent := by
  intro devices found
  rcases devices_step stepped with same |
    ⟨id, answer, acceptance, earlier, device, owner, -, -, present, -, -, added⟩ |
    ⟨owner, victim, removed⟩ | ⟨id, removed⟩
  · exact attended.consistent devices (same ▸ found)
  · rw [added] at found
    exact Option.some.inj found ▸ (attended.consistent earlier present).addDevice owner id device
  · rw [removed] at found
    obtain ⟨earlier, present, rfl⟩ := Option.map_eq_some_iff.mp found
    exact (attended.consistent earlier present).removeDevice owner victim
  · rw [removed] at found
    obtain ⟨earlier, present, rfl⟩ := Option.map_eq_some_iff.mp found
    exact (attended.consistent earlier present).removeConnection id

omit [RustText] attended in
theorem registers_iff {state : Runtime}
    (consistent : ∀ devices, state.world.devices = some devices → devices.Consistent) (id : String) :
    state.world.registers id = true ↔
      ∃ devices, state.world.devices = some devices ∧ id ∈ devices.owners := by
  rw [World.registers, Option.any_eq_true]
  constructor
  · rintro ⟨devices, found, holds⟩
    exact ⟨devices, found, ((consistent devices found).registers_iff id).mp holds⟩
  · rintro ⟨devices, found, owned⟩
    exact ⟨devices, found, ((consistent devices found).registers_iff id).mpr owned⟩

/-- Only CONNECT registers a connection, its own. -/
theorem registers_step (stepped : state.step setting move = some state') {id : String}
    (registered : state'.world.registers id = true) :
    state.world.registers id = true ∨
      ∃ answer acceptance, move = .consume id answer ∧
        state.consumers id = some (.registering acceptance) ∧
        state.world.devices.isSome = true ∧ acceptance.negotiation.deviceInfo.isSome = true ∧
        acceptance.identity.deviceOwner.isSome = true := by
  obtain ⟨devices, found, owned⟩ :=
    (registers_iff (attended.consistent_step stepped) id).mp registered
  rw [registers_iff attended.consistent]
  rcases devices_step stepped with same |
    ⟨own, answer, acceptance, earlier, device, owner, rfl, current, present, info, identity, added⟩ |
    ⟨owner, victim, removed⟩ | ⟨own, removed⟩
  · exact Or.inl ⟨devices, same ▸ found, owned⟩
  · rw [added] at found
    obtain rfl := Option.some.inj found
    rcases DeviceManager.mem_owners_addDevice owned with rfl | member
    · exact Or.inr ⟨answer, acceptance, rfl, current, by simp [present], by simp [info],
        by simp [identity]⟩
    · exact Or.inl ⟨earlier, present, member⟩
  · rw [removed] at found
    obtain ⟨earlier, present, rfl⟩ := Option.map_eq_some_iff.mp found
    exact Or.inl ⟨earlier, present, DeviceManager.mem_owners_removeDevice owned⟩
  · rw [removed] at found
    obtain ⟨earlier, present, rfl⟩ := Option.map_eq_some_iff.mp found
    exact Or.inl ⟨earlier, present, (DeviceManager.mem_owners_removeConnection owned).2⟩

/-- At the end of a disconnect the connection is not registered. -/
theorem not_registers_of_unregister {index : Nat} {answer : Answer} {id : String}
    (found : state.world.jobs[index]? = some (.unregister id))
    (stepped : state.step setting (.work index answer) = some state') :
    state'.world.registers id ≠ true := by
  intro registered
  obtain ⟨devices, present, owned⟩ :=
    (registers_iff (attended.consistent_step stepped) id).mp registered
  obtain ⟨job, current, rfl⟩ := Option.map_eq_some_iff.mp stepped
  obtain rfl := Option.some.inj (found.symm.trans current)
  obtain ⟨earlier, -, rfl⟩ := Option.map_eq_some_iff.mp present
  exact (DeviceManager.mem_owners_removeConnection owned).1 rfl

/-- **A step that leaves no device behind keeps the invariant.** -/
theorem step (kept : NothingAbandoned setting state move)
    (stepped : state.step setting move = some state') : state'.Attended where
  consistent := attended.consistent_step stepped
  attended id registered := by
    have handled : state.world.cleanupPending id = true →
        state'.world.cleanupPending id = true := by
      intro pending
      rcases cleanup_step stepped pending with still | ⟨index, answer, rfl, found⟩
      · exact still
      · exact absurd registered (attended.not_registers_of_unregister found stepped)
    rcases attended.registers_step stepped registered with before |
      ⟨answer, acceptance, rfl, current, devices, device, owner⟩
    · rcases attended.attended id before with present | pending
      · by_cases removed : id ∈ state.removes setting move
        · have attendedTo := List.any_eq_false.mp kept.1 id removed
          rw [before, Bool.true_and, Bool.not_eq_true', Bool.not_eq_false] at attendedTo
          exact Or.inr (handled attendedTo)
        · exact Or.inl (present_step stepped present removed)
      · exact Or.inr (handled pending)
    · have inTime := kept.2
      simp only [registersGone, current, devices, device, owner, Bool.true_and, Bool.and_eq_false_iff,
        Option.isNone_eq_false_iff, Bool.not_eq_false'] at inTime
      refine inTime.imp ?_ handled
      intro present
      refine present_step stepped ?_ ?_
      · intro gone
        rw [ConnectionManager.get_eq_none_iff.mpr gone] at present
        cases present
      · simp [removes, current, Consumer.removes]

end Attended

end Runtime

/-- **A registered device has its connection whenever no handler is in progress**, in every run
in which no device is registered for a connection that is gone, and no registered connection is
removed, without a handler of its disconnect still to come. -/
theorem registered_devices_connected (setting : Setting) (writeQueueCapacity : Nat)
    (strategy : Option DeviceConflictStrategy) (clock : Instant) {state : Runtime}
    (reached : (serverSystem setting).Reaches (NothingAbandoned setting)
      (Runtime.initial writeQueueCapacity (strategy.map DeviceManager.new) clock) state)
    (quiescent : state.Quiescent) {devices : DeviceManager}
    (present : state.world.devices = some devices) (id : String)
    (registered : devices.registers id = true) :
    (state.world.manager.connections.get id).isSome := by
  have attended : state.Attended := by
    refine System.Reaches.invariant (I := Runtime.Attended) reached ⟨?_, ?_⟩ ?_
    · intro devices found
      obtain ⟨strategy, -, rfl⟩ := Option.map_eq_some_iff.mp found
      exact DeviceManager.consistent_new strategy
    · intro id registered
      obtain ⟨devices, found, holds⟩ := (Option.any_eq_true _ _).mp registered
      obtain ⟨strategy, -, rfl⟩ := Option.map_eq_some_iff.mp found
      cases holds
    · rintro before after ⟨move, kept, stepped⟩ invariant
      exact invariant.step kept stepped
  have registers : state.world.registers id = true := by
    rw [World.registers, present]
    exact registered
  rcases attended.attended id registers with found | pending
  · rw [Option.isSome_iff_ne_none]
    exact fun gone => found (ConnectionManager.get_eq_none_iff.mp gone)
  · obtain ⟨job, listed, cleans⟩ := World.cleanupPending_iff.mp pending
    have handled := quiescent.jobs job listed
    rw [job.handlesLifetime_of_cleans cleans] at handled
    cases handled

end Invariant

/-! ## Concrete runs -/

/-- A state is quiescent if the consumers of the accepted connections and the jobs are. -/
theorem Runtime.quiescent_of_run [RustText] {setting : Setting} {moves : List Move}
    {start state : Runtime} (accepted : List String)
    (evaluated : (serverSystem setting).run start moves = some state)
    (empty : ∀ id, start.consumers id = none)
    (listed : ∀ id connection, Move.accept id connection ∈ moves → id ∈ accepted)
    (idle : (accepted.all fun id => (state.consumers id).all fun consumer => !consumer.connects) =
      true)
    (done : (state.world.jobs.all fun job => !job.handlesLifetime) = true) : state.Quiescent where
  consumers id consumer found := by
    rcases Runtime.accepted_of_run evaluated found with started | ⟨connection, member⟩
    · rw [empty id] at started
      cases started
    · have quiet := List.all_eq_true.mp idle id (listed id connection member)
      rw [found] at quiet
      simpa using quiet
  jobs job member := by
    simpa using List.all_eq_true.mp done job member

end Registration

section Runs

open scoped SingleShard AsciiText

/-- Both connections of `devicesConnect` are accepted, and no other. -/
theorem mem_accepted_devicesConnect {firstSteps secondSteps : Nat} {id : String}
    {connection : ConnectionHandle}
    (member : Move.accept id connection ∈ devicesConnect firstSteps secondSteps) :
    id ∈ ["a", "b"] := by
  simp [devicesConnect] at member
  rcases member with ⟨rfl, -⟩ | ⟨rfl, -⟩ <;> decide

/-- The second device displaces the first and stays: the theorem applies. -/
theorem registered_devices_connected_displaced :
    ∃ state, (serverSystem openSetting).Reaches (NothingAbandoned openSetting) exclusiveServer
        state ∧ state.Quiescent ∧
      ∃ devices, state.world.devices = some devices ∧ devices.registers "b" = true ∧
        (state.world.manager.connections.get "b").isSome := by
  have run : ((serverSystem openSetting).run exclusiveServer (devicesConnect 14 18)).any
      (fun state => (["a", "b"].all fun id => (state.consumers id).all fun consumer =>
          !consumer.connects) && (state.world.jobs.all fun job => !job.handlesLifetime) &&
        state.world.devices.any fun devices => devices.registers "b") = true := by
    decide +kernel
  have permitted : (serverSystem openSetting).Permits (NothingAbandoned openSetting)
      exclusiveServer (devicesConnect 14 18) := by
    decide +kernel
  obtain ⟨state, evaluated, holds⟩ := (Option.any_eq_true _ _).mp run
  rw [Bool.and_eq_true, Bool.and_eq_true] at holds
  obtain ⟨devices, found, registered⟩ := (Option.any_eq_true _ _).mp holds.2
  have reached := System.reaches_of_run evaluated permitted
  have quiescent := Runtime.quiescent_of_run ["a", "b"] evaluated (fun _ => rfl)
    (fun _ _ member => mem_accepted_devicesConnect member) holds.1.1 holds.1.2
  exact ⟨state, reached, quiescent, devices, found, registered,
    registered_devices_connected openSetting 8 (some .platformExclusive) 0 reached quiescent found
      "b" registered⟩

/-- The connection is closed when its CONNECT is about to register the device, and the
acknowledgement cannot be written. -/
def closedBeforeRegistration : List Move :=
  devicesConnect 8 0 ++ [.closed "a" false] ++ List.replicate 3 (.work 0 ⟨.ok none, true⟩) ++
    List.replicate 4 (.consume "a" ⟨.ok none, false⟩)

/-- **A disconnect between acceptance and registration leaves a device behind.** -/
theorem device_left_behind_by_disconnect :
    ∃ state, (serverSystem openSetting).Reaches System.always exclusiveServer state ∧
      state.Quiescent ∧ ∃ devices, state.world.devices = some devices ∧
        devices.registers "a" = true ∧ state.world.manager.connections.get "a" = none := by
  have run : ((serverSystem openSetting).run exclusiveServer closedBeforeRegistration).any
      (fun state => (["a", "b"].all fun id => (state.consumers id).all fun consumer =>
          !consumer.connects) && (state.world.jobs.all fun job => !job.handlesLifetime) &&
        (state.world.devices.any fun devices => devices.registers "a") &&
        (state.world.manager.connections.get "a").isNone) = true := by
    decide +kernel
  have accepts : ∀ id connection, Move.accept id connection ∈ closedBeforeRegistration →
      id ∈ ["a", "b"] := by
    intro id connection member
    rw [closedBeforeRegistration, List.append_assoc, List.append_assoc, List.mem_append] at member
    rcases member with connects | rest
    · exact mem_accepted_devicesConnect connects
    · simp at rest
  obtain ⟨state, evaluated, holds⟩ := (Option.any_eq_true _ _).mp run
  rw [Bool.and_eq_true, Bool.and_eq_true, Bool.and_eq_true] at holds
  obtain ⟨⟨⟨idle, done⟩, registered⟩, gone⟩ := holds
  obtain ⟨devices, found, holds⟩ := (Option.any_eq_true _ _).mp registered
  exact ⟨state, System.reaches_of_run evaluated (System.permits_always _ _),
    Runtime.quiescent_of_run ["a", "b"] evaluated (fun _ => rfl) accepts idle done, devices, found,
    holds, Option.isNone_iff_eq_none.mp gone⟩

end Runs

end FlareCore.Server
