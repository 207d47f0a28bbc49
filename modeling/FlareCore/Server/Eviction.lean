import FlareCore.Server.DevicePolicy
import FlareCore.Server.Encoding

/-!
# Logins that evict each other

Any number of CONNECTs of one owner may be in `handle_device_conflict` at the same time.  Each
registers its device, which is one critical section of the device manager, and then takes the
connections that the registration returned one by one: it looks the connection up, writes
KICKED to it, unregisters it and removes it from the connection table.  Other logins run in
between, so a login may find itself displaced while it is still disconnecting its own victims.

Two logins never disconnect each other all the same.  A registration displaces only what is
registered, and what is registered is nobody's victim (`Evicting`): the connections that still
stand at the end are the registered ones, and the connection that registered last is among them.
-/

namespace FlareCore.Server

open FlareCore.Common FlareCore.Foundations

set_option autoImplicit false

/-! ## Consumers in `handle_device_conflict` -/

namespace Consumer

/-- The device is not registered yet. -/
def isRegistering : Consumer → Bool
  | .registering _ => true
  | _ => false

/-- The call of `handle_device_conflict` has not returned. -/
def handlesConflict : Consumer → Bool
  | .registering _ | .kicking _ _ | .kickSending _ _ _ _ | .kickUnregistering _ _ _
  | .kickRemoving _ _ _ => true
  | _ => false

/-- The connections that a call still has to disconnect. -/
def victims : Consumer → List String
  | .kicking _ victims => victims
  | .kickSending _ victim _ victims | .kickUnregistering _ victim victims
  | .kickRemoving _ victim victims => victim :: victims
  | _ => []

/-- The call is for a device of the owner, or has returned. -/
def ActsFor (owner : DeviceOwner) : Consumer → Prop
  | .registering acceptance =>
      acceptance.negotiation.deviceInfo.isSome ∧ acceptance.identity.deviceOwner = some owner
  | .kicking conflict _ | .kickSending conflict _ _ _ | .kickUnregistering conflict _ _
  | .kickRemoving conflict _ _ => conflict.owner = owner
  | .acknowledging _ _ => True
  | _ => False

instance (owner : DeviceOwner) : ∀ consumer : Consumer, Decidable (consumer.ActsFor owner)
  | .registering _ => inferInstanceAs (Decidable (_ ∧ _))
  | .kicking _ _ | .kickSending _ _ _ _ | .kickUnregistering _ _ _ | .kickRemoving _ _ _ =>
      inferInstanceAs (Decidable (_ = _))
  | .acknowledging _ _ => isTrue trivial
  | .receive | .taken _ _ | .refreshed _ _ | .negotiated _ _ _ | .preNegotiation _ _
  | .handling _ _ | .connecting _ | .authenticating _ | .informing _ | .marking _ | .completing _
  | .storing _ _ _ | .notifying _ | .rejectingLate _ _ | .rejecting _ | .removing => isFalse id

theorem victims_eq_nil_of_returned {consumer : Consumer}
    (returned : consumer.handlesConflict = false) : consumer.victims = [] := by
  cases consumer <;> first | rfl | cases returned

theorem isRegistering_of_returned {consumer : Consumer}
    (returned : consumer.handlesConflict = false) : consumer.isRegistering = false := by
  cases consumer <;> first | rfl | cases returned

end Consumer

section Eviction

variable [Hashing]

namespace Runtime

variable (state : Runtime)

/-- The connection is in the table. -/
def connects (id : String) : Bool :=
  (state.world.manager.connections.get id).isSome

def isRegistering (id : String) : Bool :=
  (state.consumers id).any Consumer.isRegistering

/-- The connections that the call for a connection still has to disconnect. -/
def victims (id : String) : List String :=
  (state.consumers id).elim [] Consumer.victims

/-- The call for the connection is in progress. -/
def handlesConflict (id : String) : Bool :=
  (state.consumers id).any Consumer.handlesConflict

end Runtime

/-- Only the given calls of `handle_device_conflict` go on. -/
def HandlesConflicts (calls : List String) (state : Runtime) : Move → Prop
  | .consume id _ => id ∈ calls ∧ state.handlesConflict id = true
  | _ => False

instance (calls : List String) (state : Runtime) : DecidablePred (HandlesConflicts calls state)
  | .consume _ _ => inferInstanceAs (Decidable (_ ∧ _))
  | .accept _ _ | .arrive _ _ | .websocketPing _ | .closed _ _ | .call _ | .work _ _ | .flush _ _
  | .tick _ => isFalse id

/-- The connections in the order of their registration. -/
def recordRegistration (state : Runtime) (move : Move) (_ : Runtime) (log : List String) :
    List String :=
  match move with
  | .consume id _ => if state.isRegistering id then log ++ [id] else log
  | _ => log

/-- Logins of one owner that are about to register: their connections are in the table and
have not been registered for the owner before, and so are those of the owner's other devices. -/
structure Logins (owner : DeviceOwner) (calls : List String) (devices : DeviceManager)
    (state : Runtime) : Prop where
  found : state.world.devices = some devices
  registering : ∀ id ∈ calls, ∃ consumer, state.consumers id = some consumer ∧
    consumer.isRegistering = true ∧ consumer.ActsFor owner
  connected : ∀ id ∈ calls, state.connects id = true
  unregistered : ∀ id ∈ calls, devices.registration owner id = none
  residents : ∀ id, (devices.registration owner id).isSome → state.connects id = true

/-! ## What a step of a call does -/

/-- A call registers its device, unregisters a victim, removes it from the connection table,
passes over its own connection, or does something that neither table shows. -/
inductive Runtime.ConflictStep (owner : DeviceOwner) (state : Runtime) (id : String)
    (next : Runtime) : Prop where
  | register (devices : DeviceManager) (device : DeviceInfo)
      (registering : state.isRegistering id = true)
      (before : state.world.devices = some devices)
      (after : next.world.devices = some (devices.addDevice owner id device).1)
      (connects : next.connects = state.connects)
      (victims : next.victims id = (devices.addDevice owner id device).2)
  | unregister (victim : String)
      (registered : state.isRegistering id = false)
      (listed : victim ∈ state.victims id)
      (devices : next.world.devices =
        state.world.devices.map fun devices => devices.removeDevice owner victim)
      (connects : next.connects = state.connects)
      (victims : next.victims id = state.victims id)
  | remove (victim : String)
      (registered : state.isRegistering id = false)
      (devices : next.world.devices = state.world.devices)
      (connects : ∀ other, next.connects other = (decide (other ≠ victim) && state.connects other))
      (victims : state.victims id = victim :: next.victims id)
  | pass
      (registered : state.isRegistering id = false)
      (devices : next.world.devices = state.world.devices)
      (connects : next.connects = state.connects)
      (victims : state.victims id = id :: next.victims id)
  | proceed
      (registered : state.isRegistering id = false)
      (devices : next.world.devices = state.world.devices)
      (connects : next.connects = state.connects)
      (victims : next.victims id = state.victims id)

section Steps

variable {state next : Runtime} {id : String} {owner : DeviceOwner} {consumer : Consumer}

namespace Runtime

theorem isRegistering_of_found (found : state.consumers id = some consumer) :
    state.isRegistering id = consumer.isRegistering := by
  rw [isRegistering, found, Option.any_some]

theorem victims_of_found (found : state.consumers id = some consumer) :
    state.victims id = consumer.victims := by
  rw [victims, found, Option.elim_some]

variable [RustText] {setting : Setting} {answer : Answer}

/-- The state after a step of a consumer. -/
theorem step_consume (found : state.consumers id = some consumer)
    (stepped : state.step setting (.consume id answer) = some next) :
    next = { state with
      world := (state.world.consume setting id answer consumer).1
      consumers := Function.update state.consumers id
        (some (state.world.consume setting id answer consumer).2) } := by
  rw [step, found, Option.map_some] at stepped
  exact (Option.some.inj stepped).symm

/-- What the call for a connection does next, and that it then still acts for the owner and is
registered. -/
theorem conflictStep_of_consume {devices : DeviceManager}
    (found : state.consumers id = some consumer) (acts : consumer.ActsFor owner)
    (handles : consumer.handlesConflict = true) (present : state.world.devices = some devices)
    (stepped : state.step setting (.consume id answer) = some next) :
    state.ConflictStep owner id next ∧
      ∃ later, next.consumers id = some later ∧ later.ActsFor owner ∧
        later.isRegistering = false := by
  have result := step_consume found stepped
  subst result
  have registering := isRegistering_of_found found
  have before := victims_of_found found
  have after : ∀ (world : World) (later : Consumer), Runtime.victims { state with
      world := world
      consumers := Function.update state.consumers id (some later) } id = later.victims := by
    intro world later
    simp only [victims, Function.update_self, Option.elim_some]
  cases consumer with
  | registering acceptance =>
      obtain ⟨hasDevice, isOwner⟩ := acts
      obtain ⟨device, isDevice⟩ := Option.isSome_iff_exists.mp hasDevice
      have registers : state.world.register id acceptance =
          ({ state.world with devices := some (devices.addDevice owner id device).1 },
            .kicking ⟨acceptance, owner, device, (devices.addDevice owner id device).2⟩
              (devices.addDevice owner id device).2) := by
        rw [World.register, present, isDevice, isOwner]
      simp only [World.consume, registers]
      exact ⟨.register devices device registering present rfl rfl (after _ _), _,
        Function.update_self .., rfl, rfl⟩
  | kicking conflict remaining =>
      cases remaining with
      | nil =>
          exact ⟨.proceed registering rfl rfl ((after _ _).trans before.symm), _,
            Function.update_self .., trivial, rfl⟩
      | cons victim remaining =>
          simp only [World.consume, World.kick]
          split_ifs with own
          · refine ⟨.pass registering rfl rfl ?_, _, Function.update_self .., acts, rfl⟩
            rw [before, after, ← own]
            rfl
          · cases state.world.manager.connections.get victim with
            | none =>
                exact ⟨.proceed registering rfl rfl ((after _ _).trans before.symm), _,
                  Function.update_self .., acts, rfl⟩
            | some entry =>
                dsimp only
                split
                all_goals
                  exact ⟨.proceed registering rfl rfl ((after _ _).trans before.symm), _,
                    Function.update_self .., acts, rfl⟩
  | kickSending conflict victim data remaining =>
      exact ⟨.proceed registering rfl rfl ((after _ _).trans before.symm), _,
        Function.update_self .., acts, rfl⟩
  | kickUnregistering conflict victim remaining =>
      obtain rfl : conflict.owner = owner := acts
      refine ⟨.unregister victim registering ?_ rfl rfl ((after _ _).trans before.symm), _,
        Function.update_self .., rfl, rfl⟩
      rw [before]
      exact List.mem_cons_self
  | kickRemoving conflict victim remaining =>
      refine ⟨.remove victim registering rfl (fun other => ?_) ?_, _, Function.update_self ..,
        acts, rfl⟩
      · simp only [connects, World.consume, World.withManager,
          ConnectionManager.get_removeConnection]
        split_ifs with gone <;> simp [gone]
      · rw [before, after]
        rfl
  | _ => cases handles

/-- A call leaves the other calls where they are. -/
theorem consumers_of_consume {other : String} (distinct : other ≠ id)
    (stepped : state.step setting (.consume id answer) = some next) :
    next.consumers other = state.consumers other := by
  rw [step] at stepped
  obtain ⟨consumer, -, rfl⟩ := Option.map_eq_some_iff.mp stepped
  exact Function.update_of_ne distinct ..

end Runtime

end Steps

/-! ## The invariant -/

/-- The connection has its place: it is registered, or about to be. -/
def Runtime.Stands (owner : DeviceOwner) (calls : List String) (devices : DeviceManager)
    (state : Runtime) (id : String) : Prop :=
  (devices.registration owner id).isSome ∨ id ∈ calls ∧ state.isRegistering id = true

/-- Who stands is in the table and nobody's victim, and who has lost its place is somebody's
victim for as long as it is in the table. -/
structure Evicting (policy : ExclusivePolicy) (owner : DeviceOwner) (calls : List String)
    (residents : String → Prop) (devices : DeviceManager) (state : Runtime) (log : List String) :
    Prop where
  found : state.world.devices = some devices
  wellFormed : devices.WellFormed
  follows : devices.strategy = policy.strategy
  separates : devices.Separates policy.excludes
  acts : ∀ id ∈ calls, ∃ consumer, state.consumers id = some consumer ∧ consumer.ActsFor owner
  participates : ∀ id, (devices.registration owner id).isSome → id ∈ calls ∨ residents id
  unregistered : ∀ id ∈ calls, state.isRegistering id = true → devices.registration owner id = none
  stands : ∀ id, state.Stands owner calls devices id → state.connects id = true ∧
    ∀ caller ∈ calls, id ∉ state.victims caller
  displaced : ∀ id, id ∈ calls ∨ residents id → state.connects id = true →
    state.Stands owner calls devices id ∨ ∃ caller ∈ calls, id ∈ state.victims caller
  spared : ∀ caller ∈ calls, caller ∉ state.victims caller
  logged : ∀ id ∈ calls, state.isRegistering id = false → id ∈ log
  last : ∀ id, log.getLast? = some id → id ∈ calls ∧ (devices.registration owner id).isSome

namespace Evicting

variable {policy : ExclusivePolicy} {owner : DeviceOwner} {calls : List String}
  {residents : String → Prop} {devices : DeviceManager} {state next : Runtime} {log : List String}
  {id : String}

/-- What the invariant does not look at may change. -/
theorem of_same (evicting : Evicting policy owner calls residents devices state log)
    (found : next.world.devices = some devices) (connects : next.connects = state.connects)
    (victims : next.victims = state.victims)
    (registering : next.isRegistering = state.isRegistering)
    (acts : ∀ id ∈ calls, ∃ consumer, next.consumers id = some consumer ∧ consumer.ActsFor owner) :
    Evicting policy owner calls residents devices next log where
  found := found
  wellFormed := evicting.wellFormed
  follows := evicting.follows
  separates := evicting.separates
  acts := acts
  participates := evicting.participates
  unregistered := registering ▸ evicting.unregistered
  stands := by
    simp only [Runtime.Stands, connects, victims, registering]
    exact evicting.stands
  displaced := by
    simp only [Runtime.Stands, connects, victims, registering]
    exact evicting.displaced
  spared := victims ▸ evicting.spared
  logged := registering ▸ evicting.logged
  last := evicting.last

/-- A victim is not registered any more. -/
theorem registration_victim (evicting : Evicting policy owner calls residents devices state log)
    {caller victim : String} (called : caller ∈ calls) (listed : victim ∈ state.victims caller) :
    devices.registration owner victim = none := by
  by_contra registered
  exact (evicting.stands victim (.inl (Option.isSome_iff_ne_none.mpr registered))).2 caller called
    listed

/-- So there is nothing to unregister. -/
theorem removeDevice_victim (evicting : Evicting policy owner calls residents devices state log)
    {caller victim : String} (called : caller ∈ calls) (listed : victim ∈ state.victims caller) :
    devices.removeDevice owner victim = devices := by
  have unregistered := evicting.registration_victim called listed
  rw [DeviceManager.removeDevice_eq, if_neg]
  rw [evicting.wellFormed.registered_iff, unregistered]
  exact Bool.false_ne_true

/-- A connection leaves the table. -/
theorem remove (evicting : Evicting policy owner calls residents devices state log)
    (called : id ∈ calls) {victim : String} (found : next.world.devices = state.world.devices)
    (connects : ∀ other, next.connects other = (decide (other ≠ victim) && state.connects other))
    (victims : state.victims id = victim :: next.victims id)
    (others : ∀ other, other ≠ id → next.victims other = state.victims other)
    (registering : next.isRegistering = state.isRegistering)
    (acts : ∀ id ∈ calls, ∃ consumer, next.consumers id = some consumer ∧ consumer.ActsFor owner) :
    Evicting policy owner calls residents devices next log := by
  have fewer : ∀ caller other, other ∈ next.victims caller → other ∈ state.victims caller := by
    intro caller other listed
    by_cases same : caller = id
    · subst same
      rw [victims]
      exact List.mem_cons_of_mem _ listed
    · rwa [others caller same] at listed
  have standing : ∀ other, next.Stands owner calls devices other ↔
      state.Stands owner calls devices other := by
    intro other
    simp only [Runtime.Stands, registering]
  exact {
    found := found.trans evicting.found
    wellFormed := evicting.wellFormed
    follows := evicting.follows
    separates := evicting.separates
    acts := acts
    participates := evicting.participates
    unregistered := registering ▸ evicting.unregistered
    stands := by
      intro other stands
      obtain ⟨connected, unlisted⟩ := evicting.stands other ((standing other).mp stands)
      refine ⟨?_, fun caller isCaller listed => unlisted caller isCaller (fewer _ _ listed)⟩
      have different : other ≠ victim := by
        rintro rfl
        exact unlisted id called (victims ▸ List.mem_cons_self)
      rw [connects, connected, decide_eq_true different, Bool.and_self]
    displaced := by
      intro other participates connected
      rw [connects, Bool.and_eq_true, decide_eq_true_eq] at connected
      rw [standing]
      refine (evicting.displaced other participates connected.2).imp_right ?_
      rintro ⟨caller, isCaller, listed⟩
      refine ⟨caller, isCaller, ?_⟩
      by_cases same : caller = id
      · subst same
        rw [victims] at listed
        exact (List.mem_cons.mp listed).resolve_left connected.1
      · rwa [others caller same]
    spared := fun caller isCaller listed => evicting.spared caller isCaller (fewer _ _ listed)
    logged := registering ▸ evicting.logged
    last := evicting.last }

/-- What the registration of a device does to the calls: what it displaces becomes the victims of
this one, which is not registering any more. -/
structure Registers (devices : DeviceManager) (owner : DeviceOwner) (id : String)
    (device : DeviceInfo) (state next : Runtime) : Prop where
  registering : state.isRegistering id = true
  registered : next.isRegistering id = false
  idle : state.victims id = []
  victims : next.victims id = (devices.addDevice owner id device).2
  connects : next.connects = state.connects
  others : ∀ other, other ≠ id → next.victims other = state.victims other ∧
    next.isRegistering other = state.isRegistering other

omit [Hashing] in
/-- A displaced device was registered, and it is another one. -/
theorem displaced_of_addDevice {device : DeviceInfo} {other : String}
    (displaced : other ∈ (devices.addDevice owner id device).2) :
    other ≠ id ∧ (devices.registration owner other).isSome := by
  obtain ⟨different, stored, isStored, -⟩ := DeviceManager.mem_conflicts_iff.mp displaced
  exact ⟨different, by rw [isStored, Option.isSome_some]⟩

namespace Registers

variable {device : DeviceInfo} {other caller : String}

/-- Who is registering afterwards is another call, and was registering before. -/
theorem isRegistering (registers : Registers devices owner id device state next)
    (still : next.isRegistering other = true) : other ≠ id ∧ state.isRegistering other = true := by
  have different : other ≠ id := by
    rintro rfl
    rw [registers.registered] at still
    cases still
  exact ⟨different, (registers.others other different).2.symm.trans still⟩

theorem listed (registers : Registers devices owner id device state next)
    (isListed : other ∈ next.victims caller) :
    caller = id ∧ other ∈ (devices.addDevice owner id device).2 ∨
      caller ≠ id ∧ other ∈ state.victims caller := by
  by_cases same : caller = id
  · refine .inl ⟨same, ?_⟩
    rwa [same, registers.victims] at isListed
  · refine .inr ⟨same, ?_⟩
    rwa [(registers.others caller same).1] at isListed

theorem still_listed (registers : Registers devices owner id device state next)
    (isListed : other ∈ state.victims caller) : other ∈ next.victims caller := by
  have different : caller ≠ id := by
    rintro rfl
    rw [registers.idle] at isListed
    cases isListed
  rwa [(registers.others caller different).1]

end Registers

/-- Who stands afterwards stood before and is not among the new victims. -/
theorem stands_of_registers (evicting : Evicting policy owner calls residents devices state log)
    (called : id ∈ calls) {device : DeviceInfo}
    (registers : Registers devices owner id device state next) {other : String}
    (stands : next.Stands owner calls (devices.addDevice owner id device).1 other) :
    state.Stands owner calls devices other ∧ other ∉ (devices.addDevice owner id device).2 := by
  obtain isRegistered | ⟨isCalled, still⟩ := stands
  · rw [DeviceManager.registration_addDevice] at isRegistered
    split_ifs at isRegistered with new displaced
    · subst new
      exact ⟨.inr ⟨called, registers.registering⟩,
        fun displaced => (displaced_of_addDevice displaced).1 rfl⟩
    · cases isRegistered
    · exact ⟨.inl isRegistered, displaced⟩
  · obtain ⟨-, isRegistering⟩ := registers.isRegistering still
    refine ⟨.inr ⟨isCalled, isRegistering⟩, fun displaced => ?_⟩
    have present := (displaced_of_addDevice displaced).2
    rw [evicting.unregistered other isCalled isRegistering] at present
    cases present

/-- Who stood before stands afterwards, unless it is among the new victims. -/
theorem stands_or_displaced {device : DeviceInfo}
    (registers : Registers devices owner id device state next) {other : String}
    (stood : state.Stands owner calls devices other) :
    next.Stands owner calls (devices.addDevice owner id device).1 other ∨
      other ∈ (devices.addDevice owner id device).2 := by
  by_cases new : other = id
  · refine .inl (.inl ?_)
    rw [DeviceManager.registration_addDevice, if_pos new, Option.isSome_some]
  by_cases displaced : other ∈ (devices.addDevice owner id device).2
  · exact .inr displaced
  refine .inl ?_
  obtain isRegistered | ⟨isCalled, isRegistering⟩ := stood
  · refine .inl ?_
    rw [DeviceManager.registration_addDevice, if_neg new, if_neg displaced]
    exact isRegistered
  · exact .inr ⟨isCalled, (registers.others other new).2.trans isRegistering⟩

/-- A device is registered, and what it displaces becomes the victims of the call. -/
theorem register (evicting : Evicting policy owner calls residents devices state log)
    (called : id ∈ calls) (device : DeviceInfo)
    (registers : Registers devices owner id device state next)
    (found : next.world.devices = some (devices.addDevice owner id device).1)
    (acts : ∀ id ∈ calls, ∃ consumer, next.consumers id = some consumer ∧ consumer.ActsFor owner) :
    Evicting policy owner calls residents (devices.addDevice owner id device).1 next
      (log ++ [id]) where
  found := found
  wellFormed := evicting.wellFormed.addDevice owner id device
  follows := (DeviceManager.strategy_claimed owner id).trans evicting.follows
  separates :=
    ExclusivePolicy.separates_addDevice evicting.separates evicting.follows owner id device
  acts := acts
  participates := by
    intro other isRegistered
    rw [DeviceManager.registration_addDevice] at isRegistered
    split_ifs at isRegistered with new displaced
    · exact .inl (new ▸ called)
    · cases isRegistered
    · exact evicting.participates other isRegistered
  unregistered := by
    intro other isCalled still
    obtain ⟨different, isRegistering⟩ := registers.isRegistering still
    rw [DeviceManager.registration_addDevice, if_neg different,
      evicting.unregistered other isCalled isRegistering, ite_self]
  stands := by
    intro other stands
    obtain ⟨stood, kept⟩ := evicting.stands_of_registers called registers stands
    obtain ⟨connected, unlisted⟩ := evicting.stands other stood
    refine ⟨registers.connects ▸ connected, fun caller isCaller listed => ?_⟩
    obtain ⟨-, displaced⟩ | ⟨-, earlier⟩ := registers.listed listed
    · exact kept displaced
    · exact unlisted caller isCaller earlier
  displaced := by
    intro other participates connected
    rw [registers.connects] at connected
    obtain stood | ⟨caller, isCaller, listed⟩ := evicting.displaced other participates connected
    · refine (stands_or_displaced registers stood).imp_right fun displaced => ?_
      exact ⟨id, called, registers.victims ▸ displaced⟩
    · exact .inr ⟨caller, isCaller, registers.still_listed listed⟩
  spared := by
    intro caller isCaller listed
    obtain ⟨rfl, displaced⟩ | ⟨-, earlier⟩ := registers.listed listed
    · exact (displaced_of_addDevice displaced).1 rfl
    · exact evicting.spared caller isCaller earlier
  logged := by
    intro other isCalled isRegistered
    by_cases same : other = id
    · rw [same]
      exact List.mem_append_right _ List.mem_cons_self
    · rw [(registers.others other same).2] at isRegistered
      exact List.mem_append_left _ (evicting.logged other isCalled isRegistered)
  last := by
    intro other isLast
    rw [List.getLast?_append, List.getLast?_singleton, Option.some_or] at isLast
    obtain rfl := Option.some.inj isLast
    refine ⟨called, ?_⟩
    rw [DeviceManager.registration_addDevice, if_pos rfl, Option.isSome_some]

/-- **Every step of a call keeps the invariant**, whatever the other calls are doing. -/
theorem step [RustText] {setting : Setting} {answer : Answer}
    (evicting : Evicting policy owner calls residents devices state log) (called : id ∈ calls)
    (handles : state.handlesConflict id = true)
    (stepped : state.step setting (.consume id answer) = some next) :
    ∃ later, Evicting policy owner calls residents later next
      (recordRegistration state (.consume id answer) next log) := by
  obtain ⟨consumer, isConsumer, acts⟩ := evicting.acts id called
  rw [Runtime.handlesConflict, isConsumer, Option.any_some] at handles
  obtain ⟨effect, later, isLater, stillActs, registered⟩ :=
    Runtime.conflictStep_of_consume isConsumer acts handles evicting.found stepped
  have unregistering : next.isRegistering id = false :=
    (Runtime.isRegistering_of_found isLater).trans registered
  have others : ∀ other, other ≠ id → next.victims other = state.victims other ∧
      next.isRegistering other = state.isRegistering other := by
    intro other distinct
    have same := Runtime.consumers_of_consume distinct stepped
    rw [Runtime.victims, Runtime.victims, Runtime.isRegistering, Runtime.isRegistering, same]
    exact ⟨rfl, rfl⟩
  have allAct : ∀ other ∈ calls, ∃ consumer, next.consumers other = some consumer ∧
      consumer.ActsFor owner := by
    intro other isCalled
    by_cases same : other = id
    · exact ⟨later, same ▸ isLater, stillActs⟩
    · rw [Runtime.consumers_of_consume same stepped]
      exact evicting.acts other isCalled
  have registrations : state.isRegistering id = false →
      next.isRegistering = state.isRegistering := by
    intro already
    funext other
    by_cases same : other = id
    · rw [same, unregistering, already]
    · exact (others other same).2
  have lists : next.victims id = state.victims id → next.victims = state.victims := by
    intro unchanged
    funext other
    by_cases same : other = id
    · rw [same, unchanged]
    · exact (others other same).1
  cases effect with
  | register before device isRegistering isBefore after connects victims =>
      obtain rfl := Option.some.inj (isBefore.symm.trans evicting.found)
      have idle : state.victims id = [] := by
        rw [Runtime.isRegistering_of_found isConsumer] at isRegistering
        rw [Runtime.victims_of_found isConsumer]
        cases consumer <;> first | rfl | cases isRegistering
      rw [recordRegistration, if_pos isRegistering]
      exact ⟨_, evicting.register called device
        ⟨isRegistering, unregistering, idle, victims, connects, others⟩ after allAct⟩
  | unregister victim already listed removed connects victims =>
      have unchanged : next.world.devices = some devices := by
        rw [removed, evicting.found, Option.map_some, evicting.removeDevice_victim called listed]
      rw [recordRegistration, already, if_neg Bool.false_ne_true]
      exact ⟨_, evicting.of_same unchanged connects (lists victims) (registrations already) allAct⟩
  | remove victim already unchanged connects victims =>
      rw [recordRegistration, already, if_neg Bool.false_ne_true]
      exact ⟨_, evicting.remove called unchanged connects victims
        (fun other distinct => (others other distinct).1) (registrations already) allAct⟩
  | pass already unchanged connects victims =>
      exact absurd (victims ▸ List.mem_cons_self) (evicting.spared id called)
  | proceed already unchanged connects victims =>
      rw [recordRegistration, already, if_neg Bool.false_ne_true]
      exact ⟨_, evicting.of_same (unchanged.trans evicting.found) connects (lists victims)
        (registrations already) allAct⟩

/-- Once every call has returned, the owner's connections that are still in the table are the
registered ones. -/
theorem registered_iff (evicting : Evicting policy owner calls residents devices state log)
    (returned : ∀ id ∈ calls, state.handlesConflict id = false) (id : String) :
    (devices.registration owner id).isSome ↔
      (id ∈ calls ∨ residents id) ∧ state.connects id = true := by
  have finished : ∀ caller ∈ calls, state.isRegistering caller = false ∧
      state.victims caller = [] := by
    intro caller called
    obtain ⟨consumer, isConsumer, -⟩ := evicting.acts caller called
    have done := returned caller called
    rw [Runtime.handlesConflict, isConsumer, Option.any_some] at done
    rw [Runtime.isRegistering_of_found isConsumer, Runtime.victims_of_found isConsumer]
    exact ⟨Consumer.isRegistering_of_returned done, Consumer.victims_eq_nil_of_returned done⟩
  constructor
  · intro registered
    exact ⟨evicting.participates id registered, (evicting.stands id (.inl registered)).1⟩
  · rintro ⟨participates, connected⟩
    rcases evicting.displaced id participates connected with (registered | ⟨called, registering⟩) |
      ⟨caller, called, listed⟩
    · exact registered
    · rw [(finished id called).1] at registering
      cases registering
    · rw [(finished caller called).2] at listed
      cases listed

end Evicting

/-- The invariant holds when the calls begin. -/
theorem Logins.evicting {owner : DeviceOwner} {calls : List String} {devices : DeviceManager}
    {state : Runtime} (logins : Logins owner calls devices state) {policy : ExclusivePolicy}
    (wellFormed : devices.WellFormed) (follows : devices.strategy = policy.strategy)
    (separates : devices.Separates policy.excludes) :
    Evicting policy owner calls (fun id => (devices.registration owner id).isSome) devices state
      [] := by
  have registering : ∀ id ∈ calls, state.isRegistering id = true ∧ state.victims id = [] := by
    intro id called
    obtain ⟨consumer, found, isRegistering, -⟩ := logins.registering id called
    rw [Runtime.isRegistering_of_found found, Runtime.victims_of_found found]
    refine ⟨isRegistering, ?_⟩
    cases consumer <;> first | rfl | cases isRegistering
  exact {
    found := logins.found
    wellFormed := wellFormed
    follows := follows
    separates := separates
    acts := fun id called =>
      let ⟨consumer, found, _, acts⟩ := logins.registering id called
      ⟨consumer, found, acts⟩
    participates := fun _ => .inr
    unregistered := fun id called _ => logins.unregistered id called
    stands := by
      intro id stands
      refine ⟨stands.elim (logins.residents id) fun both => logins.connected id both.1, ?_⟩
      intro caller called listed
      rw [(registering caller called).2] at listed
      cases listed
    displaced := by
      rintro id (called | resident) -
      · exact .inl (.inr ⟨called, (registering id called).1⟩)
      · exact .inl (.inl resident)
    spared := by
      intro caller called listed
      rw [(registering caller called).2] at listed
      cases listed
    logged := by
      intro id called registered
      rw [(registering id called).1] at registered
      cases registered
    last := fun id isLast => by cases isLast }

/-- **Logins of one owner settle on the registered devices**, in every interleaving: once every
call of `handle_device_conflict` has returned, the connections of these calls and of the owner's
earlier devices that are still in the table are exactly those that the device manager has under
the owner, their platforms satisfy the policy, and the last one to be registered is among them. -/
theorem device_conflicts_settle [RustText] (setting : Setting) (policy : ExclusivePolicy)
    (owner : DeviceOwner) (calls : List String) (history : List DeviceCall)
    {start finish : Runtime} {log : List String}
    (logins : Logins owner calls (DeviceManager.run policy.strategy history) start)
    (reached : ((serverSystem setting).recording recordRegistration).Reaches
      (fun state move => HandlesConflicts calls state.1 move) (start, []) (finish, log))
    (returned : ∀ id ∈ calls, finish.handlesConflict id = false) :
    ∃ devices, finish.world.devices = some devices ∧
      (∀ id, (devices.registration owner id).isSome ↔
        (id ∈ calls ∨
          ((DeviceManager.run policy.strategy history).registration owner id).isSome) ∧
        finish.connects id = true) ∧
      policy.Admits ((devices.getUserDevices owner).map DeviceInfo.platform) ∧
      (calls ≠ [] → ∃ last ∈ calls, log.getLast? = some last ∧
        (devices.registration owner last).isSome ∧ finish.connects last = true) := by
  obtain ⟨follows, separates⟩ := ExclusivePolicy.separates_run policy history
  have initially := logins.evicting (DeviceManager.wellFormed_run policy.strategy history) follows
    separates
  obtain ⟨devices, evicting⟩ : ∃ devices, Evicting policy owner calls _ devices finish log := by
    refine System.Reaches.invariant (I := fun state : Runtime × List String =>
      ∃ devices, Evicting policy owner calls _ devices state.1 state.2) reached ⟨_, initially⟩ ?_
    rintro ⟨before, earlier⟩ ⟨after, later⟩ ⟨move, permitted, stepped⟩ ⟨devices, evicting⟩
    obtain ⟨taken, recorded⟩ := System.recording_step_eq_some stepped
    dsimp only at taken recorded permitted ⊢
    cases move with
    | consume id answer =>
        rw [recorded]
        exact evicting.step permitted.1 permitted.2 taken
    | _ => cases permitted
  refine ⟨devices, evicting.found, evicting.registered_iff returned,
    ExclusivePolicy.admits_of_separates evicting.separates owner, fun nonempty => ?_⟩
  obtain ⟨id, called⟩ := List.exists_mem_of_ne_nil calls nonempty
  have logged : id ∈ log := by
    refine evicting.logged id called ?_
    obtain ⟨consumer, isConsumer, -⟩ := evicting.acts id called
    have done := returned id called
    rw [Runtime.handlesConflict, isConsumer, Option.any_some] at done
    exact (Runtime.isRegistering_of_found isConsumer).trans
      (Consumer.isRegistering_of_returned done)
  obtain ⟨last, isLast⟩ : ∃ last, log.getLast? = some last :=
    ⟨_, List.getLast?_eq_some_getLast (List.ne_nil_of_mem logged)⟩
  obtain ⟨isCalled, registered⟩ := evicting.last last isLast
  exact ⟨last, isCalled, isLast, registered,
    ((evicting.registered_iff returned last).mp registered).2⟩

end Eviction

section Runs

open scoped SingleShard AsciiText

/-- Two logins of one user: the second registers while the first has not returned yet, and the
first returns while it is being disconnected. -/
def overlappingLogins : List Move :=
  ["a", "b", "b", "a", "b", "b", "b", "b"].map fun id => .consume id ⟨.ok none, true⟩

/-- The two logins before they register, and how they settle. -/
def settlesOnSecond (start : Runtime) : Bool :=
  (["a", "b"].all fun id => start.connects id && (start.consumers id).any fun consumer =>
    consumer.isRegistering && decide (consumer.ActsFor ⟨"0", "alice"⟩)) &&
  (start.world.devices.any fun devices => devices.devices.entries.isEmpty &&
    devices.owners.entries.isEmpty && decide (devices.strategy = .platformExclusive)) &&
  decide (((serverSystem openSetting).recording recordRegistration).Permits
    (fun state move => HandlesConflicts ["a", "b"] state.1 move) (start, []) overlappingLogins) &&
  (((serverSystem openSetting).recording recordRegistration).run (start, [])
    overlappingLogins).any fun finish => decide (finish.2 = ["a", "b"]) &&
      !finish.1.connects "a" && !finish.1.handlesConflict "a" && !finish.1.handlesConflict "b"

theorem logins_of_settlesOnSecond {start : Runtime} (settles : settlesOnSecond start = true) :
    Logins ⟨"0", "alice"⟩ ["a", "b"] (DeviceManager.run .platformExclusive []) start := by
  simp only [settlesOnSecond, Bool.and_eq_true, Option.any_eq_true, List.all_eq_true,
    List.isEmpty_iff, decide_eq_true_eq] at settles
  obtain ⟨⟨⟨begin, devices, found, ⟨none, unowned⟩, exclusive⟩, -⟩, -⟩ := settles
  have isNew : devices = .new .platformExclusive := by
    obtain ⟨listed, owners, strategy⟩ := devices
    obtain rfl : listed = ∅ := AList.ext none
    obtain rfl : owners = ∅ := AList.ext unowned
    obtain rfl : strategy = .platformExclusive := exclusive
    rfl
  exact {
    found := found.trans (congrArg some isNew)
    registering := fun id called => (begin id called).2
    connected := fun id called => (begin id called).1
    unregistered := fun _ _ => rfl
    residents := by
      intro id registered
      cases registered }

/-- The second login stays and the first is gone: the theorem applies. -/
theorem device_conflicts_settle_overlapping :
    ∃ start finish log,
      (serverSystem openSetting).Reaches System.always exclusiveServer start ∧
      ((serverSystem openSetting).recording recordRegistration).Reaches
        (fun state move => HandlesConflicts ["a", "b"] state.1 move) (start, []) (finish, log) ∧
      log = ["a", "b"] ∧ finish.connects "a" = false ∧
      ∃ devices, finish.world.devices = some devices ∧
        (devices.registration ⟨"0", "alice"⟩ "b").isSome ∧ finish.connects "b" = true := by
  have run : ((serverSystem openSetting).run exclusiveServer (devicesConnect 8 8)).any
      settlesOnSecond = true := by
    decide +kernel
  obtain ⟨start, prepared, settles⟩ :=
    System.exists_reaches_of_run run (System.permits_always _ _)
  have logins := logins_of_settlesOnSecond settles
  simp only [settlesOnSecond, Bool.and_eq_true, decide_eq_true_eq] at settles
  obtain ⟨⟨-, permitted⟩, ends⟩ := settles
  obtain ⟨⟨finish, log⟩, reached, ending⟩ := System.exists_reaches_of_run ends permitted
  simp only [Bool.and_eq_true, decide_eq_true_eq, Bool.not_eq_true'] at ending
  obtain ⟨⟨⟨logged, gone⟩, firstReturned⟩, secondReturned⟩ := ending
  have returned : ∀ id ∈ ["a", "b"], finish.handlesConflict id = false := by
    simp [firstReturned, secondReturned]
  obtain ⟨devices, found, -, -, settled⟩ := device_conflicts_settle openSetting .platformExclusive
    ⟨"0", "alice"⟩ ["a", "b"] [] logins reached returned
  obtain ⟨last, -, isLast, registered, connected⟩ := settled (by decide)
  obtain rfl : last = "b" := by
    rw [logged] at isLast
    exact (Option.some.inj isLast).symm
  exact ⟨start, finish, log, prepared, reached, logged, gone, devices, found, registered, connected⟩

end Runs

end FlareCore.Server
