import FlareCore.Server.Device
import Mathlib.Data.List.Dedup

/-!
# The two maps of the device manager

The device manager lists the devices of each owner, and it knows the owner of each connection.
Both maps are behind one lock, which every operation holds from beginning to end, so a run of
the device manager is a sequence of operations.  A registration may move a connection from one
owner to another and displace other connections of its new owner, a removal may take the last
device of an owner away; the two maps stay inverse to each other all the same, and an owner
without devices is not listed (`DeviceManager.WellFormed`).

What is registered is described by `registration`, which device an owner has on a connection.
Each operation is a formula for it, and the invariant and the policies follow from the formulas
alone.
-/

namespace FlareCore.Server

open FlareCore.Common

set_option autoImplicit false

theorem lookup_foldl_erase {α : Type} {β : α → Type} [DecidableEq α] (ids : List α)
    (map : AList β) (key : α) :
    (ids.foldl (fun map id => map.erase id) map).lookup key =
      if key ∈ ids then none else map.lookup key := by
  induction ids generalizing map with
  | nil => simp
  | cons id ids inductionHypothesis =>
      rw [List.foldl_cons, inductionHypothesis]
      by_cases same : key = id
      · subst same
        simp
      · rw [AList.lookup_erase_ne same]
        simp [same]

namespace DeviceManager

variable {manager : DeviceManager}

/-! ## What is registered -/

/-- The device that an owner has on a connection. -/
def registration (manager : DeviceManager) (owner : DeviceOwner) (id : String) :
    Option UserDevice :=
  (manager.devices.lookup owner).bind fun devices => devices.lookup id

theorem registration_of_lookup {owner : DeviceOwner} {devices : StringMap UserDevice}
    (found : manager.devices.lookup owner = some devices) (id : String) :
    manager.registration owner id = devices.lookup id := by
  rw [registration, found, Option.bind_some]

/-- A connection is listed under an owner if the owner has a device on it. -/
theorem isSome_registration {owner : DeviceOwner} {id : String} :
    (manager.registration owner id).isSome ↔
      ∃ devices, manager.devices.lookup owner = some devices ∧ id ∈ devices := by
  constructor
  · intro registered
    obtain ⟨device, isDevice⟩ := Option.isSome_iff_exists.mp registered
    obtain ⟨devices, found, listed⟩ := Option.bind_eq_some_iff.mp isDevice
    exact ⟨devices, found, AList.lookup_isSome.mp (by rw [listed, Option.isSome_some])⟩
  · rintro ⟨devices, found, listed⟩
    rw [registration_of_lookup found]
    exact AList.lookup_isSome.mpr listed

/-- No owner is listed without devices. -/
def Inhabited (manager : DeviceManager) : Prop :=
  ∀ owner devices, manager.devices.lookup owner = some devices → devices.keys ≠ []

/-! ## Detaching a connection -/

theorem lookup_detach_of_ne {owner other : DeviceOwner} (distinct : other ≠ owner) (id : String) :
    (manager.detach owner id).devices.lookup other = manager.devices.lookup other := by
  unfold detach
  split
  · rfl
  · dsimp only
    split_ifs
    · exact AList.lookup_erase_ne distinct
    · exact AList.lookup_insert_ne distinct

/-- Exactly one device is gone. -/
theorem registration_detach (owner other : DeviceOwner) (id listed : String) :
    (manager.detach owner id).registration other listed =
      if other = owner ∧ listed = id then none else manager.registration other listed := by
  by_cases same : other = owner
  · subst same
    simp only [true_and]
    cases found : manager.devices.lookup other with
    | none => simp [detach, registration, found]
    | some devices =>
        have remaining : (manager.detach other id).registration other listed =
            (devices.erase id).lookup listed := by
          unfold detach registration
          rw [found]
          dsimp only
          split_ifs with emptied
          · have gone : listed ∉ (devices.erase id).keys := emptied ▸ List.not_mem_nil
            rw [AList.lookup_erase, Option.bind_none]
            exact (AList.lookup_eq_none.mpr gone).symm
          · rw [AList.lookup_insert, Option.bind_some]
        rw [remaining, registration_of_lookup found]
        split_ifs with removed
        · rw [removed, AList.lookup_erase]
        · exact AList.lookup_erase_ne removed
  · rw [if_neg fun both => same both.1, registration, lookup_detach_of_ne same, registration]

theorem owners_detach (owner : DeviceOwner) (id : String) :
    (manager.detach owner id).owners = manager.owners := by
  unfold detach
  split
  · rfl
  · dsimp only
    split_ifs <;> rfl

theorem strategy_detach (owner : DeviceOwner) (id : String) :
    (manager.detach owner id).strategy = manager.strategy := by
  unfold detach
  split
  · rfl
  · dsimp only
    split_ifs <;> rfl

theorem Inhabited.detach (inhabited : manager.Inhabited) (owner : DeviceOwner) (id : String) :
    (manager.detach owner id).Inhabited := by
  intro other devices found
  by_cases same : other = owner
  · subst same
    unfold DeviceManager.detach at found
    split at found
    · exact inhabited other devices found
    · dsimp only at found
      split_ifs at found with emptied
      · rw [AList.lookup_erase] at found
        cases found
      · rw [AList.lookup_insert] at found
        obtain rfl := Option.some.inj found
        exact emptied
  · rw [lookup_detach_of_ne same] at found
    exact inhabited other devices found

/-! ## Registering a connection -/

/-- The manager in which a connection is registered under no other owner. -/
def claimed (manager : DeviceManager) (owner : DeviceOwner) (id : String) : DeviceManager :=
  match manager.owners.lookup id with
  | some previous => if previous ≠ owner then manager.detach previous id else manager
  | none => manager

theorem owners_claimed (owner : DeviceOwner) (id : String) :
    (manager.claimed owner id).owners = manager.owners := by
  unfold claimed
  split
  · split_ifs
    · exact owners_detach _ _
    · rfl
  · rfl

/-- Only the owner that the connection is taken from loses a device. -/
theorem registration_claimed (owner other : DeviceOwner) (id listed : String) :
    (manager.claimed owner id).registration other listed =
      if other ≠ owner ∧ manager.owners.lookup id = some other ∧ listed = id then none
      else manager.registration other listed := by
  unfold claimed
  cases owned : manager.owners.lookup id with
  | none => simp
  | some previous =>
      dsimp only
      split_ifs with moved taken taken
      · obtain ⟨-, same, isId⟩ := taken
        rw [registration_detach, if_pos ⟨(Option.some.inj same).symm, isId⟩]
      · rw [registration_detach, if_neg]
        rintro ⟨rfl, rfl⟩
        exact taken ⟨moved, rfl, rfl⟩
      · obtain ⟨distinct, same, -⟩ := taken
        rw [not_not] at moved
        exact absurd ((Option.some.inj same).symm.trans moved) distinct
      · rfl

theorem registration_claimed_self (owner : DeviceOwner) (id listed : String) :
    (manager.claimed owner id).registration owner listed = manager.registration owner listed := by
  rw [registration_claimed, if_neg fun taken => taken.1 rfl]

theorem Inhabited.claimed (inhabited : manager.Inhabited) (owner : DeviceOwner) (id : String) :
    (manager.claimed owner id).Inhabited := by
  unfold DeviceManager.claimed
  split
  · split_ifs
    · exact inhabited.detach _ _
    · exact inhabited
  · exact inhabited

/-- The devices that an owner has beside the one on the connection. -/
def others (manager : DeviceManager) (owner : DeviceOwner) (id : String) :
    List (Sigma fun _ : String => UserDevice) :=
  (((manager.claimed owner id).devices.lookup owner).getD ∅).entries.filter
    fun device => device.1 ≠ id

theorem mem_others {owner : DeviceOwner} {id listed : String} {device : UserDevice} :
    ⟨listed, device⟩ ∈ manager.others owner id ↔
      listed ≠ id ∧ manager.registration owner listed = some device := by
  rw [others, List.mem_filter, decide_eq_true_eq, and_comm, ← registration_claimed_self owner id,
    registration]
  refine and_congr_right fun _ => ?_
  cases (manager.claimed owner id).devices.lookup owner with
  | none => simp
  | some devices => exact AList.mem_lookup_iff.symm

/-- The platforms that a new device meets. -/
def existingPlatforms (manager : DeviceManager) (owner : DeviceOwner) (id : String) :
    List DevicePlatform :=
  ((manager.others owner id).map fun device => device.2.deviceInfo.platform).dedup

theorem mem_existingPlatforms {owner : DeviceOwner} {id : String} {platform : DevicePlatform} :
    platform ∈ manager.existingPlatforms owner id ↔ ∃ listed device, listed ≠ id ∧
      manager.registration owner listed = some device ∧
        device.deviceInfo.platform = platform := by
  rw [existingPlatforms, List.mem_dedup, List.mem_map]
  constructor
  · rintro ⟨⟨listed, device⟩, member, same⟩
    obtain ⟨distinct, registered⟩ := mem_others.mp member
    exact ⟨listed, device, distinct, registered, same⟩
  · rintro ⟨listed, device, distinct, registered, same⟩
    exact ⟨⟨listed, device⟩, mem_others.mpr ⟨distinct, registered⟩, same⟩

theorem strategy_claimed (owner : DeviceOwner) (id : String) :
    (manager.claimed owner id).strategy = manager.strategy := by
  unfold claimed
  split
  · split_ifs
    · exact strategy_detach _ _
    · rfl
  · rfl

theorem addDevice_conflicts (owner : DeviceOwner) (id : String) (device : DeviceInfo) :
    (manager.addDevice owner id device).2 =
      ((manager.others owner id).filter fun other => other.2.deviceInfo.platform ∈
        manager.strategy.checkConflict device.platform (manager.existingPlatforms owner id)).map
          Sigma.fst := by
  rw [← strategy_claimed owner id]
  rfl

/-- A new device displaces the devices of its owner that the strategy names. -/
theorem mem_conflicts_iff {owner : DeviceOwner} {id victim : String} {device : DeviceInfo} :
    victim ∈ (manager.addDevice owner id device).2 ↔ victim ≠ id ∧ ∃ displaced,
      manager.registration owner victim = some displaced ∧ displaced.deviceInfo.platform ∈
        manager.strategy.checkConflict device.platform (manager.existingPlatforms owner id) := by
  rw [addDevice_conflicts, List.mem_map]
  constructor
  · rintro ⟨⟨listed, displaced⟩, member, rfl⟩
    obtain ⟨other, named⟩ := List.mem_filter.mp member
    obtain ⟨distinct, registered⟩ := mem_others.mp other
    exact ⟨distinct, displaced, registered, of_decide_eq_true named⟩
  · rintro ⟨distinct, displaced, registered, named⟩
    exact ⟨⟨victim, displaced⟩, List.mem_filter.mpr ⟨mem_others.mpr ⟨distinct, registered⟩,
      decide_eq_true named⟩, rfl⟩

theorem nodup_conflicts (owner : DeviceOwner) (id : String) (device : DeviceInfo) :
    (manager.addDevice owner id device).2.Nodup := by
  rw [addDevice_conflicts]
  have keys : ((((manager.claimed owner id).devices.lookup owner).getD ∅).entries.map
      Sigma.fst).Nodup := (((manager.claimed owner id).devices.lookup owner).getD ∅).nodupKeys
  exact keys.sublist ((List.filter_sublist.trans List.filter_sublist).map _)

theorem addDevice_devices (owner : DeviceOwner) (id : String) (device : DeviceInfo) :
    (manager.addDevice owner id device).1.devices =
      (manager.claimed owner id).devices.insert owner
        ((((manager.addDevice owner id device).2.foldl (fun devices victim => devices.erase victim)
          (((manager.claimed owner id).devices.lookup owner).getD ∅))).insert id ⟨id, device⟩) :=
  rfl

theorem addDevice_owners (owner : DeviceOwner) (id : String) (device : DeviceInfo) :
    (manager.addDevice owner id device).1.owners =
      ((manager.addDevice owner id device).2.foldl (fun owners victim => owners.erase victim)
        (manager.claimed owner id).owners).insert id owner :=
  rfl

/-- The owner has the new device and keeps those that are not displaced. -/
theorem registration_addDevice (owner : DeviceOwner) (id listed : String) (device : DeviceInfo) :
    (manager.addDevice owner id device).1.registration owner listed =
      if listed = id then some ⟨id, device⟩
      else if listed ∈ (manager.addDevice owner id device).2 then none
      else manager.registration owner listed := by
  rw [registration, addDevice_devices, AList.lookup_insert, Option.bind_some]
  split_ifs with new displaced
  · rw [new, AList.lookup_insert]
  · rw [AList.lookup_insert_ne new, lookup_foldl_erase, if_pos displaced]
  · rw [AList.lookup_insert_ne new, lookup_foldl_erase, if_neg displaced,
      ← registration_claimed_self owner id, registration]
    cases (manager.claimed owner id).devices.lookup owner with
    | none => rfl
    | some devices => rfl

/-- The other owners lose at most the connection itself. -/
theorem registration_addDevice_of_ne {owner other : DeviceOwner} (distinct : other ≠ owner)
    (id listed : String) (device : DeviceInfo) :
    (manager.addDevice owner id device).1.registration other listed =
      if manager.owners.lookup id = some other ∧ listed = id then none
      else manager.registration other listed := by
  rw [registration, addDevice_devices, AList.lookup_insert_ne distinct, ← registration,
    registration_claimed]
  simp only [distinct, ne_eq, not_false_eq_true, true_and]

theorem lookup_owners_addDevice (owner : DeviceOwner) (id listed : String) (device : DeviceInfo) :
    (manager.addDevice owner id device).1.owners.lookup listed =
      if listed = id then some owner
      else if listed ∈ (manager.addDevice owner id device).2 then none
      else manager.owners.lookup listed := by
  rw [addDevice_owners, owners_claimed]
  split_ifs with new displaced
  · rw [new, AList.lookup_insert]
  · rw [AList.lookup_insert_ne new, lookup_foldl_erase, if_pos displaced]
  · rw [AList.lookup_insert_ne new, lookup_foldl_erase, if_neg displaced]

/-- A displaced connection has no owner any more. -/
theorem lookup_owners_of_displaced {owner : DeviceOwner} {id victim : String} {device : DeviceInfo}
    (displaced : victim ∈ (manager.addDevice owner id device).2) :
    (manager.addDevice owner id device).1.owners.lookup victim = none := by
  rw [lookup_owners_addDevice, if_neg (mem_conflicts_iff.mp displaced).1, if_pos displaced]

/-! ## Removing a connection -/

/-- A connection is taken out of both maps. -/
def unregister (manager : DeviceManager) (owner : DeviceOwner) (id : String) : DeviceManager :=
  { manager with owners := manager.owners.erase id }.detach owner id

theorem registration_unregister (owner other : DeviceOwner) (id listed : String) :
    (manager.unregister owner id).registration other listed =
      if other = owner ∧ listed = id then none else manager.registration other listed :=
  registration_detach owner other id listed

theorem owners_unregister (owner : DeviceOwner) (id : String) :
    (manager.unregister owner id).owners = manager.owners.erase id :=
  owners_detach owner id

theorem removeDevice_eq (owner : DeviceOwner) (id : String) :
    manager.removeDevice owner id =
      if manager.owners.lookup id = some owner then manager.unregister owner id else manager :=
  rfl

/-- A device that is not registered is not removed. -/
theorem removeDevice_of_unowned {owner : DeviceOwner} {id : String}
    (unowned : manager.owners.lookup id = none) : manager.removeDevice owner id = manager := by
  rw [removeDevice_eq, unowned]
  exact if_neg nofun

theorem removeConnection_eq (id : String) :
    (manager.removeConnection id).1 =
      (manager.owners.lookup id).elim manager fun owner => manager.unregister owner id := by
  unfold removeConnection
  cases manager.owners.lookup id <;> rfl

/-- A removal registers nothing. -/
theorem mem_owners_removeDevice {owner : DeviceOwner} {id other : String}
    (member : other ∈ (manager.removeDevice owner id).owners) : other ∈ manager.owners := by
  rw [removeDevice_eq] at member
  split_ifs at member
  · rw [owners_unregister] at member
    exact (AList.mem_erase.mp member).2
  · exact member

/-- A removed connection is not registered any more. -/
theorem mem_owners_removeConnection {id other : String}
    (member : other ∈ (manager.removeConnection id).1.owners) :
    other ≠ id ∧ other ∈ manager.owners := by
  rw [removeConnection_eq] at member
  cases owned : manager.owners.lookup id with
  | none =>
      rw [owned] at member
      refine ⟨?_, member⟩
      rintro rfl
      exact AList.lookup_eq_none.mp owned member
  | some owner =>
      rw [owned, Option.elim_some, owners_unregister] at member
      exact AList.mem_erase.mp member

/-! ## The invariant -/

/-- The owners are the inverse of what is listed, no owner is listed without devices, and a
device knows its connection. -/
structure WellFormed (manager : DeviceManager) : Prop where
  owned_iff : ∀ id owner, manager.owners.lookup id = some owner ↔
    ∃ devices, manager.devices.lookup owner = some devices ∧ id ∈ devices
  inhabited : ∀ owner devices, manager.devices.lookup owner = some devices → devices.keys ≠ []
  keyed : ∀ owner devices id device, manager.devices.lookup owner = some devices →
    devices.lookup id = some device → device.connectionId = id

theorem wellFormed_new (strategy : DeviceConflictStrategy) : (new strategy).WellFormed where
  owned_iff := by simp [new]
  inhabited := by simp [new]
  keyed := by simp [new]

/-- The invariant in terms of what is registered. -/
theorem wellFormed_iff :
    manager.WellFormed ↔
      (∀ id owner, manager.owners.lookup id = some owner ↔
        (manager.registration owner id).isSome) ∧
      manager.Inhabited ∧
      ∀ owner id device, manager.registration owner id = some device →
        device.connectionId = id := by
  constructor
  · rintro ⟨owned_iff, inhabited, keyed⟩
    refine ⟨fun id owner => (owned_iff id owner).trans isSome_registration.symm, inhabited, ?_⟩
    intro owner id device registered
    obtain ⟨devices, found, listed⟩ := Option.bind_eq_some_iff.mp registered
    exact keyed owner devices id device found listed
  · rintro ⟨owned_iff, inhabited, keyed⟩
    refine ⟨fun id owner => (owned_iff id owner).trans isSome_registration, inhabited, ?_⟩
    intro owner devices id device found listed
    refine keyed owner id device ?_
    rw [registration_of_lookup found, listed]

theorem WellFormed.registered_iff (wellFormed : manager.WellFormed) (id : String)
    (owner : DeviceOwner) :
    manager.owners.lookup id = some owner ↔ (manager.registration owner id).isSome :=
  (wellFormed_iff.mp wellFormed).1 id owner

/-- A connection is listed under one owner only. -/
theorem WellFormed.registration_eq_none (wellFormed : manager.WellFormed) {id : String}
    {owner other : DeviceOwner} (owned : manager.owners.lookup id = some owner)
    (distinct : other ≠ owner) : manager.registration other id = none := by
  rw [← Option.not_isSome_iff_eq_none, ← wellFormed.registered_iff, owned]
  exact fun same => distinct (Option.some.inj same).symm

theorem WellFormed.unregister (wellFormed : manager.WellFormed) {owner : DeviceOwner} {id : String}
    (owned : manager.owners.lookup id = some owner) : (manager.unregister owner id).WellFormed := by
  obtain ⟨registered_iff, inhabited, keyed⟩ := wellFormed_iff.mp wellFormed
  refine wellFormed_iff.mpr ⟨fun listed other => ?_, ?_, fun other listed device registered => ?_⟩
  · rw [owners_unregister, registration_unregister]
    by_cases same : listed = id
    · subst same
      rw [AList.lookup_erase]
      split_ifs with removed
      · simp
      · rw [wellFormed.registration_eq_none owned fun this => removed ⟨this, rfl⟩]
        simp
    · rw [AList.lookup_erase_ne same, if_neg fun both => same both.2]
      exact registered_iff listed other
  · apply Inhabited.detach
    exact inhabited
  · rw [registration_unregister] at registered
    split_ifs at registered
    exact keyed other listed device registered

/-- After a registration the other owners list what they listed before, without the
connection. -/
theorem WellFormed.isSome_registration_addDevice_of_ne (wellFormed : manager.WellFormed)
    {owner other : DeviceOwner} (distinct : other ≠ owner) (id listed : String)
    (device : DeviceInfo) :
    ((manager.addDevice owner id device).1.registration other listed).isSome ↔
      listed ≠ id ∧ (manager.registration other listed).isSome := by
  rw [registration_addDevice_of_ne distinct]
  split_ifs with taken
  · simp [taken.2]
  · refine (and_iff_right_of_imp fun registered same => ?_).symm
    rw [same] at registered
    exact taken ⟨(wellFormed.registered_iff id other).mpr registered, same⟩

theorem WellFormed.addDevice (wellFormed : manager.WellFormed) (owner : DeviceOwner) (id : String)
    (device : DeviceInfo) : (manager.addDevice owner id device).1.WellFormed := by
  obtain ⟨registered_iff, inhabited, keyed⟩ := wellFormed_iff.mp wellFormed
  refine wellFormed_iff.mpr ⟨fun listed other => ?_, ?_, fun other listed stored registered => ?_⟩
  · rw [lookup_owners_addDevice]
    by_cases same : other = owner
    · subst same
      rw [registration_addDevice]
      split_ifs
      · simp
      · simp
      · exact registered_iff listed other
    · rw [wellFormed.isSome_registration_addDevice_of_ne same]
      split_ifs with new displaced
      · simp [new, Ne.symm same]
      · obtain ⟨-, victim, registered, -⟩ := mem_conflicts_iff.mp displaced
        have owned : manager.owners.lookup listed = some owner := by
          rw [registered_iff, registered, Option.isSome_some]
        simp [wellFormed.registration_eq_none owned same]
      · rw [registered_iff listed other]
        exact (and_iff_right new).symm
  · intro other devices found
    rw [addDevice_devices] at found
    by_cases same : other = owner
    · subst same
      rw [AList.lookup_insert] at found
      obtain rfl := Option.some.inj found
      simp [AList.keys_insert]
    · rw [AList.lookup_insert_ne same] at found
      exact inhabited.claimed owner id other devices found
  · by_cases same : other = owner
    · subst same
      rw [registration_addDevice] at registered
      split_ifs at registered with new
      · obtain rfl := Option.some.inj registered
        exact new.symm
      · exact keyed other listed stored registered
    · rw [registration_addDevice_of_ne same] at registered
      split_ifs at registered
      exact keyed other listed stored registered

end DeviceManager

/-! ## Runs -/

/-- The calls that change what is registered. -/
inductive DeviceCall where
  | addDevice (owner : DeviceOwner) (connectionId : String) (deviceInfo : DeviceInfo)
  | removeDevice (owner : DeviceOwner) (connectionId : String)
  | removeConnection (connectionId : String)

namespace DeviceManager

variable {manager : DeviceManager}

def perform (manager : DeviceManager) : DeviceCall → DeviceManager
  | .addDevice owner connectionId deviceInfo =>
      (manager.addDevice owner connectionId deviceInfo).1
  | .removeDevice owner connectionId => manager.removeDevice owner connectionId
  | .removeConnection connectionId => (manager.removeConnection connectionId).1

/-- A device manager after a sequence of calls. -/
def run (strategy : DeviceConflictStrategy) (calls : List DeviceCall) : DeviceManager :=
  calls.foldl perform (new strategy)

theorem run_concat (strategy : DeviceConflictStrategy) (calls : List DeviceCall)
    (call : DeviceCall) : run strategy (calls ++ [call]) = (run strategy calls).perform call :=
  List.foldl_concat perform (new strategy) call calls

theorem strategy_perform (manager : DeviceManager) (call : DeviceCall) :
    (manager.perform call).strategy = manager.strategy := by
  cases call with
  | addDevice owner id device => exact strategy_claimed owner id
  | removeDevice owner id =>
      rw [perform, removeDevice_eq]
      split_ifs
      · exact strategy_detach owner id
      · rfl
  | removeConnection id =>
      rw [perform, removeConnection_eq]
      cases manager.owners.lookup id with
      | none => rfl
      | some owner => exact strategy_detach owner id

theorem WellFormed.perform (wellFormed : manager.WellFormed) (call : DeviceCall) :
    (manager.perform call).WellFormed := by
  cases call with
  | addDevice owner id device => exact wellFormed.addDevice owner id device
  | removeDevice owner id =>
      rw [DeviceManager.perform, removeDevice_eq]
      split_ifs with owned
      · exact wellFormed.unregister owned
      · exact wellFormed
  | removeConnection id =>
      rw [DeviceManager.perform, removeConnection_eq]
      cases owned : manager.owners.lookup id with
      | none => exact wellFormed
      | some owner => exact wellFormed.unregister owned

/-- What holds of a new manager and is kept by every call holds after every run. -/
theorem run_induction {I : DeviceManager → Prop} (strategy : DeviceConflictStrategy)
    (initially : I (new strategy))
    (preserved : ∀ manager call, I manager → I (manager.perform call)) (calls : List DeviceCall) :
    I (run strategy calls) := by
  unfold run
  generalize new strategy = manager at initially
  induction calls generalizing manager with
  | nil => exact initially
  | cons call calls inductionHypothesis =>
      exact inductionHypothesis (manager.perform call) (preserved manager call initially)

/-- A manager never changes its strategy. -/
theorem strategy_run (strategy : DeviceConflictStrategy) (calls : List DeviceCall) :
    (run strategy calls).strategy = strategy := by
  apply run_induction (I := fun manager => manager.strategy = strategy) strategy rfl
  intro manager call follows
  exact (manager.strategy_perform call).trans follows

theorem wellFormed_run (strategy : DeviceConflictStrategy) (calls : List DeviceCall) :
    (run strategy calls).WellFormed :=
  run_induction strategy (wellFormed_new strategy) (fun _ call wellFormed => wellFormed.perform call)
    calls

/-- What a registration does beside entering the device: the connections it returns are exactly
those that are no longer registered, they were registered under the same owner, and no owner but
this one and the one the connection is taken from is touched. -/
structure Displaces (before after : DeviceManager) (owner : DeviceOwner) (id : String)
    (kicked : List String) : Prop where
  kicked_iff : ∀ other, other ∈ kicked ↔ other ∈ before.owners ∧ other ∉ after.owners
  nodup : kicked.Nodup
  same_owner : ∀ other ∈ kicked, before.owners.lookup other = some owner
  not_new : id ∉ kicked
  others_kept : ∀ other, other ≠ owner → before.owners.lookup id ≠ some other →
    after.devices.lookup other = before.devices.lookup other

theorem lookup_claimed_of_ne {owner other : DeviceOwner} {id : String}
    (untouched : manager.owners.lookup id ≠ some other) :
    (manager.claimed owner id).devices.lookup other = manager.devices.lookup other := by
  unfold claimed
  split
  · next previous owned =>
      split_ifs
      · apply lookup_detach_of_ne
        rintro rfl
        exact untouched owned
      · rfl
  · rfl

theorem WellFormed.displaces (wellFormed : manager.WellFormed) (owner : DeviceOwner) (id : String)
    (device : DeviceInfo) :
    Displaces manager (manager.addDevice owner id device).1 owner id
      (manager.addDevice owner id device).2 where
  kicked_iff other := by
    rw [← AList.lookup_isSome, ← AList.lookup_eq_none, lookup_owners_addDevice]
    constructor
    · intro displaced
      obtain ⟨distinct, victim, registered, -⟩ := mem_conflicts_iff.mp displaced
      have owned : manager.owners.lookup other = some owner := by
        rw [wellFormed.registered_iff, registered, Option.isSome_some]
      rw [owned, if_neg distinct, if_pos displaced]
      exact ⟨rfl, rfl⟩
    · rintro ⟨owned, gone⟩
      split_ifs at gone with new displaced
      · exact displaced
      · rw [gone] at owned
        cases owned
  nodup := nodup_conflicts owner id device
  same_owner other displaced := by
    obtain ⟨-, victim, registered, -⟩ := mem_conflicts_iff.mp displaced
    rw [wellFormed.registered_iff, registered, Option.isSome_some]
  not_new displaced := (mem_conflicts_iff.mp displaced).1 rfl
  others_kept other distinct untouched := by
    rw [addDevice_devices, AList.lookup_insert_ne distinct]
    exact lookup_claimed_of_ne untouched

/-- **The two maps of a device manager agree after every run**, and every registration returns
exactly the connections that it has removed, all of its owner and never the new one, and changes
the devices of no other owner than the one the connection is taken from. -/
theorem maps_agree_after_every_run (strategy : DeviceConflictStrategy) (calls : List DeviceCall) :
    (run strategy calls).WellFormed ∧
      ∀ owner id device, Displaces (run strategy calls)
        ((run strategy calls).addDevice owner id device).1 owner id
        ((run strategy calls).addDevice owner id device).2 :=
  ⟨wellFormed_run strategy calls, (wellFormed_run strategy calls).displaces⟩

end DeviceManager

end FlareCore.Server
