import FlareCore.Server.DeviceRegistry
import Mathlib.Data.List.Nodup

/-!
# What the exclusive strategies guarantee

A strategy says what happens when a device is registered; a policy says which devices of an
owner may be online together.  The built-in strategies compare the new device with each of the
others, so each of them comes down to a relation between two platforms, `excludes`.  The policy
holds of a list of platforms if and only if no two of them exclude each other, and a registration
displaces exactly the devices that the new one excludes, so every run keeps the policy.
-/

namespace FlareCore.Server

open FlareCore.Common

set_option autoImplicit false

/-- At most one element passes a test if no two elements both pass it. -/
theorem countP_le_one_iff {α : Type} (test : α → Bool) (list : List α) :
    list.countP test ≤ 1 ↔ list.Pairwise fun first second => ¬(test first ∧ test second) := by
  induction list with
  | nil => simp
  | cons head tail inductionHypothesis =>
      rw [List.pairwise_cons, ← inductionHypothesis, List.countP_cons]
      by_cases passes : test head = true
      · have none_passes : (∀ other ∈ tail, ¬(test head = true ∧ test other = true)) ↔
            tail.countP test = 0 := by
          simp [List.countP_eq_zero, passes]
        rw [none_passes, if_pos passes]
        omega
      · have vacuous : ∀ other ∈ tail, ¬(test head = true ∧ test other = true) :=
          fun _ _ both => passes both.1
        rw [if_neg passes]
        exact ⟨fun few => ⟨vacuous, few⟩, fun both => both.2⟩

theorem length_le_one_iff {α : Type} (list : List α) :
    list.length ≤ 1 ↔ list.Pairwise fun _ _ => False := by
  have counted := countP_le_one_iff (fun _ => true) list
  rw [List.countP_true] at counted
  simpa using counted

/-! ## Devices that exclude each other -/

namespace DeviceManager

variable {manager : DeviceManager} {excludes : DevicePlatform → DevicePlatform → Bool}

/-- No two devices of an owner have platforms that exclude each other. -/
def Separates (excludes : DevicePlatform → DevicePlatform → Bool) (manager : DeviceManager) :
    Prop :=
  ∀ owner first second firstDevice secondDevice, first ≠ second →
    manager.registration owner first = some firstDevice →
    manager.registration owner second = some secondDevice →
    excludes firstDevice.deviceInfo.platform secondDevice.deviceInfo.platform = false

theorem separates_new (strategy : DeviceConflictStrategy) : (new strategy).Separates excludes := by
  intro owner first second firstDevice secondDevice _ registered
  cases registered

/-- What only loses devices keeps them apart. -/
theorem Separates.mono (separates : manager.Separates excludes) {later : DeviceManager}
    (fewer : ∀ owner id device, later.registration owner id = some device →
      manager.registration owner id = some device) : later.Separates excludes :=
  fun owner first second firstDevice secondDevice distinct isFirst isSecond =>
    separates owner first second firstDevice secondDevice distinct (fewer _ _ _ isFirst)
      (fewer _ _ _ isSecond)

theorem registration_of_unregister {owner other : DeviceOwner} {id listed : String}
    {device : UserDevice}
    (registered : (manager.unregister owner id).registration other listed = some device) :
    manager.registration other listed = some device := by
  rw [registration_unregister] at registered
  split_ifs at registered
  exact registered

/-- A removal leaves fewer devices. -/
theorem registration_of_removeDevice {owner other : DeviceOwner} {id listed : String}
    {device : UserDevice}
    (registered : (manager.perform (.removeDevice owner id)).registration other listed =
      some device) : manager.registration other listed = some device := by
  rw [perform, removeDevice_eq] at registered
  split_ifs at registered
  · exact registration_of_unregister registered
  · exact registered

theorem registration_of_removeConnection {other : DeviceOwner} {id listed : String}
    {device : UserDevice}
    (registered : (manager.perform (.removeConnection id)).registration other listed =
      some device) : manager.registration other listed = some device := by
  rw [perform, removeConnection_eq] at registered
  cases owned : manager.owners.lookup id with
  | none =>
      rw [owned] at registered
      exact registered
  | some owner =>
      rw [owned] at registered
      exact registration_of_unregister registered

/-- The new device is kept apart from the others exactly if no platform that stays excludes its
own. -/
theorem separates_addDevice_iff (symmetric : ∀ first second,
      excludes first second = excludes second first) (separates : manager.Separates excludes)
    (owner : DeviceOwner) (id : String) (device : DeviceInfo) :
    (manager.addDevice owner id device).1.Separates excludes ↔
      ∀ platform ∈ manager.existingPlatforms owner id, platform ∉ manager.strategy.checkConflict
        device.platform (manager.existingPlatforms owner id) →
          excludes device.platform platform = false := by
  constructor
  · intro after platform existing kept
    obtain ⟨listed, stored, distinct, registered, rfl⟩ := mem_existingPlatforms.mp existing
    apply after owner id listed ⟨id, device⟩ stored (Ne.symm distinct)
    · rw [registration_addDevice, if_pos rfl]
    · rw [registration_addDevice, if_neg distinct, if_neg, registered]
      intro displaced
      obtain ⟨-, other, isOther, named⟩ := mem_conflicts_iff.mp displaced
      obtain rfl := Option.some.inj (registered.symm.trans isOther)
      exact kept named
  · intro apart
    -- what stays beside the new device does not exclude it
    have stays : ∀ listed stored, listed ≠ id → manager.registration owner listed = some stored →
        listed ∉ (manager.addDevice owner id device).2 →
          excludes device.platform stored.deviceInfo.platform = false := by
      intro listed stored distinct registered kept
      apply apart
      · exact mem_existingPlatforms.mpr ⟨listed, stored, distinct, registered, rfl⟩
      · intro named
        exact kept (mem_conflicts_iff.mpr ⟨distinct, stored, registered, named⟩)
    intro other first second firstDevice secondDevice distinct isFirst isSecond
    by_cases same : other = owner
    · subst same
      rw [registration_addDevice] at isFirst isSecond
      split_ifs at isFirst with firstNew firstDisplaced
      · obtain rfl := Option.some.inj isFirst
        split_ifs at isSecond with secondNew secondDisplaced
        · exact absurd (firstNew.trans secondNew.symm) distinct
        · exact stays second secondDevice secondNew isSecond secondDisplaced
      · split_ifs at isSecond with secondNew secondDisplaced
        · obtain rfl := Option.some.inj isSecond
          rw [symmetric]
          exact stays first firstDevice firstNew isFirst firstDisplaced
        · exact separates other first second firstDevice secondDevice distinct isFirst isSecond
    · rw [registration_addDevice_of_ne same] at isFirst isSecond
      split_ifs at isFirst isSecond
      exact separates other first second firstDevice secondDevice distinct isFirst isSecond

/-- Devices kept apart, as a property of what the manager reports. -/
theorem Separates.pairwise (separates : manager.Separates excludes) (owner : DeviceOwner) :
    ((manager.getUserDevices owner).map DeviceInfo.platform).Pairwise
      fun first second => excludes first second = false := by
  rw [getUserDevices, List.map_map, List.pairwise_map]
  cases found : manager.devices.lookup owner with
  | none => exact List.Pairwise.nil
  | some devices =>
      have registered : ∀ entry ∈ devices.entries,
          manager.registration owner entry.1 = some entry.2 := by
        intro entry listed
        rw [registration_of_lookup found]
        exact AList.mem_lookup_iff.mpr listed
      refine (List.nodupKeys_iff_pairwise.mp devices.nodupKeys).imp_of_mem ?_
      intro first second isFirst isSecond distinct
      exact separates owner first.1 second.1 first.2 second.2 distinct (registered first isFirst)
        (registered second isSecond)

end DeviceManager

/-! ## Policies -/

/-- The policies of the built-in exclusive strategies. -/
inductive ExclusivePolicy where
  | mobileExclusive
  | platformExclusive
  | fullyExclusive
  | mobileAndPcCoexist
  deriving DecidableEq

namespace ExclusivePolicy

def strategy : ExclusivePolicy → DeviceConflictStrategy
  | mobileExclusive => .mobileExclusive
  | platformExclusive => .platformExclusive
  | fullyExclusive => .fullyExclusive
  | mobileAndPcCoexist => .mobileAndPcCoexist

/-- The platforms of the devices that an owner may have online together. -/
def Admits : ExclusivePolicy → List DevicePlatform → Prop
  | mobileExclusive, platforms => platforms.countP DevicePlatform.isMobile ≤ 1
  | platformExclusive, platforms => ∀ platform, platforms.count platform ≤ 1
  | fullyExclusive, platforms => platforms.length ≤ 1
  | mobileAndPcCoexist, platforms =>
      platforms.countP DevicePlatform.isMobile ≤ 1 ∧
        platforms.countP DevicePlatform.isDesktop ≤ 1 ∧
        ∀ platform, ¬platform.isMobile → ¬platform.isDesktop → platforms.count platform ≤ 1

/-- Two devices of these platforms are not online together. -/
def excludes : ExclusivePolicy → DevicePlatform → DevicePlatform → Bool
  | mobileExclusive, first, second => first.isMobile && second.isMobile
  | platformExclusive, first, second => first = second
  | fullyExclusive, _, _ => true
  | mobileAndPcCoexist, first, second =>
      (first.isMobile && second.isMobile) || (first.isDesktop && second.isDesktop) ||
        first = second

theorem excludes_comm (policy : ExclusivePolicy) (first second : DevicePlatform) :
    policy.excludes first second = policy.excludes second first := by
  cases policy <;> simp only [excludes, Bool.and_comm, eq_comm]

theorem not_mobile_and_desktop (platform : DevicePlatform) :
    ¬(platform.isMobile ∧ platform.isDesktop) := by
  cases platform <;> simp [DevicePlatform.isMobile, DevicePlatform.isDesktop]

/-- A new device displaces exactly the platforms that exclude its own. -/
theorem mem_checkConflict (policy : ExclusivePolicy) (new : DevicePlatform)
    (existing : List DevicePlatform) (platform : DevicePlatform) :
    platform ∈ policy.strategy.checkConflict new existing ↔
      platform ∈ existing ∧ policy.excludes new platform := by
  cases policy with
  | mobileExclusive =>
      simp only [strategy, DeviceConflictStrategy.checkConflict, excludes]
      split_ifs with mobile <;> simp [mobile]
  | platformExclusive =>
      simp only [strategy, DeviceConflictStrategy.checkConflict, excludes]
      split_ifs with present <;> grind
  | fullyExclusive => simp [strategy, DeviceConflictStrategy.checkConflict, excludes]
  | mobileAndPcCoexist =>
      have disjoint := not_mobile_and_desktop new
      simp only [strategy, DeviceConflictStrategy.checkConflict, excludes]
      split_ifs with mobile desktop present <;> grind

/-- The policy is the absence of two devices that exclude each other. -/
theorem admits_iff (policy : ExclusivePolicy) (platforms : List DevicePlatform) :
    policy.Admits platforms ↔
      platforms.Pairwise fun first second => policy.excludes first second = false := by
  cases policy with
  | mobileExclusive =>
      simp only [Admits, countP_le_one_iff, excludes, ← Bool.not_eq_true, Bool.and_eq_true]
  | platformExclusive =>
      simp only [Admits, ← List.nodup_iff_count_le_one, excludes, decide_eq_false_iff_not]
      rfl
  | fullyExclusive => simp [Admits, excludes, length_le_one_iff]
  | mobileAndPcCoexist =>
      simp only [Admits, List.count, countP_le_one_iff]
      constructor
      · rintro ⟨mobile, desktop, rest⟩
        -- the platforms are infinitely many, so the third part is read off the pairs one by one
        rw [List.pairwise_iff_forall_sublist] at mobile desktop ⊢
        intro first second pair
        have notMobile := mobile pair
        have notDesktop := desktop pair
        by_contra excluded
        have same : first = second := by
          simp only [excludes, Bool.not_eq_false, Bool.or_eq_true, Bool.and_eq_true,
            decide_eq_true_eq] at excluded
          tauto
        subst same
        rw [and_self] at notMobile notDesktop
        exact List.pairwise_iff_forall_sublist.mp (rest first notMobile notDesktop) pair
          ⟨beq_self_eq_true first, beq_self_eq_true first⟩
      · intro separated
        refine ⟨separated.imp ?_, separated.imp ?_, fun platform _ _ => separated.imp ?_⟩
        · rintro first second apart ⟨isFirst, isSecond⟩
          simp [excludes, isFirst, isSecond] at apart
        · rintro first second apart ⟨isFirst, isSecond⟩
          simp [excludes, isFirst, isSecond] at apart
        · rintro first second apart ⟨isFirst, isSecond⟩
          simp [excludes, (beq_iff_eq.mp isFirst).trans (beq_iff_eq.mp isSecond).symm] at apart

/-- Two platforms exclude each other exactly if the policy does not admit them together. -/
theorem not_admits_pair (policy : ExclusivePolicy) (first second : DevicePlatform) :
    ¬policy.Admits [first, second] ↔ policy.excludes first second := by
  rw [admits_iff]
  simp

/-! ## Every run keeps the policy -/

variable {policy : ExclusivePolicy} {manager : DeviceManager}

theorem separates_addDevice (separates : manager.Separates policy.excludes)
    (follows : manager.strategy = policy.strategy) (owner : DeviceOwner) (id : String)
    (device : DeviceInfo) : (manager.addDevice owner id device).1.Separates policy.excludes := by
  apply (DeviceManager.separates_addDevice_iff policy.excludes_comm separates owner id device).mpr
  intro platform existing kept
  rw [follows, mem_checkConflict] at kept
  exact Bool.eq_false_iff.mpr fun excluded => kept ⟨existing, excluded⟩

/-- A manager never changes its strategy, and no two devices of an owner exclude each other. -/
theorem separates_run (policy : ExclusivePolicy) (calls : List DeviceCall) :
    (DeviceManager.run policy.strategy calls).strategy = policy.strategy ∧
      (DeviceManager.run policy.strategy calls).Separates policy.excludes := by
  refine DeviceManager.run_induction (I := fun manager =>
    manager.strategy = policy.strategy ∧ manager.Separates policy.excludes) policy.strategy
      ⟨rfl, DeviceManager.separates_new policy.strategy⟩ ?_ calls
  rintro manager call ⟨follows, separates⟩
  refine ⟨(manager.strategy_perform call).trans follows, ?_⟩
  cases call with
  | addDevice owner id device => exact separates_addDevice separates follows owner id device
  | removeDevice owner id =>
      exact separates.mono fun _ _ _ => DeviceManager.registration_of_removeDevice
  | removeConnection id =>
      exact separates.mono fun _ _ _ => DeviceManager.registration_of_removeConnection

/-- The policy as a property of the devices that the manager reports. -/
theorem admits_of_separates (separates : manager.Separates policy.excludes) (owner : DeviceOwner) :
    policy.Admits ((manager.getUserDevices owner).map DeviceInfo.platform) := by
  rw [admits_iff]
  exact separates.pairwise owner

/-- **The devices of every owner satisfy the policy after every run**, and a registration
displaces only devices that the policy does not admit together with the new one. -/
theorem policy_kept_by_every_run (policy : ExclusivePolicy) (calls : List DeviceCall) :
    (∀ owner, policy.Admits
      (((DeviceManager.run policy.strategy calls).getUserDevices owner).map DeviceInfo.platform)) ∧
    ∀ owner id device,
      ∀ victim ∈ ((DeviceManager.run policy.strategy calls).addDevice owner id device).2,
        ∃ displaced,
          (DeviceManager.run policy.strategy calls).registration owner victim = some displaced ∧
          ¬policy.Admits [device.platform, displaced.deviceInfo.platform] := by
  obtain ⟨follows, separates⟩ := separates_run policy calls
  refine ⟨admits_of_separates separates, fun owner id device victim kicked => ?_⟩
  obtain ⟨-, displaced, registered, named⟩ := DeviceManager.mem_conflicts_iff.mp kicked
  rw [follows, mem_checkConflict] at named
  exact ⟨displaced, registered, (not_admits_pair policy _ _).mpr named.2⟩

end ExclusivePolicy

end FlareCore.Server
