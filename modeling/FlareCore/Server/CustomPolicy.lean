import FlareCore.Server.DevicePolicy
import Mathlib.Data.List.Induction

/-!
# What a custom strategy guarantees

A custom strategy names groups of platforms that exclude each other and combinations that may be
online together.  A new device displaces what the first group that concerns it excludes, and then
neither the later groups nor the combinations are looked at: a device that a later group excludes
stays, and so does one that is in no combination with the new one
(`custom_policy_broken_by_first_group`).

`CustomPolicy.Spares` says that what the first group leaves passes these checks.  A run keeps the
policy exactly if every registration in it does so (`custom_policy_kept_iff`).
-/

namespace FlareCore.Server

open FlareCore.Common

set_option autoImplicit false

structure CustomPolicy where
  allowedCombinations : List (List DevicePlatform)
  exclusiveGroups : List (List DevicePlatform)

namespace CustomPolicy

variable (policy : CustomPolicy)

def strategy : DeviceConflictStrategy :=
  .custom policy.allowedCombinations policy.exclusiveGroups

/-- Two platforms are in a common group. -/
def excludes (first second : DevicePlatform) : Bool :=
  policy.exclusiveGroups.any fun group => first ∈ group && second ∈ group

/-- The first group that a new platform has in common with one of the others. -/
def firstGroup (newDevice : DevicePlatform) (existing : List DevicePlatform) :
    Option (List DevicePlatform) :=
  policy.exclusiveGroups.find? fun group => newDevice ∈ group && existing.any (· ∈ group)

/-- What the first group leaves is in no group with the new platform, and in a combination with
it. -/
def Spares (newDevice : DevicePlatform) (existing : List DevicePlatform) : Prop :=
  ∀ group, policy.firstGroup newDevice existing = some group →
    (∀ platform ∈ existing, platform ∉ group → policy.excludes newDevice platform = false) ∧
    ((∃ platform ∈ existing, platform ∉ group) →
      ∃ combination ∈ policy.allowedCombinations, newDevice ∈ combination ∧
        ∀ platform ∈ existing, platform ∉ group → platform ∈ combination)

variable {policy}

theorem excludes_comm (first second : DevicePlatform) :
    policy.excludes first second = policy.excludes second first := by
  simp only [excludes, Bool.and_comm]

/-! ## What a check displaces -/

theorem groupConflict_eq (newDevice : DevicePlatform) (existing : List DevicePlatform)
    (groups : List (List DevicePlatform)) :
    DeviceConflictStrategy.groupConflict newDevice existing groups =
      (groups.find? fun group => newDevice ∈ group && existing.any (· ∈ group)).map
        fun group => existing.filter (· ∈ group) := by
  induction groups with
  | nil => rfl
  | cons group groups inductionHypothesis =>
      have meets : (newDevice ∈ group ∧ existing.filter (· ∈ group) ≠ []) ↔
          (decide (newDevice ∈ group) && existing.any (· ∈ group)) = true := by
        simp [List.filter_eq_nil_iff]
      rw [DeviceConflictStrategy.groupConflict]
      by_cases concerned : (decide (newDevice ∈ group) && existing.any (· ∈ group)) = true
      · rw [if_pos (meets.mpr concerned), List.find?_cons_of_pos, Option.map_some]
        exact concerned
      · rw [if_neg (fun both => concerned (meets.mp both)), List.find?_cons_of_neg,
          inductionHypothesis]
        exact concerned

theorem checkConflict_of_firstGroup {newDevice : DevicePlatform} {existing : List DevicePlatform}
    {group : List DevicePlatform} (first : policy.firstGroup newDevice existing = some group) :
    policy.strategy.checkConflict newDevice existing = existing.filter (· ∈ group) := by
  rw [strategy, DeviceConflictStrategy.checkConflict, groupConflict_eq]
  rw [firstGroup] at first
  rw [first]
  rfl

theorem checkConflict_of_no_group {newDevice : DevicePlatform} {existing : List DevicePlatform}
    (none : policy.firstGroup newDevice existing = none) :
    policy.strategy.checkConflict newDevice existing =
      if 1 < (existing.insert newDevice).length ∧ ¬ policy.allowedCombinations.any
        (fun allowed => (existing.insert newDevice).all (· ∈ allowed)) then existing else [] := by
  rw [strategy, DeviceConflictStrategy.checkConflict, groupConflict_eq]
  rw [firstGroup] at none
  rw [none]
  rfl

/-- Without a group that concerns it, a new platform excludes none of the others. -/
theorem excludes_of_no_group {newDevice platform : DevicePlatform} {existing : List DevicePlatform}
    (none : policy.firstGroup newDevice existing = none) (listed : platform ∈ existing) :
    policy.excludes newDevice platform = false := by
  rw [excludes, List.any_eq_false]
  intro group among both
  rw [firstGroup, List.find?_eq_none] at none
  simp only [Bool.and_eq_true, decide_eq_true_eq] at both
  apply none group among
  simp only [Bool.and_eq_true, decide_eq_true_eq, List.any_eq_true]
  exact ⟨both.1, platform, listed, both.2⟩

/-- What stays beside a new device: it is in no group with it, and if it is of another platform
then everything that stays is in a combination with the new one. -/
def Fits (policy : CustomPolicy) (newDevice : DevicePlatform) (kept : DevicePlatform → Prop) :
    Prop :=
  (∀ platform, kept platform → policy.excludes newDevice platform = false) ∧
    ((∃ platform, kept platform ∧ platform ≠ newDevice) →
      ∃ combination ∈ policy.allowedCombinations, newDevice ∈ combination ∧
        ∀ platform, kept platform → platform ∈ combination)

/-- The platforms that a check leaves. -/
def Leaves (policy : CustomPolicy) (newDevice : DevicePlatform) (existing : List DevicePlatform)
    (platform : DevicePlatform) : Prop :=
  platform ∈ existing ∧ platform ∉ policy.strategy.checkConflict newDevice existing

theorem two_le_length_insert {newDevice platform : DevicePlatform} {existing : List DevicePlatform}
    (listed : platform ∈ existing) (distinct : platform ≠ newDevice) :
    1 < (existing.insert newDevice).length := by
  have pair : [newDevice, platform] ⊆ existing.insert newDevice := by
    intro other member
    rcases List.mem_cons.mp member with rfl | last
    · exact List.mem_insert_self
    · rw [List.mem_singleton.mp last]
      exact List.mem_insert_of_mem listed
  have nodup : [newDevice, platform].Nodup := by
    simp [Ne.symm distinct]
  exact (List.subperm_of_subset nodup pair).length_le

/-- Without a group that concerns the new platform everything fits: what is in no combination with
it goes. -/
theorem fits_of_no_group {newDevice : DevicePlatform} {existing : List DevicePlatform}
    (none : policy.firstGroup newDevice existing = none) :
    policy.Fits newDevice (policy.Leaves newDevice existing) := by
  refine ⟨fun platform kept => excludes_of_no_group none kept.1, ?_⟩
  rintro ⟨platform, ⟨listed, kept⟩, distinct⟩
  rw [checkConflict_of_no_group none] at kept
  split_ifs at kept with rejected
  · exact absurd listed kept
  · have allowed : policy.allowedCombinations.any
        (fun allowed => (existing.insert newDevice).all (· ∈ allowed)) = true := by
      by_contra notAllowed
      exact rejected ⟨two_le_length_insert listed distinct, notAllowed⟩
    obtain ⟨combination, among, within⟩ := List.any_eq_true.mp allowed
    simp only [List.all_eq_true, decide_eq_true_eq] at within
    refine ⟨combination, among, within newDevice List.mem_insert_self, ?_⟩
    intro other stays
    exact within other (List.mem_insert_of_mem stays.1)

theorem fits_iff_spares (newDevice : DevicePlatform) (existing : List DevicePlatform) :
    policy.Fits newDevice (policy.Leaves newDevice existing) ↔
      policy.Spares newDevice existing := by
  cases first : policy.firstGroup newDevice existing with
  | none =>
      refine ⟨fun _ group same => ?_, fun _ => fits_of_no_group first⟩
      rw [first] at same
      cases same
  | some group =>
      have contains : newDevice ∈ group := by
        have found := List.find?_some first
        simp only [Bool.and_eq_true, decide_eq_true_eq] at found
        exact found.1
      have leaves : ∀ platform, policy.Leaves newDevice existing platform ↔
          platform ∈ existing ∧ platform ∉ group := by
        intro platform
        rw [Leaves, checkConflict_of_firstGroup first, List.mem_filter, decide_eq_true_eq]
        tauto
      have other : ∀ platform, platform ∉ group → platform ≠ newDevice := by
        rintro platform outside rfl
        exact outside contains
      simp only [Fits, Spares, leaves, first, Option.some.injEq, forall_eq', and_imp]
      refine and_congr_right fun _ => ?_
      constructor
      · rintro allowed ⟨platform, listed, outside⟩
        exact allowed ⟨platform, ⟨listed, outside⟩, other platform outside⟩
      · rintro allowed ⟨platform, ⟨listed, outside⟩, -⟩
        exact allowed ⟨platform, listed, outside⟩

/-! ## One registration -/

/-- An owner has a device of a platform. -/
def Online (manager : DeviceManager) (owner : DeviceOwner) (platform : DevicePlatform) : Prop :=
  ∃ id device, manager.registration owner id = some device ∧ device.deviceInfo.platform = platform

/-- Different platforms of an owner are all in one combination. -/
def Combines (policy : CustomPolicy) (manager : DeviceManager) (owner : DeviceOwner) : Prop :=
  (∃ first second, Online manager owner first ∧ Online manager owner second ∧ first ≠ second) →
    ∃ combination ∈ policy.allowedCombinations, ∀ platform, Online manager owner platform →
      platform ∈ combination

/-- The policy, as a property of what is registered. -/
structure Holds (policy : CustomPolicy) (manager : DeviceManager) : Prop where
  separates : manager.Separates policy.excludes
  combines : ∀ owner, policy.Combines manager owner

section

variable {manager : DeviceManager}

theorem Combines.mono {later : DeviceManager} {owner : DeviceOwner}
    (combines : policy.Combines manager owner)
    (fewer : ∀ id device, later.registration owner id = some device →
      manager.registration owner id = some device) : policy.Combines later owner := by
  have online : ∀ platform, Online later owner platform → Online manager owner platform := by
    rintro platform ⟨id, device, registered, same⟩
    exact ⟨id, device, fewer id device registered, same⟩
  rintro ⟨first, second, isFirst, isSecond, distinct⟩
  obtain ⟨combination, among, within⟩ :=
    combines ⟨first, second, online first isFirst, online second isSecond, distinct⟩
  exact ⟨combination, among, fun platform isOnline => within platform (online platform isOnline)⟩

/-- What only loses devices keeps the policy. -/
theorem Holds.mono {later : DeviceManager} (holds : policy.Holds manager)
    (fewer : ∀ owner id device, later.registration owner id = some device →
      manager.registration owner id = some device) : policy.Holds later :=
  ⟨holds.separates.mono fewer, fun owner => (holds.combines owner).mono (fewer owner)⟩

theorem online_addDevice_iff (follows : manager.strategy = policy.strategy) (owner : DeviceOwner)
    (id : String) (device : DeviceInfo) (platform : DevicePlatform) :
    Online (manager.addDevice owner id device).1 owner platform ↔ platform = device.platform ∨
      policy.Leaves device.platform (manager.existingPlatforms owner id) platform := by
  constructor
  · rintro ⟨listed, stored, registered, rfl⟩
    rw [DeviceManager.registration_addDevice] at registered
    split_ifs at registered with new displaced
    · obtain rfl := Option.some.inj registered
      exact Or.inl rfl
    · right
      refine ⟨DeviceManager.mem_existingPlatforms.mpr ⟨listed, stored, new, registered, rfl⟩, ?_⟩
      intro named
      rw [← follows] at named
      exact displaced (DeviceManager.mem_conflicts_iff.mpr ⟨new, stored, registered, named⟩)
  · rintro (rfl | ⟨existing, kept⟩)
    · refine ⟨id, ⟨id, device⟩, ?_, rfl⟩
      rw [DeviceManager.registration_addDevice, if_pos rfl]
    · obtain ⟨listed, stored, distinct, registered, rfl⟩ :=
        DeviceManager.mem_existingPlatforms.mp existing
      refine ⟨listed, stored, ?_, rfl⟩
      rw [DeviceManager.registration_addDevice, if_neg distinct, if_neg, registered]
      intro displaced
      obtain ⟨-, other, isOther, named⟩ := DeviceManager.mem_conflicts_iff.mp displaced
      obtain rfl := Option.some.inj (registered.symm.trans isOther)
      rw [follows] at named
      exact kept named

/-- The combinations of the owner after a registration, by what stays. -/
theorem combines_addDevice_iff (follows : manager.strategy = policy.strategy) (owner : DeviceOwner)
    (id : String) (device : DeviceInfo) :
    policy.Combines (manager.addDevice owner id device).1 owner ↔
      ((∃ platform, policy.Leaves device.platform (manager.existingPlatforms owner id) platform ∧
          platform ≠ device.platform) →
        ∃ combination ∈ policy.allowedCombinations, device.platform ∈ combination ∧
          ∀ platform, policy.Leaves device.platform (manager.existingPlatforms owner id) platform →
            platform ∈ combination) := by
  simp only [Combines, online_addDevice_iff follows]
  constructor
  · rintro combines ⟨platform, kept, distinct⟩
    obtain ⟨combination, among, within⟩ :=
      combines ⟨platform, device.platform, Or.inr kept, Or.inl rfl, distinct⟩
    refine ⟨combination, among, within _ (Or.inl rfl), ?_⟩
    intro other stays
    exact within other (Or.inr stays)
  · rintro fits ⟨first, second, isFirst, isSecond, distinct⟩
    -- one of two different platforms is not the new one
    have other : ∃ platform,
        policy.Leaves device.platform (manager.existingPlatforms owner id) platform ∧
          platform ≠ device.platform := by
      rcases isFirst with rfl | firstKept
      · rcases isSecond with rfl | secondKept
        · exact absurd rfl distinct
        · exact ⟨second, secondKept, Ne.symm distinct⟩
      · by_cases same : first = device.platform
        · rcases isSecond with rfl | secondKept
          · exact absurd same distinct
          · exact ⟨second, secondKept, fun new => distinct (same.trans new.symm)⟩
        · exact ⟨first, firstKept, same⟩
    obtain ⟨combination, among, contains, within⟩ := fits other
    refine ⟨combination, among, ?_⟩
    rintro platform (rfl | kept)
    · exact contains
    · exact within platform kept

/-- A registration keeps the policy exactly if it spares nobody that the checks it skips would
displace. -/
theorem Holds.addDevice_iff (holds : policy.Holds manager)
    (follows : manager.strategy = policy.strategy) (owner : DeviceOwner) (id : String)
    (device : DeviceInfo) :
    policy.Holds (manager.addDevice owner id device).1 ↔
      policy.Spares device.platform (manager.existingPlatforms owner id) := by
  have others : ∀ other, other ≠ owner →
      policy.Combines (manager.addDevice owner id device).1 other := by
    intro other distinct
    apply (holds.combines other).mono
    intro listed stored registered
    rw [DeviceManager.registration_addDevice_of_ne distinct] at registered
    split_ifs at registered
    exact registered
  have apart := DeviceManager.separates_addDevice_iff excludes_comm holds.separates owner id device
  have combined := combines_addDevice_iff follows owner id device
  rw [← fits_iff_spares]
  constructor
  · intro after
    refine ⟨?_, combined.mp (after.combines owner)⟩
    rintro platform ⟨existing, kept⟩
    rw [← follows] at kept
    exact apart.mp after.separates platform existing kept
  · rintro ⟨excluded, fits⟩
    refine ⟨apart.mpr ?_, ?_⟩
    · intro platform existing kept
      rw [follows] at kept
      exact excluded platform ⟨existing, kept⟩
    · intro other
      by_cases same : other = owner
      · rw [same]
        exact combined.mpr fits
      · exact others other same

/-- A new manager has no devices. -/
theorem holds_new : policy.Holds (.new policy.strategy) := by
  refine ⟨DeviceManager.separates_new policy.strategy, ?_⟩
  rintro owner ⟨first, -, ⟨id, device, registered, -⟩, -⟩
  cases registered

/-- A call keeps the policy, if it spares nobody in case it is a registration. -/
theorem Holds.perform (holds : policy.Holds manager) (follows : manager.strategy = policy.strategy)
    (call : DeviceCall) (spares : ∀ owner id device, call = .addDevice owner id device →
      policy.Spares device.platform (manager.existingPlatforms owner id)) :
    policy.Holds (manager.perform call) := by
  cases call with
  | addDevice owner id device =>
      exact (holds.addDevice_iff follows owner id device).mpr (spares owner id device rfl)
  | removeDevice owner id =>
      exact holds.mono fun _ _ _ => DeviceManager.registration_of_removeDevice
  | removeConnection id =>
      exact holds.mono fun _ _ _ => DeviceManager.registration_of_removeConnection

end

/-- A run keeps the policy throughout exactly if no registration in it spares a device that the
checks after the first group would have displaced. -/
theorem custom_policy_kept_iff (policy : CustomPolicy) (calls : List DeviceCall) :
    (∀ earlier later, calls = earlier ++ later →
      policy.Holds (DeviceManager.run policy.strategy earlier)) ↔
    ∀ earlier owner id device later, calls = earlier ++ .addDevice owner id device :: later →
      policy.Spares device.platform
        ((DeviceManager.run policy.strategy earlier).existingPlatforms owner id) := by
  have follows := DeviceManager.strategy_run policy.strategy
  constructor
  · intro kept earlier owner id device later split
    have before := kept earlier _ split
    have after := kept (earlier ++ [.addDevice owner id device]) later (by simp [split])
    rw [DeviceManager.run_concat] at after
    exact (before.addDevice_iff (follows earlier) owner id device).mp after
  · intro spares earlier
    induction earlier using List.reverseRecOn with
    | nil =>
        intro later _
        exact holds_new
    | append_singleton earlier call inductionHypothesis =>
        intro later split
        rw [DeviceManager.run_concat]
        have before := inductionHypothesis (call :: later) (by simp [split])
        apply before.perform (follows earlier)
        rintro owner id device rfl
        exact spares earlier owner id device later (by simp [split])

/-! ## The first group decides -/

def deviceOf (platform : DevicePlatform) : DeviceInfo :=
  ⟨"d", platform, none, none, none, ∅⟩

/-- A user comes online with iOS and PC, and then with Android. -/
def threeDevices : List DeviceCall :=
  [.addDevice ⟨"t", "u"⟩ "a" (deviceOf .ios), .addDevice ⟨"t", "u"⟩ "b" (deviceOf .pc),
    .addDevice ⟨"t", "u"⟩ "c" (deviceOf .android)]

/-- Android excludes iOS, and it excludes PC, in two groups. -/
def overlapping : CustomPolicy :=
  ⟨[[.android, .ios, .pc]], [[.android, .ios], [.android, .pc]]⟩

/-- Android excludes iOS, and PC may be online with iOS only. -/
def restricted : CustomPolicy :=
  ⟨[[.ios, .pc]], [[.android, .ios]]⟩

/-- Android displaces iOS because of the first group, and PC stays beside it: under the one policy
although both are in a group, under the other although they are in no combination. -/
theorem custom_policy_broken_by_first_group :
    ¬ (DeviceManager.run overlapping.strategy threeDevices).Separates overlapping.excludes ∧
      ¬ restricted.Combines (DeviceManager.run restricted.strategy threeDevices) ⟨"t", "u"⟩ := by
  constructor
  · intro separates
    have apart := separates ⟨"t", "u"⟩ "b" "c" ⟨"b", deviceOf .pc⟩ ⟨"c", deviceOf .android⟩
      (by decide) rfl rfl
    exact absurd apart (by decide)
  · intro combines
    have pc : Online (DeviceManager.run restricted.strategy threeDevices) ⟨"t", "u"⟩ .pc :=
      ⟨"b", ⟨"b", deviceOf .pc⟩, rfl, rfl⟩
    have android : Online (DeviceManager.run restricted.strategy threeDevices) ⟨"t", "u"⟩
        .android := ⟨"c", ⟨"c", deviceOf .android⟩, rfl, rfl⟩
    obtain ⟨combination, among, within⟩ :=
      combines ⟨.pc, .android, pc, android, DevicePlatform.noConfusion⟩
    obtain rfl := List.mem_singleton.mp among
    exact absurd (within .android android) (by decide)

end CustomPolicy

end FlareCore.Server
