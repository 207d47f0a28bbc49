import FlareCore.Common.Codec

/-!
# Devices, their owners and the conflict rules

A device belongs to an owner, a user within a tenant; users of the same name in
two tenants are different owners.  The device manager keeps the devices of each
owner that are online, and a conflict strategy decides which of them a newly
registered device displaces.

Sets of platforms are lists here.  The source enumerates hash sets, so nothing may
depend on their order; the strategies only test membership and count.
-/

namespace FlareCore.Server

open FlareCore.Common

set_option autoImplicit false

/-! ## Platforms and devices -/

inductive DevicePlatform where
  | web
  | pc
  | h5
  | android
  | ios
  | harmonyOS
  | other (name : String)
  deriving DecidableEq, Repr

namespace DevicePlatform

def isMobile : DevicePlatform → Bool
  | h5 | android | ios | harmonyOS => true
  | web | pc | other _ => false

/-- The platforms that count as a desktop. -/
def isDesktop : DevicePlatform → Bool
  | web | pc => true
  | h5 | android | ios | harmonyOS | other _ => false

def fromStr (text : String) : DevicePlatform :=
  if eqIgnoreAsciiCase text "web" then web
  else if eqIgnoreAsciiCase text "pc" || eqIgnoreAsciiCase text "desktop" then pc
  else if eqIgnoreAsciiCase text "h5" || eqIgnoreAsciiCase text "mobile_web" then h5
  else if eqIgnoreAsciiCase text "android" then android
  else if eqIgnoreAsciiCase text "ios" || eqIgnoreAsciiCase text "iphone" ||
      eqIgnoreAsciiCase text "ipad" then ios
  else if eqIgnoreAsciiCase text "harmonyos" || eqIgnoreAsciiCase text "harmony" ||
      eqIgnoreAsciiCase text "openharmony" then harmonyOS
  else other text

def asStr : DevicePlatform → String
  | web => "web"
  | pc => "pc"
  | h5 => "h5"
  | android => "android"
  | ios => "ios"
  | harmonyOS => "harmonyos"
  | other name => name

def debug [RustText] : DevicePlatform → String
  | web => "Web"
  | pc => "PC"
  | h5 => "H5"
  | android => "Android"
  | ios => "IOS"
  | harmonyOS => "HarmonyOS"
  | other name => "Other(" ++ RustText.debug name ++ ")"

end DevicePlatform

structure DeviceInfo where
  deviceId : String
  platform : DevicePlatform
  model : Option String
  appVersion : Option String
  systemVersion : Option String
  metadata : StringMap String
  deriving DecidableEq

/-! ## Owners -/

/-- The code points with the Unicode property `White_Space`. -/
def isWhitespace (c : Char) : Bool :=
  (9 ≤ c.toNat && c.toNat ≤ 13) || c.toNat = 0x20 || c.toNat = 0x85 || c.toNat = 0xA0 ||
    c.toNat = 0x1680 || (0x2000 ≤ c.toNat && c.toNat ≤ 0x200A) || c.toNat = 0x2028 ||
    c.toNat = 0x2029 || c.toNat = 0x202F || c.toNat = 0x205F || c.toNat = 0x3000

/-- `text.trim().is_empty()`. -/
def isBlank (text : String) : Bool :=
  text.toList.all isWhitespace

/-- A user within a tenant. -/
structure DeviceOwner where
  tenantId : String
  userId : String
  deriving DecidableEq, Repr

/-- A missing or blank tenant is the default tenant. -/
def DeviceOwner.new (tenantId : Option String) (userId : String) : DeviceOwner where
  tenantId := (tenantId.filter fun tenant => !isBlank tenant).getD "0"
  userId := userId

/-! ## Conflict strategies -/

inductive DeviceConflictStrategy where
  | allowAll
  | mobileExclusive
  | platformExclusive
  | fullyExclusive
  | mobileAndPcCoexist
  | custom (allowedCombinations exclusiveGroups : List (List DevicePlatform))
  deriving DecidableEq

namespace DeviceConflictStrategy

/-- The first exclusive group that contains the new platform and meets the
existing ones, as what it excludes. -/
def groupConflict (newDevice : DevicePlatform) (existing : List DevicePlatform) :
    List (List DevicePlatform) → Option (List DevicePlatform)
  | [] => none
  | group :: groups =>
      let conflicts := existing.filter (· ∈ group)
      if newDevice ∈ group ∧ conflicts ≠ [] then some conflicts
      else groupConflict newDevice existing groups

/-- The platforms a new device displaces; the empty list is the `Ok` of the source. -/
def checkConflict (strategy : DeviceConflictStrategy) (newDevice : DevicePlatform)
    (existing : List DevicePlatform) : List DevicePlatform :=
  match strategy with
  | allowAll => []
  | mobileExclusive =>
      if newDevice.isMobile then existing.filter DevicePlatform.isMobile else []
  | platformExclusive => if newDevice ∈ existing then [newDevice] else []
  | fullyExclusive => existing
  | mobileAndPcCoexist =>
      if newDevice.isMobile then existing.filter DevicePlatform.isMobile
      else if newDevice.isDesktop then existing.filter DevicePlatform.isDesktop
      else if newDevice ∈ existing then [newDevice] else []
  | custom allowedCombinations exclusiveGroups =>
      match groupConflict newDevice existing exclusiveGroups with
      | some conflicts => conflicts
      | none =>
          let combined := existing.insert newDevice
          if 1 < combined.length ∧
              ¬allowedCombinations.any (fun allowed => combined.all (· ∈ allowed)) then existing
          else []

end DeviceConflictStrategy

/-! ## The device manager -/

structure UserDevice where
  connectionId : String
  deviceInfo : DeviceInfo
  deriving DecidableEq

/-- The devices online, by owner, and the owner of each connection. -/
structure DeviceManager where
  devices : AList (fun _ : DeviceOwner => StringMap UserDevice)
  owners : StringMap DeviceOwner
  strategy : DeviceConflictStrategy

namespace DeviceManager

def new (strategy : DeviceConflictStrategy) : DeviceManager := ⟨∅, ∅, strategy⟩

/-- `DeviceRegistry::detach`. -/
def detach (manager : DeviceManager) (owner : DeviceOwner) (connectionId : String) :
    DeviceManager :=
  match manager.devices.lookup owner with
  | none => manager
  | some devices =>
      let remaining := devices.erase connectionId
      if remaining.keys = [] then { manager with devices := manager.devices.erase owner }
      else { manager with devices := manager.devices.insert owner remaining }

/-- `add_device`: registers the device and returns the connections it displaces. -/
def addDevice (manager : DeviceManager) (owner : DeviceOwner) (connectionId : String)
    (deviceInfo : DeviceInfo) : DeviceManager × List String :=
  -- the connection may be registered under another owner by an earlier CONNECT
  let manager :=
    match manager.owners.lookup connectionId with
    | some previous => if previous ≠ owner then manager.detach previous connectionId else manager
    | none => manager
  let userDevices := (manager.devices.lookup owner).getD ∅
  let others := userDevices.entries.filter fun device => device.1 ≠ connectionId
  let existingPlatforms := (others.map fun device => device.2.deviceInfo.platform).dedup
  let conflictPlatforms := manager.strategy.checkConflict deviceInfo.platform existingPlatforms
  let conflicts := (others.filter fun device =>
    device.2.deviceInfo.platform ∈ conflictPlatforms).map Sigma.fst
  let remaining := conflicts.foldl (fun devices id => devices.erase id) userDevices
  let owners := conflicts.foldl (fun owners id => owners.erase id) manager.owners
  ({ manager with
      devices := manager.devices.insert owner
        (remaining.insert connectionId ⟨connectionId, deviceInfo⟩)
      owners := owners.insert connectionId owner },
    conflicts)

/-- `remove_device`: only if the connection is registered under that owner. -/
def removeDevice (manager : DeviceManager) (owner : DeviceOwner) (connectionId : String) :
    DeviceManager :=
  if manager.owners.lookup connectionId = some owner then
    { manager with owners := manager.owners.erase connectionId }.detach owner connectionId
  else manager

/-- `remove_connection`: whatever owner the connection is registered under. -/
def removeConnection (manager : DeviceManager) (connectionId : String) :
    DeviceManager × Option DeviceOwner :=
  match manager.owners.lookup connectionId with
  | none => (manager, none)
  | some owner =>
      ({ manager with owners := manager.owners.erase connectionId }.detach owner connectionId,
        some owner)

/-- `get_user_devices`. -/
def getUserDevices (manager : DeviceManager) (owner : DeviceOwner) : List DeviceInfo :=
  ((manager.devices.lookup owner).getD ∅).entries.map fun device => device.2.deviceInfo

end DeviceManager

/-! ## The KICKED command of a device conflict -/

/-- `DEVICE_CONFLICT_REASON`. -/
def deviceConflictReason : String := "DEVICE_CONFLICT"

/-- `device_conflict_kicked`. -/
def deviceConflictKicked [RustText] (platform : DevicePlatform) (newDeviceId : String) :
    SystemCommand :=
  .kicked deviceConflictReason
    (((∅ : StringMap Bytes).insert "reason" (utf8 deviceConflictReason)).insert "platform"
      (utf8 platform.debug) |>.insert "new_device_id" (utf8 newDeviceId))

end FlareCore.Server
