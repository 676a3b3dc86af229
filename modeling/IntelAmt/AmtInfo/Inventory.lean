import IntelAmt.AmtInfo.Settings
import IntelAmt.Errors
import Mathlib.Data.Finset.Union
import Mathlib.Data.List.Sort

/-!
# The hardware inventory

`hardware.py`: which subsets of the facts may be asked for, the types of the
inventory, and the census of the properties of an instance.
-/

namespace IntelAmt
namespace Hardware

open Foundation Wsman Models

/-!
## Subsets
-/

inductive Subset where
  | config
  | system
  | processor
  | memory
  | storage
deriving DecidableEq, Repr

def validSubsets : Finset Subset :=
  {Subset.config, Subset.system, Subset.processor, Subset.memory,
    Subset.storage}

def minimalSubset : Finset Subset := {Subset.config}

/-- `_expand`, as far as the names are valid. -/
def expand (name : String) : Finset Subset :=
  if name = "hardware" then
    {Subset.system, Subset.processor, Subset.memory, Subset.storage}
  else if name = "config" then {Subset.config}
  else if name = "system" then {Subset.system}
  else if name = "processor" then {Subset.processor}
  else if name = "memory" then {Subset.memory}
  else if name = "storage" then {Subset.storage}
  else ∅

structure Selection where
  additional : Finset Subset := ∅
  excluded : Finset Subset := ∅

def Selection.add (selection : Selection) (subsets : Finset Subset) :
    Selection :=
  { selection with additional := selection.additional ∪ subsets }

def Selection.exclude (selection : Selection) (subsets : Finset Subset) :
    Selection :=
  { selection with excluded := selection.excluded ∪ subsets }

def Selection.take (selection : Selection) (entry : String) : Selection :=
  let name := strip entry
  if name = "all" then selection.add validSubsets
  else if name = "min" then selection.add minimalSubset
  else
    match name.toList with
    | '!' :: rest =>
        let negated := String.ofList rest
        if negated = "all" then
          selection.exclude (validSubsets \ minimalSubset)
        else if negated = "min" then selection.exclude minimalSubset
        else selection.exclude (expand negated)
    | _ => selection.add (expand name)

/-- `resolve_gather_subset`. -/
def resolveGatherSubset (gatherSubset : List String) : Finset Subset :=
  let selection := gatherSubset.foldl Selection.take {}
  let additional :=
    if selection.additional = ∅ then validSubsets else selection.additional
  (additional \ (selection.excluded \ minimalSubset)) ∪ minimalSubset

theorem minimalSubset_resolved (gatherSubset : List String) :
    minimalSubset ⊆ resolveGatherSubset gatherSubset :=
  Finset.subset_union_right

inductive FactGroup where
  | chassis
  | baseboard
  | processors
  | chips
  | memory
  | storage
deriving DecidableEq, Repr

def factGroupsBySubset : Subset -> Finset FactGroup
  | Subset.config => ∅
  | Subset.system => {FactGroup.chassis, FactGroup.baseboard}
  | Subset.processor => {FactGroup.processors, FactGroup.chips}
  | Subset.memory => {FactGroup.memory}
  | Subset.storage => {FactGroup.storage}

/-- `requested_fact_groups`. -/
def requestedFactGroups (subsets : Finset Subset) : Finset FactGroup :=
  subsets.biUnion factGroupsBySubset

inductive InventoryClass where
  | chassis
  | card
  | processor
  | chip
  | physicalMemory
  | mediaAccessDevice
deriving DecidableEq, Repr

def InventoryClass.name : InventoryClass -> String
  | chassis => "CIM_Chassis"
  | card => "CIM_Card"
  | processor => "CIM_Processor"
  | chip => "CIM_Chip"
  | physicalMemory => "CIM_PhysicalMemory"
  | mediaAccessDevice => "CIM_MediaAccessDevice"

def factGroupByClass : InventoryClass -> FactGroup
  | InventoryClass.chassis => FactGroup.chassis
  | InventoryClass.card => FactGroup.baseboard
  | InventoryClass.processor => FactGroup.processors
  | InventoryClass.chip => FactGroup.chips
  | InventoryClass.physicalMemory => FactGroup.memory
  | InventoryClass.mediaAccessDevice => FactGroup.storage

/-!
## Tables
-/

def chassisPackageTypeTable : Table :=
  [(0, "unknown"),
    (1, "other"),
    (2, "smbios_reserved1"),
    (3, "desktop"),
    (4, "low_profile_desktop"),
    (5, "pizza_box"),
    (6, "mini_tower"),
    (7, "tower"),
    (8, "portable"),
    (9, "laptop"),
    (10, "notebook"),
    (11, "handheld"),
    (12, "docking_station"),
    (13, "all_in_one"),
    (14, "sub_notebook"),
    (15, "space_saving"),
    (16, "lunch_box"),
    (17, "main_system_chassis"),
    (18, "expansion_chassis"),
    (19, "sub_chassis"),
    (20, "bus_expansion_chassis"),
    (21, "peripheral_chassis"),
    (22, "storage_chassis"),
    (23, "smbios_reserved2"),
    (24, "sealed_case_pc"),
    (25, "smbios_reserved3"),
    (26, "compact_pci"),
    (27, "advanced_tca"),
    (28, "blade_enclosure"),
    (29, "smbios_reserved4"),
    (30, "tablet"),
    (31, "convertible"),
    (32, "detachable"),
    (33, "io_t_gateway"),
    (34, "embedded_pc"),
    (35, "mini_pc"),
    (36, "stick_pc")]

def packageTypeTable : Table :=
  [(0, "unknown"),
    (1, "other"),
    (2, "rack"),
    (3, "chassis_frame"),
    (4, "cross_connect_backplane"),
    (5, "container_frame_slot"),
    (6, "power_supply"),
    (7, "fan"),
    (8, "sensor"),
    (9, "module_card"),
    (10, "port_connector"),
    (11, "battery"),
    (12, "processor"),
    (13, "memory"),
    (14, "power_source_generator"),
    (15, "storage_media_package"),
    (16, "blade"),
    (17, "blade_expansion")]

def memoryTypeTable : Table :=
  [(0, "unknown"),
    (1, "other"),
    (2, "dram"),
    (3, "synchronous_dram"),
    (4, "cache_dram"),
    (5, "edo"),
    (6, "edram"),
    (7, "vram"),
    (8, "sram"),
    (9, "ram"),
    (10, "rom"),
    (11, "flash"),
    (12, "eeprom"),
    (13, "feprom"),
    (14, "eprom"),
    (15, "cdram"),
    (16, "3_dram"),
    (17, "sdram"),
    (18, "sgram"),
    (19, "rdram"),
    (20, "ddr"),
    (21, "ddr2"),
    (22, "bram"),
    (23, "fbdimm"),
    (24, "ddr3"),
    (25, "fbd2"),
    (26, "ddr4"),
    (27, "lpddr"),
    (28, "lpddr2"),
    (29, "lpddr3"),
    (30, "lpddr4"),
    (31, "logical_non_volatile_device"),
    (32, "hbm"),
    (33, "hbm2"),
    (34, "ddr5"),
    (35, "lpddr5"),
    (36, "hbm3")]

def mediaCapabilitiesTable : Table :=
  [(0, "unknown"),
    (1, "other"),
    (2, "sequential_access"),
    (3, "random_access"),
    (4, "supports_writing"),
    (5, "encryption"),
    (6, "compression"),
    (7, "supports_removable_media"),
    (8, "manual_cleaning"),
    (9, "automatic_cleaning"),
    (10, "smart_notification"),
    (11, "supports_dual_sided_media"),
    (12, "pre_dismount_eject_not_required")]

def mediaSecurityTable : Table :=
  [(1, "other"),
    (2, "unknown"),
    (3, "none"),
    (4, "read_only"),
    (5, "locked_out"),
    (6, "boot_bypass"),
    (7, "boot_bypass_and_read_only")]

def mediaEnabledDefaultTable : Table :=
  [(2, "enabled"),
    (3, "disabled"),
    (5, "not_applicable"),
    (6, "enabled_but_offline"),
    (7, "no_default"),
    (9, "quiesce")]

def cpuStatusTable : Table :=
  [(0, "unknown"),
    (1, "cpu_enabled"),
    (2, "cpu_disabled_by_user"),
    (3, "cpu_disabled_by_bios"),
    (4, "cpu_is_idle"),
    (5, "other")]

def healthStateTable : Table :=
  [(0, "unknown"),
    (5, "ok"),
    (10, "degraded_warning"),
    (15, "minor_failure"),
    (20, "major_failure"),
    (25, "critical_failure"),
    (30, "non_recoverable_error")]

def upgradeMethodTable : Table :=
  [(0, "other"),
    (1, "unknown"),
    (2, "daughter_board"),
    (3, "zif_socket"),
    (4, "replacement_piggy_back"),
    (5, "none"),
    (6, "lif_socket"),
    (7, "slot1"),
    (8, "slot2"),
    (9, "370_pin_socket"),
    (10, "slot_a"),
    (11, "slot_m"),
    (12, "socket423"),
    (13, "socket_a_socket462"),
    (14, "socket478"),
    (15, "socket754"),
    (16, "socket940"),
    (17, "socket939"),
    (18, "socketm_pga604"),
    (19, "socket_lga771"),
    (20, "socket_lga775"),
    (21, "socket_s1"),
    (22, "socket_am2"),
    (23, "socket_f1207"),
    (24, "socket_lga1366"),
    (25, "socket_g34"),
    (26, "socket_am3"),
    (27, "socket_c32"),
    (28, "socket_lga1156"),
    (29, "socket_lga1567"),
    (30, "socket_pga988_a"),
    (31, "socket_bga1288"),
    (32, "r_pga988_b"),
    (33, "bga1023"),
    (34, "bga1224"),
    (35, "lga1155"),
    (36, "lga1356"),
    (37, "lga2011"),
    (38, "socket_fs1"),
    (39, "socket_fs2"),
    (40, "socket_fm1"),
    (41, "socket_fm2"),
    (42, "socket_lga20113"),
    (43, "socket_lga13563"),
    (44, "socket_lga1150"),
    (45, "socket_bga1168"),
    (46, "socket_bga1234"),
    (47, "socket_bga1364"),
    (48, "socket_am4"),
    (49, "socket_lga1151"),
    (50, "socket_bga1356"),
    (51, "socket_bga1440"),
    (52, "socket_bga1515"),
    (53, "socket_lga36471"),
    (54, "socket_sp3"),
    (55, "socket_sp3r2"),
    (56, "socket_lga2066"),
    (57, "socket_bga1392"),
    (58, "socket_bga1510"),
    (59, "socket_bga1528"),
    (60, "socket_lga4189"),
    (61, "socket_lga1200"),
    (62, "socket_lga4677"),
    (63, "socket_lga1700"),
    (64, "socket_bga1744"),
    (65, "socket_bga1781"),
    (66, "socket_bga1211"),
    (67, "socket_bga2422"),
    (68, "socket_lga5773"),
    (69, "socket_bga5773"),
    (70, "socket_am5"),
    (71, "socket_sp5"),
    (72, "socket_sp6"),
    (73, "socket_bga883"),
    (74, "socket_bga1190"),
    (75, "socket_bga4129"),
    (76, "socket_lga4710"),
    (77, "socket_lga7529"),
    (78, "socket_bga1964"),
    (79, "socket_bga1792"),
    (80, "socket_bga2049"),
    (81, "socket_bga2551"),
    (82, "socket_lga1851"),
    (83, "socket_bga2114"),
    (84, "socket_bga2833")]

/-!
## Properties of several classes
-/

/-- `_int_list`. -/
def intList : Option Value -> Option (List Int)
  | none => none
  | some value =>
      if isBlank value then some []
      else
        some ((repeated value).filterMap fun item => optionalInt (some item))

/-- `_decode_list`. -/
def decodeList (table : Table) (values : Option (List Int)) :
    Option (List String) :=
  values.map fun values => values.map (decode table)

/-- `_operational_status`. -/
def operationalStatus (container : Instance) :
    Option (List Int) × Option (List String) :=
  let statuses := intList (container.lookup "OperationalStatus")
  (statuses, decodeList operationalStatusTable statuses)

/-- `_enabled_state`. -/
def enabledState (container : Instance) : Option Int × Option String :=
  let state := optionalInt (container.lookup "EnabledState")
  (state, state.map (decode enabledStateTable))

/-!
## Types
-/

structure ChassisInfo where
  serialNumber : Option String
  model : Option String
  manufacturer : Option String
  version : Option String
  tag : Option String
  elementName : Option String
  chassisPackageType : Option Int
  chassisPackageTypeText : Option String
  packageType : Option Int
  packageTypeText : Option String
  operationalStatus : Option (List Int)
  operationalStatusText : Option (List String)
deriving DecidableEq, Repr

/-- `ChassisInfo.from_instance`. -/
def ChassisInfo.fromInstance (container : Instance) : ChassisInfo :=
  let chassisPackageType :=
    optionalInt (container.lookup "ChassisPackageType")
  let packageType := optionalInt (container.lookup "PackageType")
  let (statuses, statusesText) := Hardware.operationalStatus container
  { serialNumber := optionalStr (container.lookup "SerialNumber")
    model := optionalStr (container.lookup "Model")
    manufacturer := optionalStr (container.lookup "Manufacturer")
    version := optionalStr (container.lookup "Version")
    tag := optionalStr (container.lookup "Tag")
    elementName := optionalStr (container.lookup "ElementName")
    chassisPackageType := chassisPackageType
    chassisPackageTypeText :=
      chassisPackageType.map (decode chassisPackageTypeTable)
    packageType := packageType
    packageTypeText := packageType.map (decode packageTypeTable)
    operationalStatus := statuses
    operationalStatusText := statusesText }

structure BaseboardInfo where
  serialNumber : Option String
  model : Option String
  manufacturer : Option String
  version : Option String
  tag : Option String
  elementName : Option String
  canBeFrued : Option Bool
  packageType : Option Int
  packageTypeText : Option String
  operationalStatus : Option (List Int)
  operationalStatusText : Option (List String)
deriving DecidableEq, Repr

/-- `BaseboardInfo.from_instance`. -/
def BaseboardInfo.fromInstance (container : Instance) : BaseboardInfo :=
  let packageType := optionalInt (container.lookup "PackageType")
  let (statuses, statusesText) := Hardware.operationalStatus container
  { serialNumber := optionalStr (container.lookup "SerialNumber")
    model := optionalStr (container.lookup "Model")
    manufacturer := optionalStr (container.lookup "Manufacturer")
    version := optionalStr (container.lookup "Version")
    tag := optionalStr (container.lookup "Tag")
    elementName := optionalStr (container.lookup "ElementName")
    canBeFrued := optionalBool (container.lookup "CanBeFRUed")
    packageType := packageType
    packageTypeText := packageType.map (decode packageTypeTable)
    operationalStatus := statuses
    operationalStatusText := statusesText }

structure ProcessorInfo where
  deviceId : Option String
  elementName : Option String
  role : Option String
  family : Option Int
  otherFamilyDescription : Option String
  maxClockSpeedMhz : Option Int
  currentClockSpeedMhz : Option Int
  externalBusClockSpeedMhz : Option Int
  stepping : Option String
  cpuStatus : Option Int
  cpuStatusText : Option String
  upgradeMethod : Option Int
  upgradeMethodText : Option String
  healthState : Option Int
  healthStateText : Option String
  enabledState : Option Int
  enabledStateText : Option String
  requestedState : Option Int
  operationalStatus : Option (List Int)
  operationalStatusText : Option (List String)
deriving DecidableEq, Repr

/-- `ProcessorInfo.from_instance`. -/
def ProcessorInfo.fromInstance (container : Instance) : ProcessorInfo :=
  let cpuStatus := optionalInt (container.lookup "CPUStatus")
  let upgradeMethod := optionalInt (container.lookup "UpgradeMethod")
  let healthState := optionalInt (container.lookup "HealthState")
  let (state, stateText) := Hardware.enabledState container
  let (statuses, statusesText) := Hardware.operationalStatus container
  { deviceId := optionalStr (container.lookup "DeviceID")
    elementName := optionalStr (container.lookup "ElementName")
    role := optionalStr (container.lookup "Role")
    family := optionalInt (container.lookup "Family")
    otherFamilyDescription :=
      optionalStr (container.lookup "OtherFamilyDescription")
    maxClockSpeedMhz := optionalInt (container.lookup "MaxClockSpeed")
    currentClockSpeedMhz := optionalInt (container.lookup "CurrentClockSpeed")
    externalBusClockSpeedMhz :=
      optionalInt (container.lookup "ExternalBusClockSpeed")
    stepping := optionalStr (container.lookup "Stepping")
    cpuStatus := cpuStatus
    cpuStatusText := cpuStatus.map (decode cpuStatusTable)
    upgradeMethod := upgradeMethod
    upgradeMethodText := upgradeMethod.map (decode upgradeMethodTable)
    healthState := healthState
    healthStateText := healthState.map (decode healthStateTable)
    enabledState := state
    enabledStateText := stateText
    requestedState := optionalInt (container.lookup "RequestedState")
    operationalStatus := statuses
    operationalStatusText := statusesText }

structure ChipInfo where
  version : Option String
  tag : Option String
  elementName : Option String
  manufacturer : Option String
  canBeFrued : Option Bool
  operationalStatus : Option (List Int)
  operationalStatusText : Option (List String)
deriving DecidableEq, Repr

/-- `ChipInfo.from_instance`. -/
def ChipInfo.fromInstance (container : Instance) : ChipInfo :=
  let (statuses, statusesText) := Hardware.operationalStatus container
  { version := optionalStr (container.lookup "Version")
    tag := optionalStr (container.lookup "Tag")
    elementName := optionalStr (container.lookup "ElementName")
    manufacturer := optionalStr (container.lookup "Manufacturer")
    canBeFrued := optionalBool (container.lookup "CanBeFRUed")
    operationalStatus := statuses
    operationalStatusText := statusesText }

structure MemoryInfo where
  bankLabel : Option String
  capacityBytes : Option Int
  memoryType : Option Int
  memoryTypeText : Option String
  formFactor : Option Int
  speedNs : Option Int
  maxMemorySpeedMhz : Option Int
  configuredClockSpeedMhz : Option Int
  isSpeedInMhz : Option Bool
  manufacturer : Option String
  partNumber : Option String
  serialNumber : Option String
  tag : Option String
  elementName : Option String
  operationalStatus : Option (List Int)
  operationalStatusText : Option (List String)
deriving DecidableEq, Repr

/-- `MemoryInfo.from_instance`. -/
def MemoryInfo.fromInstance (container : Instance) : MemoryInfo :=
  let memoryType := optionalInt (container.lookup "MemoryType")
  let (statuses, statusesText) := Hardware.operationalStatus container
  { bankLabel := optionalStr (container.lookup "BankLabel")
    capacityBytes := optionalInt (container.lookup "Capacity")
    memoryType := memoryType
    memoryTypeText := memoryType.map (decode memoryTypeTable)
    formFactor := optionalInt (container.lookup "FormFactor")
    speedNs := optionalInt (container.lookup "Speed")
    maxMemorySpeedMhz := optionalInt (container.lookup "MaxMemorySpeed")
    configuredClockSpeedMhz :=
      optionalInt (container.lookup "ConfiguredMemoryClockSpeed")
    isSpeedInMhz := optionalBool (container.lookup "IsSpeedInMhz")
    manufacturer := optionalStr (container.lookup "Manufacturer")
    partNumber := optionalStr (container.lookup "PartNumber")
    serialNumber := optionalStr (container.lookup "SerialNumber")
    tag := optionalStr (container.lookup "Tag")
    elementName := optionalStr (container.lookup "ElementName")
    operationalStatus := statuses
    operationalStatusText := statusesText }

structure StorageInfo where
  deviceId : Option String
  elementName : Option String
  maxMediaSizeKb : Option Int
  capabilities : Option (List Int)
  capabilitiesText : Option (List String)
  security : Option Int
  securityText : Option String
  enabledState : Option Int
  enabledStateText : Option String
  enabledDefault : Option Int
  enabledDefaultText : Option String
  requestedState : Option Int
  operationalStatus : Option (List Int)
  operationalStatusText : Option (List String)
deriving DecidableEq, Repr

/-- `StorageInfo.from_instance`. -/
def StorageInfo.fromInstance (container : Instance) : StorageInfo :=
  let capabilities := intList (container.lookup "Capabilities")
  let security := optionalInt (container.lookup "Security")
  let enabledDefault := optionalInt (container.lookup "EnabledDefault")
  let (state, stateText) := Hardware.enabledState container
  let (statuses, statusesText) := Hardware.operationalStatus container
  { deviceId := optionalStr (container.lookup "DeviceID")
    elementName := optionalStr (container.lookup "ElementName")
    maxMediaSizeKb := optionalInt (container.lookup "MaxMediaSize")
    capabilities := capabilities
    capabilitiesText := decodeList mediaCapabilitiesTable capabilities
    security := security
    securityText := security.map (decode mediaSecurityTable)
    enabledState := state
    enabledStateText := stateText
    enabledDefault := enabledDefault
    enabledDefaultText := enabledDefault.map (decode mediaEnabledDefaultTable)
    requestedState := optionalInt (container.lookup "RequestedState")
    operationalStatus := statuses
    operationalStatusText := statusesText }

/-!
## The census
-/

/-- `PROPERTY_SHAPES` -/
inductive PropertyShape where
  | absent
  | empty
  | text
  | nested
  | repeated
deriving DecidableEq, Repr

/-- `_shape_of`. -/
def shapeOf : Value -> PropertyShape
  | Value.members _ => PropertyShape.nested
  | Value.list _ => PropertyShape.repeated
  | Value.text s =>
      if strip s = "" then PropertyShape.empty else PropertyShape.text

/-- `_CIM_PROPERTY_NAME_RE`, whose end may stand before a last newline. -/
def isPropertyName (name : String) : Bool :=
  let chars := name.toList
  let body := if chars.getLast? = some '\n' then chars.dropLast else chars
  match body with
  | [] => false
  | first :: rest =>
      first.isAlpha && rest.length ≤ 63 &&
        rest.all fun c => c.isAlpha || c.isDigit || c = '_'

def readPropertiesByClass : InventoryClass -> List String
  | InventoryClass.chassis =>
      ["SerialNumber", "Model", "Manufacturer", "Version", "Tag",
        "ElementName", "ChassisPackageType", "PackageType",
        "OperationalStatus"]
  | InventoryClass.card =>
      ["SerialNumber", "Model", "Manufacturer", "Version", "Tag",
        "ElementName", "CanBeFRUed", "PackageType", "OperationalStatus"]
  | _ => []

/-- `property_shapes`. -/
def propertyShapes (resourceClass : InventoryClass) (container : Instance) :
    List (String × PropertyShape) × Nat :=
  let names :=
    (readPropertiesByClass resourceClass ++ container.map Prod.fst).dedup
  let shown := (names.filter isPropertyName).insertionSort (· ≤ ·)
  (shown.map fun name =>
      (name, ((container.lookup name).map shapeOf).getD PropertyShape.absent),
    (names.filter fun name => !isPropertyName name).length)

/-!
## Reads
-/

inductive ReadOutcome where
  | read
  | empty
  | absent
deriving DecidableEq, Repr

inductive Verb where
  | get
  | enumerate
deriving DecidableEq, Repr

structure ClassRead where
  factGroup : FactGroup
  outcome : ReadOutcome
  verb : Option Verb := none
  instances : Option Nat := none
  errorClass : Option ErrorClass := none
  propertyShapes : Option (List (String × PropertyShape)) := none
  propertyNamesDropped : Nat := 0
deriving DecidableEq, Repr

structure HardwareFacts where
  chassis : Option ChassisInfo := none
  baseboard : Option BaseboardInfo := none
  processors : Option (List ProcessorInfo) := none
  chips : Option (List ChipInfo) := none
  memory : Option (List MemoryInfo) := none
  storage : Option (List StorageInfo) := none
  requested : Finset FactGroup := ∅
  reads : List (InventoryClass × ClassRead) := []
deriving DecidableEq

end Hardware
end IntelAmt
