import IntelAmt.AmtInfo.Inventory
import IntelAmt.AmtLogClear.Module
import IntelAmt.Foundation.Hex
import IntelAmt.Foundation.Worlds

/-!
# The facts of an endpoint

`AmtClient.get_facts`: one read after the other, where a class that the
firmware does not have costs the facts that come from it and no others.
-/

namespace IntelAmt
namespace AmtInfo

open Foundation Wsman Models Hardware

/-!
## Reads
-/

/-- A read of a class. -/
inductive FactsRead where
  | get (resourceClass : String) (selectors : List (String × String))
  | enumerate (resourceClass : String)

def FactsRead.resourceClass : FactsRead -> String
  | get resourceClass _ => resourceClass
  | enumerate resourceClass => resourceClass

@[reducible] def FactsAnswer : FactsRead -> Type
  | FactsRead.get _ _ => Except AmtError Instance
  | FactsRead.enumerate _ => Except AmtError (List Value)

abbrev FactsScript (alpha : Type) : Type :=
  Script FactsRead FactsAnswer Failure alpha

/-- `try read except _DEGRADABLE_ERRORS`: these failures are handed on, all
others are raised. -/
def tolerated {alpha : Type} :
    Except AmtError alpha -> FactsScript (Except AmtError alpha)
  | Except.ok a => Script.returned (Except.ok a)
  | Except.error error =>
      if AmtLogClear.degradable error then
        Script.returned (Except.error error)
      else Script.raised (Failure.amt error)

def errorClassOf {alpha : Type} : Except AmtError alpha -> Option ErrorClass
  | Except.ok _ => none
  | Except.error error => some error.errorClass

/-- `_get_with_error_class`. -/
def getWithErrorClass (resourceClass : String) :
    FactsScript (Option Instance × Option ErrorClass) := do
  let answer ← Script.ask (FactsRead.get resourceClass [])
  let result ← tolerated answer
  pure (result.toOption, errorClassOf result)

/-- `_enumerate_with_error_class`. -/
def enumerateWithErrorClass (resourceClass : String) :
    FactsScript (Option (List Value) × Option ErrorClass) := do
  let answer ← Script.ask (FactsRead.enumerate resourceClass)
  let result ← tolerated answer
  pure (result.toOption, errorClassOf result)

/-- `_get_optional`. -/
def getOptional (resourceClass : String)
    (selectors : List (String × String) := []) :
    FactsScript (Option Instance) := do
  let answer ← Script.ask (FactsRead.get resourceClass selectors)
  let result ← tolerated answer
  pure result.toOption

/-- `try enumerate except _DEGRADABLE_ERRORS: return None`. -/
def enumerateOptional (resourceClass : String) :
    FactsScript (Option (List Value)) := do
  let answer ← Script.ask (FactsRead.enumerate resourceClass)
  let result ← tolerated answer
  pure result.toOption

def nonempty (container : Option Instance) : Option Instance :=
  container.filter fun properties => !properties.isEmpty

def instancesOf (items : List Value) : List Instance :=
  items.filterMap fun item =>
    match item with
    | Value.members entries => some entries
    | _ => none

/-!
## Single facts
-/

def ethernetPort0Selector : List (String × String) :=
  [("InstanceID", "Intel(r) AMT Ethernet Port Settings 0")]

def managedSystemSelector : List (String × String) :=
  [("Name", "ManagedSystem")]

/-- `_get_ethernet_settings`. -/
def getEthernetSettings : FactsScript (Option EthernetSettings) := do
  let container ←
    getOptional "AMT_EthernetPortSettings" ethernetPort0Selector
  pure ((nonempty container).map EthernetSettings.fromInstance)

/-- `_get_system_state`. -/
def getSystemState : FactsScript (Option SystemState) := do
  let container ← getOptional "CIM_ComputerSystem" managedSystemSelector
  pure ((nonempty container).map SystemState.fromInstance)

/-- The version of a `CIM_BIOSElement`. -/
def biosVersionOf (container : Instance) : Option String :=
  optionalStr (container.lookup "Version")

/-- `_get_bios_version`. -/
def getBiosVersion : FactsScript (Option String) := do
  let container ← getOptional "CIM_BIOSElement"
  match biosVersionOf (container.getD []) with
  | some version => pure (some version)
  | none => do
      let instances ← enumerateOptional "CIM_BIOSElement"
      pure ((instancesOf (instances.getD [])).findSome? biosVersionOf)

/-- `str(instance.get("InstanceID", "")).strip() == "AMT"`. -/
def isAmtIdentity (container : Instance) : Bool :=
  match container.lookup "InstanceID" with
  | some value => strip value.str = "AMT"
  | none => false

/-- `_get_amt_version`. -/
def getAmtVersion : FactsScript (Option String) := do
  let instances ← enumerateOptional "CIM_SoftwareIdentity"
  pure (((instancesOf (instances.getD [])).find? isAmtIdentity).bind
    fun identity => (identity.lookup "VersionString").map Value.str)

/-- `_canonical_uuid`. -/
def canonicalUuid (value : String) : String :=
  let compact := value.toList.filter fun c => c ≠ '-'
  if compact.length ≠ 32 then value
  else
    match fromHex compact with
    | none => value
    | some raw =>
        if '-' ∈ value.toList then
          String.ofList (value.toList.map Char.toUpper)
        else
          let text :=
            hexOf (slice raw 0 4).reverse ++ "-" ++
              hexOf (slice raw 4 2).reverse ++ "-" ++
                hexOf (slice raw 6 2).reverse ++ "-" ++
                  hexOf (slice raw 8 2) ++ "-" ++ hexOf (slice raw 10 6)
          String.ofList (text.toList.map Char.toUpper)

example : canonicalUuid "ddccbbaaffeef0118899001122334455" =
    "AABBCCDD-EEFF-11F0-8899-001122334455" := by
  decide +kernel

/-- `_get_system_uuid`. -/
def getSystemUuid : FactsScript (Option String) := do
  let package ← getOptional "CIM_ComputerSystemPackage"
  pure (((nonempty package).bind fun properties =>
    properties.lookup "PlatformGUID").bind fun value =>
      ((some (strip value.str)).filter fun text => text ≠ "").map
        canonicalUuid)

/-!
## Inventory
-/

/-- What `_read_single` makes of the answer to a Get. -/
def readByGet (resourceClass : InventoryClass) (container : Instance) :
    Option Instance × ClassRead :=
  let (shapes, dropped) := propertyShapes resourceClass container
  (some container,
    { factGroup := factGroupByClass resourceClass
      outcome := ReadOutcome.read
      verb := some Verb.get
      instances := some 1
      propertyShapes := some shapes
      propertyNamesDropped := dropped })

/-- What `_read_single` makes of the answer to an enumeration. -/
def readByEnumerate (resourceClass : InventoryClass)
    (instances : Option (List Value)) (errorClass : Option ErrorClass) :
    Option Instance × ClassRead :=
  let factGroup := factGroupByClass resourceClass
  match errorClass with
  | some errorClass =>
      (none,
        { factGroup := factGroup
          outcome := ReadOutcome.absent
          verb := some Verb.enumerate
          errorClass := some errorClass })
  | none =>
      match (instancesOf (instances.getD [])).filter
          fun properties => !properties.isEmpty with
      | [] =>
          (none,
            { factGroup := factGroup
              outcome := ReadOutcome.empty
              verb := some Verb.enumerate
              instances := some 0 })
      | first :: rest =>
          let (shapes, dropped) := propertyShapes resourceClass first
          (some first,
            { factGroup := factGroup
              outcome := ReadOutcome.read
              verb := some Verb.enumerate
              instances := some (rest.length + 1)
              propertyShapes := some shapes
              propertyNamesDropped := dropped })

/-- `_read_single`. -/
def readSingle (resourceClass : InventoryClass) :
    FactsScript (Option Instance × ClassRead) := do
  let (container, _) ← getWithErrorClass resourceClass.name
  match nonempty container with
  | some container => pure (readByGet resourceClass container)
  | none => do
      let (instances, errorClass) ←
        enumerateWithErrorClass resourceClass.name
      pure (readByEnumerate resourceClass instances errorClass)

/-- `_read_many`. -/
def readMany {alpha : Type} (factory : Instance -> alpha)
    (resourceClass : InventoryClass) :
    FactsScript (Option (List alpha) × ClassRead) := do
  let factGroup := factGroupByClass resourceClass
  let (instances, errorClass) ← enumerateWithErrorClass resourceClass.name
  match errorClass with
  | some errorClass =>
      pure (none,
        { factGroup := factGroup
          outcome := ReadOutcome.absent
          verb := some Verb.enumerate
          errorClass := some errorClass })
  | none =>
      let records := (instancesOf (instances.getD [])).map factory
      pure (some records,
        { factGroup := factGroup
          outcome :=
            if records.isEmpty then ReadOutcome.empty else ReadOutcome.read
          verb := some Verb.enumerate
          instances := some records.length })

abbrev SingleRead := Option Instance × ClassRead

abbrev ManyRead (alpha : Type) := Option (List alpha) × ClassRead

def readSystem : FactsScript (SingleRead × SingleRead) := do
  let chassis ← readSingle InventoryClass.chassis
  let card ← readSingle InventoryClass.card
  pure (chassis, card)

def readProcessor :
    FactsScript (ManyRead ProcessorInfo × ManyRead ChipInfo) := do
  let processors ←
    readMany ProcessorInfo.fromInstance InventoryClass.processor
  let chips ← readMany ChipInfo.fromInstance InventoryClass.chip
  pure (processors, chips)

def readMemory : FactsScript (ManyRead MemoryInfo) :=
  readMany MemoryInfo.fromInstance InventoryClass.physicalMemory

def readStorage : FactsScript (ManyRead StorageInfo) :=
  readMany StorageInfo.fromInstance InventoryClass.mediaAccessDevice

def readIf {alpha : Type} (wanted : Bool) (read : FactsScript alpha) :
    FactsScript (Option alpha) :=
  if wanted then do
    let found ← read
    pure (some found)
  else pure none

/-- The reads of the subsets, as far as they are asked for, in order. -/
def classReads (system : Option (SingleRead × SingleRead))
    (processor : Option (ManyRead ProcessorInfo × ManyRead ChipInfo))
    (memory : Option (ManyRead MemoryInfo))
    (storage : Option (ManyRead StorageInfo)) :
    List (InventoryClass × ClassRead) :=
  (system.elim [] fun found =>
      [(InventoryClass.chassis, found.1.2),
        (InventoryClass.card, found.2.2)]) ++
    (processor.elim [] fun found =>
      [(InventoryClass.processor, found.1.2),
        (InventoryClass.chip, found.2.2)]) ++
    (memory.elim [] fun found =>
      [(InventoryClass.physicalMemory, found.2)]) ++
    storage.elim [] fun found =>
      [(InventoryClass.mediaAccessDevice, found.2)]

/-- `_get_hardware_facts`. -/
def getHardwareFacts (subsets : Finset Subset) :
    FactsScript (Option HardwareFacts) := do
  let groups := requestedFactGroups subsets
  if groups = ∅ then pure none
  else do
    let system ← readIf (Subset.system ∈ subsets) readSystem
    let processor ← readIf (Subset.processor ∈ subsets) readProcessor
    let memory ← readIf (Subset.memory ∈ subsets) readMemory
    let storage ← readIf (Subset.storage ∈ subsets) readStorage
    pure (some
      { chassis := system.bind fun found =>
          (nonempty found.1.1).map ChassisInfo.fromInstance
        baseboard := system.bind fun found =>
          (nonempty found.2.1).map BaseboardInfo.fromInstance
        processors := processor.bind fun found => found.1.1
        chips := processor.bind fun found => found.2.1
        memory := memory.bind Prod.fst
        storage := storage.bind Prod.fst
        requested := groups
        reads := classReads system processor memory storage })

/-!
## All facts
-/

structure AmtFacts where
  version : Option String
  uuid : Option String
  controlMode : Option Value
  provisioningState : Option Value
  powerState : Option PowerState
  reportedHostname : Option Value
  capabilities : AmtCapabilities
  redirection : Option RedirectionState
  reportedDomainName : Option String
  idleWakeTimeout : Option Int
  pingResponseEnabled : Option Bool
  rmcpPingResponseEnabled : Option Bool
  networkInterfaceEnabled : Option Bool
  ddnsUpdateEnabled : Option Bool
  network : Option EthernetSettings
  systemState : Option SystemState
  biosVersion : Option String
  hardware : Option HardwareFacts

def powerStateOf (powerAssoc : Option Instance) : Option PowerState :=
  ((nonempty powerAssoc).bind fun properties =>
    properties.lookup "PowerState").map fun value =>
      PowerState.fromCimValue (some value)

/-- A flag of the boot capabilities. -/
def bootCapability (bootCaps : Option Instance) (name : String) : Bool :=
  match nonempty bootCaps with
  | some properties => truthy (properties.lookup name)
  | none => false

def redirectionOf (redirection : Option Instance) : Option RedirectionState :=
  redirection.map fun properties =>
    RedirectionState.fromEnabledState (properties.lookup "EnabledState")
      (truthy (properties.lookup "ListenerEnabled"))

/-- `get_facts`. -/
def getFacts (subsets : Finset Subset) : FactsScript AmtFacts := do
  let general ← getOptional "AMT_GeneralSettings"
  let setup ← getOptional "AMT_SetupAndConfigurationService"
  let powerAssoc ← getOptional "CIM_AssociatedPowerManagementService"
  let bootCaps ← getOptional "AMT_BootCapabilities"
  let redirection ← getOptional "AMT_RedirectionService"
  let powerState := powerStateOf powerAssoc
  let version ← getAmtVersion
  let generalSettings := general.getD []
  let uuid ← getSystemUuid
  let network ← getEthernetSettings
  let systemState ← getSystemState
  let biosVersion ← getBiosVersion
  let hardware ← getHardwareFacts subsets
  pure
    { version := version
      uuid := uuid
      controlMode := (setup.getD []).lookup "ProvisioningMode"
      provisioningState := (setup.getD []).lookup "ProvisioningState"
      powerState := powerState
      reportedHostname := generalSettings.lookup "HostName"
      capabilities :=
        { power := powerState.isSome
          bootOncePxe := bootCapability bootCaps "ForcePXEBoot"
          sol := bootCapability bootCaps "SOL"
          storageRedirection := bootCapability bootCaps "IDER" }
      redirection := redirectionOf redirection
      reportedDomainName := optionalStr (generalSettings.lookup "DomainName")
      idleWakeTimeout :=
        optionalInt (generalSettings.lookup "IdleWakeTimeout")
      pingResponseEnabled :=
        optionalBool (generalSettings.lookup "PingResponseEnabled")
      rmcpPingResponseEnabled :=
        optionalBool (generalSettings.lookup "RmcpPingResponseEnabled")
      networkInterfaceEnabled :=
        optionalBool (generalSettings.lookup "NetworkInterfaceEnabled")
      ddnsUpdateEnabled :=
        optionalBool (generalSettings.lookup "DDNSUpdateEnabled")
      network := network
      systemState := systemState
      biosVersion := biosVersion
      hardware := hardware }

end AmtInfo
end IntelAmt
