import IntelAmt.Foundation.Dict
import IntelAmt.Wsman.Client

/-!
# One-time boot

`boot.py`: the plan of a target, the discovery in front of it, the edit of the
boot settings and the five steps that arm the next boot.
-/

namespace IntelAmt
namespace AmtBoot

open Foundation Wsman

inductive BootTarget where
  | pxe
  | hdd
  | cd
  | bios
  | iderFloppy
  | iderCdrom
deriving DecidableEq, Repr

def BootTarget.name : BootTarget -> String
  | pxe => "pxe"
  | hdd => "hdd"
  | cd => "cd"
  | bios => "bios"
  | iderFloppy => "ider_floppy"
  | iderCdrom => "ider_cdrom"

def bootTargets : List BootTarget :=
  [BootTarget.pxe, BootTarget.hdd, BootTarget.cd, BootTarget.bios,
    BootTarget.iderFloppy, BootTarget.iderCdrom]

def bootConfigInstanceId : String := "Intel(r) AMT: Boot Configuration 0"

def bootConfigRoleNextSingleUse : Int := 1

def bootSourceInstanceId : BootTarget -> Option String
  | BootTarget.pxe => some "Intel(r) AMT: Force PXE Boot"
  | BootTarget.hdd => some "Intel(r) AMT: Force Hard-drive Boot"
  | BootTarget.cd => some "Intel(r) AMT: Force CD/DVD Boot"
  | _ => none

/-- `_CAPABILITY_FIELD_BY_TARGET` -/
def capabilityField : BootTarget -> String
  | BootTarget.pxe => "ForcePXEBoot"
  | BootTarget.hdd => "ForceHardDriveBoot"
  | BootTarget.cd => "ForceCDorDVDBoot"
  | BootTarget.bios => "BIOSSetup"
  | BootTarget.iderFloppy => "IDER"
  | BootTarget.iderCdrom => "IDER"

def deleteBeforePutFields : List String :=
  ["WinREBootEnabled", "UEFILocalPBABootEnabled", "UEFIHTTPSBootEnabled",
    "SecureBootControlEnabled", "BootguardStatus", "OptionsCleared",
    "BIOSLastStatus", "UefiBootParametersArray"]

def zeroIfPresentFields : List String := ["UefiBootNumberOfParams"]

def optionalEraseFields : List String := ["SecureErase", "PlatformErase"]

/-- `_truthy` of a value that may be absent. -/
def truthy : Option Value -> Bool
  | none => false
  | some (Value.text s) =>
      let text := String.ofList (Tls.lower (Tls.strip s.toList))
      text = "true" || text = "1"
  | some (Value.members entries) => !entries.isEmpty
  | some (Value.list items) => !items.isEmpty

/-!
## Plans
-/

def invalidState (operation message : String) : AmtError where
  errorClass := ErrorClass.invalidState
  message := message
  operation := some operation

def unsupported (operation message : String) : AmtError where
  errorClass := ErrorClass.unsupportedCapability
  message := message
  operation := some operation

/-- A row of `_TARGET_SPECS`. -/
structure TargetSpec where
  bootSourceInstanceId : Option String
  useIder : Bool
  iderBootDevice : Int
  biosSetup : Bool

def targetSpec : BootTarget -> TargetSpec
  | BootTarget.bios => ⟨none, false, 0, true⟩
  | BootTarget.iderFloppy => ⟨none, true, 0, false⟩
  | BootTarget.iderCdrom => ⟨none, true, 1, false⟩
  | target => ⟨bootSourceInstanceId target, false, 0, false⟩

/-- A plan never names a boot source beside IDE-R. -/
structure BootPlan where
  target : BootTarget
  bootSourceInstanceId : Option String
  useIder : Bool
  iderBootDevice : Int
  biosSetup : Bool
  exclusive : ¬ (useIder = true ∧ bootSourceInstanceId.isSome = true)

def exclusiveMessage (instanceId : String) : String :=
  "IDE-R boot and a native boot source are mutually exclusive: naming " ++
    reprText instanceId ++ " in step 5's ChangeBootOrder would override " ++
    "IDE-R redirection (protocol-notes.md s2.5). Select only one."

/-- `BootPlan.__post_init__`. -/
def BootPlan.create (target : BootTarget) (spec : TargetSpec) :
    Except AmtError BootPlan :=
  if h : spec.useIder = true ∧ spec.bootSourceInstanceId.isSome = true then
    Except.error
      (invalidState "build_boot_plan"
        (exclusiveMessage (spec.bootSourceInstanceId.getD "")))
  else
    Except.ok
      { target := target
        bootSourceInstanceId := spec.bootSourceInstanceId
        useIder := spec.useIder
        iderBootDevice := spec.iderBootDevice
        biosSetup := spec.biosSetup
        exclusive := h }

def buildBootPlan (target : String) : Except Failure BootPlan :=
  match bootTargets.find? fun known => known.name = target with
  | none => Except.error (Failure.other OtherError.value)
  | some known => (BootPlan.create known (targetSpec known)).mapError Failure.amt

/-!
## Discovery
-/

/-- `.get` of an instance, which a bare text does not have. -/
def getMember (name : String) : Value -> Except OtherError (Option Value)
  | Value.members entries => Except.ok (entries.lookup name)
  | _ => Except.error OtherError.attribute

def isText (text : String) : Option Value -> Bool
  | some (Value.text s) => s = text
  | _ => false

/-- The sources of this name among the enumerated ones. -/
def matchingSources (expected : String) :
    List Value -> Except OtherError (List Value)
  | [] => Except.ok []
  | source :: rest => do
      let instanceId ← getMember "InstanceID" source
      let found ← matchingSources expected rest
      pure (if isText expected instanceId then source :: found else found)

def onlyCapabilities (instances : List Value) : Except AmtError Value :=
  match instances with
  | [capabilities] => Except.ok capabilities
  | _ =>
      Except.error
        (unsupported "discover_boot_capabilities"
          ("expected exactly one AMT_BootCapabilities instance, found " ++
            toString instances.length))

def requireCapability (target : BootTarget) (capability : Option Value) :
    Except AmtError Unit :=
  if truthy capability then Except.ok ()
  else
    Except.error
      (unsupported "discover_boot_capabilities"
        ("firmware does not advertise " ++ capabilityField target ++
          "=true in AMT_BootCapabilities for device=" ++
          reprText target.name))

def requireOneSource (target : BootTarget) (expected : String)
    (found : List Value) : Except AmtError Unit :=
  if found.length = 1 then Except.ok ()
  else
    Except.error
      (unsupported "discover_boot_source"
        ("expected exactly one CIM_BootSourceSetting with InstanceID=" ++
          reprText expected ++ " for device=" ++ reprText target.name ++
          ", found " ++ toString found.length))

section Arming

variable (client : Client) (pulls : Nat)

def discoverCapability (target : BootTarget) : WsmanScript Unit := do
  let instances ← enumerate client pulls "AMT_BootCapabilities"
  let capabilities ← ofAmt (onlyCapabilities instances)
  let capability ← ofOther (getMember (capabilityField target) capabilities)
  ofAmt (requireCapability target capability)

def discoverSource (target : BootTarget) : WsmanScript Unit :=
  match bootSourceInstanceId target with
  | none => pure ()
  | some expected => do
      let sources ← enumerate client pulls "CIM_BootSourceSetting"
      let found ← ofOther (matchingSources expected sources)
      ofAmt (requireOneSource target expected found)

def discoverAndValidate (target : BootTarget) : WsmanScript Unit := do
  discoverCapability client pulls target
  discoverSource client pulls target

/-!
## The edit of the boot settings
-/

abbrev Properties := List (String × Scalar)

def hasKey {alpha : Type} (name : String) (entries : List (String × alpha)) :
    Bool :=
  entries.any fun entry => entry.1 = name

/-- `pop(name, None)`. -/
def popField (properties : Properties) (name : String) : Properties :=
  properties.filter fun entry => entry.1 ≠ name

def setField (properties : Properties) (field : String × Scalar) :
    Properties :=
  assign field.1 field.2 properties

def zeroIfPresent (properties : Properties) (name : String) : Properties :=
  if hasKey name properties then
    setField properties (name, Scalar.int 0)
  else properties

/-- An erase field that was read is set to false. -/
def eraseIfRead (read : Instance) (properties : Properties) (name : String) :
    Properties :=
  if hasKey name read then setField properties (name, Scalar.bool false)
  else properties

def fixedFields (plan : BootPlan) : List (String × Scalar) :=
  [("ConfigurationDataReset", Scalar.bool false),
    ("BIOSPause", Scalar.bool false),
    ("EnforceSecureBoot", Scalar.bool false),
    ("BIOSSetup", Scalar.bool plan.biosSetup),
    ("BootMediaIndex", Scalar.int 0),
    ("FirmwareVerbosity", Scalar.int 0),
    ("ForcedProgressEvents", Scalar.bool false),
    ("IDERBootDevice", Scalar.int plan.iderBootDevice),
    ("LockKeyboard", Scalar.bool false),
    ("LockPowerButton", Scalar.bool false),
    ("LockResetButton", Scalar.bool false),
    ("LockSleepButton", Scalar.bool false),
    ("ReflashBIOS", Scalar.bool false),
    ("UseIDER", Scalar.bool plan.useIder),
    ("UseSOL", Scalar.bool plan.useIder),
    ("UseSafeMode", Scalar.bool false),
    ("UserPasswordBypass", Scalar.bool false)]

/-- `_build_put_properties`. -/
def buildPutProperties (read : Instance) (plan : BootPlan) : Properties :=
  let mutated : Properties :=
    read.map fun entry => (entry.1, Scalar.parsed entry.2)
  let mutated := deleteBeforePutFields.foldl popField mutated
  let mutated := zeroIfPresentFields.foldl zeroIfPresent mutated
  let mutated := (fixedFields plan).foldl setField mutated
  optionalEraseFields.foldl (eraseIfRead read) mutated

/-!
## The five steps
-/

structure BootArmResult where
  plan : BootPlan
  previous : Instance
  putProperties : Properties
  observed : Instance
  bootConfigSelector : List (String × String)
  bootSourceSelector : Option (List (String × String))
  mutated : Bool

def noTokenMessage : String :=
  "arming a one-time boot requires a truthy action_token; this is a " ++
    "one-shot, high-consequence operation and this module never arms it " ++
    "implicitly and never re-arms automatically after an uncertain reset or " ++
    "a later re-probe. Supply a fresh action_token for every attempt."

def bootConfigSelector : List (String × String) :=
  [("InstanceID", bootConfigInstanceId)]

def bootSourceSelector (plan : BootPlan) : Option (List (String × String)) :=
  plan.bootSourceInstanceId.map fun instanceId => [("InstanceID", instanceId)]

/-- The `Source` of the last step. -/
def sourceParam (plan : BootPlan) : Param :=
  match bootSourceSelector plan with
  | none => Param.none
  | some selectors =>
      Param.reference
        { resourceClass := "CIM_BootSourceSetting", selectors := selectors }

def changeBootOrder (source : Param) : WsmanScript Instance :=
  invoke client "CIM_BootConfigSetting" "ChangeBootOrder"
    [("Source", source)] bootConfigSelector

def putBootSettings (properties : Properties) : WsmanScript Instance :=
  put client "AMT_BootSettingData"
    (properties.map fun entry => (entry.1, Param.scalar entry.2))

def setBootConfigRole : WsmanScript Instance :=
  invoke client "CIM_BootService" "SetBootConfigRole"
    [("BootConfigSetting",
        Param.reference
          { resourceClass := "CIM_BootConfigSetting"
            selectors := bootConfigSelector }),
      ("Role", Param.scalar (Scalar.int bootConfigRoleNextSingleUse))]

/-- The steps from the second to the last one, in their order. -/
def armSteps (plan : BootPlan) (properties : Properties) :
    WsmanScript Unit := do
  let _ ← changeBootOrder client Param.none
  let _ ← putBootSettings client properties
  let _ ← setBootConfigRole client
  let _ ← changeBootOrder client (sourceParam plan)
  pure ()

def armed (plan : BootPlan) (previous observed : Instance) (mutated : Bool) :
    BootArmResult where
  plan := plan
  previous := previous
  putProperties := buildPutProperties previous plan
  observed := observed
  bootConfigSelector := bootConfigSelector
  bootSourceSelector := bootSourceSelector plan
  mutated := mutated

/-- The reads in front of the first change. -/
def readSettings (plan : BootPlan) : WsmanScript Instance := do
  discoverAndValidate client pulls plan.target
  get client "AMT_BootSettingData"

/-- The arming, and the read-back behind it. -/
def armAndObserve (plan : BootPlan) (previous : Instance) :
    WsmanScript BootArmResult := do
  armSteps client plan (buildPutProperties previous plan)
  let observed ← get client "AMT_BootSettingData"
  pure (armed plan previous observed true)

def ofFailure {alpha : Type} : Except Failure alpha -> WsmanScript alpha
  | Except.ok a => Script.returned a
  | Except.error e => Script.raised e

def requireToken (actionToken : Option String) : Except AmtError Unit :=
  if (actionToken.filter fun token => token ≠ "").isSome then Except.ok ()
  else Except.error (invalidState "arm_one_time_boot" noTokenMessage)

def armOneTimeBoot (target : String) (actionToken : Option String)
    (checkMode : Bool) : WsmanScript BootArmResult := do
  ofAmt (requireToken actionToken)
  let plan ← ofFailure (buildBootPlan target)
  let previous ← readSettings client pulls plan
  if checkMode then pure (armed plan previous previous false)
  else armAndObserve client plan previous

/-- `main`. -/
def main (target : String) (actionToken : Option String)
    (checkMode : Bool) : WsmanScript (ModuleEnd BootArmResult) :=
  caught (armOneTimeBoot client pulls target actionToken checkMode)

end Arming
end AmtBoot
end IntelAmt
