import IntelAmt.AmtInfo.Facts

/-!
# Facts that degrade independently

Each fact is what a script of its own would read: it shows the answers of the
classes that it comes from and of no others.
-/

namespace IntelAmt
namespace AmtInfo

open Foundation Wsman Models Hardware

/-!
## Endpoints
-/

/-- An endpoint that answers each read with what it has, or with a failure
that is tolerated. -/
structure Endpoint where
  answer : (o : FactsRead) -> FactsAnswer o
  getDegrades : forall resourceClass selectors error,
    answer (FactsRead.get resourceClass selectors) = Except.error error ->
      AmtLogClear.degradable error = true
  enumerateDegrades : forall resourceClass error,
    answer (FactsRead.enumerate resourceClass) = Except.error error ->
      AmtLogClear.degradable error = true

/-- What comes of a script at an endpoint. -/
def Endpoint.run {alpha : Type} (endpoint : Endpoint)
    (x : FactsScript alpha) : Except Failure alpha :=
  Script.answered endpoint.answer x

/-- The script returns at every endpoint. -/
def Gathers {alpha : Type} (x : FactsScript alpha) : Prop :=
  forall endpoint : Endpoint, exists a, endpoint.run x = Except.ok a

section Gathering

variable {alpha beta : Type}

theorem gathers_pure (a : alpha) : Gathers (pure a) :=
  fun _ => ⟨a, rfl⟩

theorem gathers_bind {x : FactsScript alpha} {f : alpha -> FactsScript beta}
    (hx : Gathers x) (hf : forall a, Gathers (f a)) : Gathers (x >>= f) := by
  intro endpoint
  rcases hx endpoint with ⟨a, ha⟩
  rcases hf a endpoint with ⟨b, hb⟩
  refine ⟨b, ?_⟩
  rw [Endpoint.run, Script.answered_bind_ok ha]
  exact hb

theorem tolerated_degradable {result : Except AmtError alpha}
    (h : forall error, result = Except.error error ->
      AmtLogClear.degradable error = true) :
    tolerated result = Script.returned result := by
  cases result with
  | ok a => rfl
  | error error => exact if_pos (h error rfl)

theorem run_get (endpoint : Endpoint) (resourceClass : String)
    (selectors : List (String × String)) :
    endpoint.run (Script.ask (FactsRead.get resourceClass selectors) >>=
        tolerated) =
      Except.ok (endpoint.answer
        (FactsRead.get resourceClass selectors)) := by
  rw [Endpoint.run, Script.ask_bind, Script.answered,
    tolerated_degradable (endpoint.getDegrades resourceClass selectors)]
  rfl

theorem run_enumerate (endpoint : Endpoint) (resourceClass : String) :
    endpoint.run (Script.ask (FactsRead.enumerate resourceClass) >>=
        tolerated) =
      Except.ok (endpoint.answer (FactsRead.enumerate resourceClass)) := by
  rw [Endpoint.run, Script.ask_bind, Script.answered,
    tolerated_degradable (endpoint.enumerateDegrades resourceClass)]
  rfl

theorem gathers_get (resourceClass : String)
    (selectors : List (String × String))
    (f : Except AmtError Instance -> FactsScript alpha)
    (hf : forall result, Gathers (f result)) :
    Gathers (do
      let answer ← Script.ask (FactsRead.get resourceClass selectors)
      let result ← tolerated answer
      f result) := by
  rw [← Script.bind_assoc]
  exact gathers_bind (fun endpoint => ⟨_, run_get endpoint _ _⟩) hf

theorem gathers_enumerate (resourceClass : String)
    (f : Except AmtError (List Value) -> FactsScript alpha)
    (hf : forall result, Gathers (f result)) :
    Gathers (do
      let answer ← Script.ask (FactsRead.enumerate resourceClass)
      let result ← tolerated answer
      f result) := by
  rw [← Script.bind_assoc]
  exact gathers_bind (fun endpoint => ⟨_, run_enumerate endpoint _⟩) hf

theorem getOptional_gathers (resourceClass : String)
    (selectors : List (String × String)) :
    Gathers (getOptional resourceClass selectors) :=
  gathers_get _ _ _ fun _ => gathers_pure _

theorem enumerateOptional_gathers (resourceClass : String) :
    Gathers (enumerateOptional resourceClass) :=
  gathers_enumerate _ _ fun _ => gathers_pure _

theorem getBiosVersion_gathers : Gathers getBiosVersion := by
  apply gathers_bind (getOptional_gathers _ _)
  intro container
  cases biosVersionOf (container.getD []) with
  | some version => exact gathers_pure _
  | none =>
      exact gathers_bind (enumerateOptional_gathers _) fun _ =>
        gathers_pure _

theorem readSingle_gathers (resourceClass : InventoryClass) :
    Gathers (readSingle resourceClass) := by
  apply gathers_bind (gathers_get _ _ _ fun _ => gathers_pure _)
  intro got
  dsimp only
  cases nonempty got.1 with
  | some container => exact gathers_pure _
  | none =>
      exact gathers_bind (gathers_enumerate _ _ fun _ => gathers_pure _)
        fun _ => gathers_pure _

theorem readMany_gathers (factory : Instance -> alpha)
    (resourceClass : InventoryClass) :
    Gathers (readMany factory resourceClass) := by
  apply gathers_bind (gathers_enumerate _ _ fun _ => gathers_pure _)
  intro found
  dsimp only
  cases found.2 with
  | some _ => exact gathers_pure _
  | none => exact gathers_pure _

theorem gathers_if {wanted : Prop} [Decidable wanted]
    {x y : FactsScript alpha} (hx : Gathers x) (hy : Gathers y) :
    Gathers (if wanted then x else y) := by
  split
  · exact hx
  · exact hy

theorem readSystem_gathers : Gathers readSystem :=
  gathers_bind (readSingle_gathers _) fun _ =>
    gathers_bind (readSingle_gathers _) fun _ => gathers_pure _

theorem readProcessor_gathers : Gathers readProcessor :=
  gathers_bind (readMany_gathers _ _) fun _ =>
    gathers_bind (readMany_gathers _ _) fun _ => gathers_pure _

theorem readIf_gathers (wanted : Bool) {read : FactsScript alpha}
    (hread : Gathers read) : Gathers (readIf wanted read) :=
  gathers_if (gathers_bind hread fun _ => gathers_pure _) (gathers_pure _)

theorem getHardwareFacts_gathers (subsets : Finset Subset) :
    Gathers (getHardwareFacts subsets) := by
  apply gathers_if (gathers_pure _)
  apply gathers_bind (readIf_gathers _ readSystem_gathers)
  intro system
  apply gathers_bind (readIf_gathers _ readProcessor_gathers)
  intro processor
  apply gathers_bind (readIf_gathers _ (readMany_gathers _ _))
  intro memory
  apply gathers_bind (readIf_gathers _ (readMany_gathers _ _))
  exact fun _ => gathers_pure _

theorem getFacts_gathers (subsets : Finset Subset) :
    Gathers (getFacts subsets) := by
  apply gathers_bind (getOptional_gathers _ _)
  intro general
  apply gathers_bind (getOptional_gathers _ _)
  intro setup
  apply gathers_bind (getOptional_gathers _ _)
  intro powerAssoc
  apply gathers_bind (getOptional_gathers _ _)
  intro bootCaps
  apply gathers_bind (getOptional_gathers _ _)
  intro redirection
  apply gathers_bind
    (gathers_bind (enumerateOptional_gathers _) fun _ => gathers_pure _)
  intro version
  apply gathers_bind
    (gathers_bind (getOptional_gathers _ _) fun _ => gathers_pure _)
  intro uuid
  apply gathers_bind
    (gathers_bind (getOptional_gathers _ _) fun _ => gathers_pure _)
  intro network
  apply gathers_bind
    (gathers_bind (getOptional_gathers _ _) fun _ => gathers_pure _)
  intro systemState
  apply gathers_bind getBiosVersion_gathers
  intro biosVersion
  apply gathers_bind (getHardwareFacts_gathers subsets)
  exact fun _ => gathers_pure _

end Gathering

/-!
## Facts
-/

/-- A fact of the inventory. -/
inductive InventoryFact where
  | requested
  | chassis
  | baseboard
  | processors
  | chips
  | memory
  | storage
  | read (resourceClass : InventoryClass)

@[reducible] def InventoryFact.Value : InventoryFact -> Type
  | requested => Finset FactGroup
  | chassis => Option ChassisInfo
  | baseboard => Option BaseboardInfo
  | processors => Option (List ProcessorInfo)
  | chips => Option (List ChipInfo)
  | memory => Option (List MemoryInfo)
  | storage => Option (List StorageInfo)
  | read _ => Option ClassRead

def InventoryFact.of : (fact : InventoryFact) -> HardwareFacts -> fact.Value
  | requested, facts => facts.requested
  | chassis, facts => facts.chassis
  | baseboard, facts => facts.baseboard
  | processors, facts => facts.processors
  | chips, facts => facts.chips
  | memory, facts => facts.memory
  | storage, facts => facts.storage
  | read resourceClass, facts => facts.reads.lookup resourceClass

/-- The class that a fact of the inventory comes from. -/
def InventoryFact.source : InventoryFact -> Option InventoryClass
  | requested => none
  | chassis => some InventoryClass.chassis
  | baseboard => some InventoryClass.card
  | processors => some InventoryClass.processor
  | chips => some InventoryClass.chip
  | memory => some InventoryClass.physicalMemory
  | storage => some InventoryClass.mediaAccessDevice
  | read resourceClass => some resourceClass

/-- A fact on its own. -/
inductive Fact where
  | version
  | uuid
  | controlMode
  | provisioningState
  | powerState
  | reportedHostname
  | powerCapability
  | bootOncePxe
  | sol
  | storageRedirection
  | redirection
  | reportedDomainName
  | idleWakeTimeout
  | pingResponseEnabled
  | rmcpPingResponseEnabled
  | networkInterfaceEnabled
  | ddnsUpdateEnabled
  | network
  | systemState
  | biosVersion
  | inventory (fact : InventoryFact)

@[reducible] def Fact.Value : Fact -> Type
  | version => Option String
  | uuid => Option String
  | controlMode => Option Wsman.Value
  | provisioningState => Option Wsman.Value
  | powerState => Option PowerState
  | reportedHostname => Option Wsman.Value
  | powerCapability => Bool
  | bootOncePxe => Bool
  | sol => Bool
  | storageRedirection => Bool
  | redirection => Option RedirectionState
  | reportedDomainName => Option String
  | idleWakeTimeout => Option Int
  | pingResponseEnabled => Option Bool
  | rmcpPingResponseEnabled => Option Bool
  | networkInterfaceEnabled => Option Bool
  | ddnsUpdateEnabled => Option Bool
  | network => Option EthernetSettings
  | systemState => Option SystemState
  | biosVersion => Option String
  | inventory fact => Option fact.Value

def Fact.of : (fact : Fact) -> AmtFacts -> fact.Value
  | version, facts => facts.version
  | uuid, facts => facts.uuid
  | controlMode, facts => facts.controlMode
  | provisioningState, facts => facts.provisioningState
  | powerState, facts => facts.powerState
  | reportedHostname, facts => facts.reportedHostname
  | powerCapability, facts => facts.capabilities.power
  | bootOncePxe, facts => facts.capabilities.bootOncePxe
  | sol, facts => facts.capabilities.sol
  | storageRedirection, facts => facts.capabilities.storageRedirection
  | redirection, facts => facts.redirection
  | reportedDomainName, facts => facts.reportedDomainName
  | idleWakeTimeout, facts => facts.idleWakeTimeout
  | pingResponseEnabled, facts => facts.pingResponseEnabled
  | rmcpPingResponseEnabled, facts => facts.rmcpPingResponseEnabled
  | networkInterfaceEnabled, facts => facts.networkInterfaceEnabled
  | ddnsUpdateEnabled, facts => facts.ddnsUpdateEnabled
  | network, facts => facts.network
  | systemState, facts => facts.systemState
  | biosVersion, facts => facts.biosVersion
  | inventory fact, facts => facts.hardware.map fact.of

/-- The class that a fact comes from. -/
def Fact.source : Fact -> Option String
  | version => some "CIM_SoftwareIdentity"
  | uuid => some "CIM_ComputerSystemPackage"
  | controlMode => some "AMT_SetupAndConfigurationService"
  | provisioningState => some "AMT_SetupAndConfigurationService"
  | powerState => some "CIM_AssociatedPowerManagementService"
  | powerCapability => some "CIM_AssociatedPowerManagementService"
  | bootOncePxe => some "AMT_BootCapabilities"
  | sol => some "AMT_BootCapabilities"
  | storageRedirection => some "AMT_BootCapabilities"
  | redirection => some "AMT_RedirectionService"
  | network => some "AMT_EthernetPortSettings"
  | systemState => some "CIM_ComputerSystem"
  | biosVersion => some "CIM_BIOSElement"
  | reportedHostname => some "AMT_GeneralSettings"
  | reportedDomainName => some "AMT_GeneralSettings"
  | idleWakeTimeout => some "AMT_GeneralSettings"
  | pingResponseEnabled => some "AMT_GeneralSettings"
  | rmcpPingResponseEnabled => some "AMT_GeneralSettings"
  | networkInterfaceEnabled => some "AMT_GeneralSettings"
  | ddnsUpdateEnabled => some "AMT_GeneralSettings"
  | inventory fact => fact.source.map InventoryClass.name

/-!
## The script of a fact
-/

/-- What is made of what a script reads. -/
def shown {alpha beta : Type} (x : FactsScript alpha) (f : alpha -> beta) :
    FactsScript beta := do
  let a ← x
  pure (f a)

/-- A read for a fact of the inventory, if its subset is asked for. -/
def inventoryRead {alpha : Type} (subsets : Finset Subset) (wanted : Subset)
    (missing : alpha) (x : FactsScript alpha) : FactsScript (Option alpha) :=
  if requestedFactGroups subsets = ∅ then pure none
  else if wanted ∈ subsets then shown x some
  else pure (some missing)

/-- How a class was read. -/
def readOutcome : InventoryClass -> FactsScript (Option ClassRead)
  | InventoryClass.chassis =>
      shown (readSingle InventoryClass.chassis) fun found => some found.2
  | InventoryClass.card =>
      shown (readSingle InventoryClass.card) fun found => some found.2
  | InventoryClass.processor =>
      shown (readMany ProcessorInfo.fromInstance InventoryClass.processor)
        fun found => some found.2
  | InventoryClass.chip =>
      shown (readMany ChipInfo.fromInstance InventoryClass.chip)
        fun found => some found.2
  | InventoryClass.physicalMemory =>
      shown readMemory fun found => some found.2
  | InventoryClass.mediaAccessDevice =>
      shown readStorage fun found => some found.2

/-- The subset that a class belongs to. -/
def subsetOf : InventoryClass -> Subset
  | InventoryClass.chassis => Subset.system
  | InventoryClass.card => Subset.system
  | InventoryClass.processor => Subset.processor
  | InventoryClass.chip => Subset.processor
  | InventoryClass.physicalMemory => Subset.memory
  | InventoryClass.mediaAccessDevice => Subset.storage

/-- What reads a fact of the inventory and nothing else. -/
def InventoryFact.script (subsets : Finset Subset) :
    (fact : InventoryFact) -> FactsScript (Option fact.Value)
  | requested =>
      if requestedFactGroups subsets = ∅ then pure none
      else pure (some (requestedFactGroups subsets))
  | chassis =>
      inventoryRead subsets Subset.system none
        (shown (readSingle InventoryClass.chassis) fun found =>
          (nonempty found.1).map ChassisInfo.fromInstance)
  | baseboard =>
      inventoryRead subsets Subset.system none
        (shown (readSingle InventoryClass.card) fun found =>
          (nonempty found.1).map BaseboardInfo.fromInstance)
  | processors =>
      inventoryRead subsets Subset.processor none
        (shown (readMany ProcessorInfo.fromInstance InventoryClass.processor)
          Prod.fst)
  | chips =>
      inventoryRead subsets Subset.processor none
        (shown (readMany ChipInfo.fromInstance InventoryClass.chip) Prod.fst)
  | memory =>
      inventoryRead subsets Subset.memory none (shown readMemory Prod.fst)
  | storage =>
      inventoryRead subsets Subset.storage none (shown readStorage Prod.fst)
  | read resourceClass =>
      inventoryRead subsets (subsetOf resourceClass) none
        (readOutcome resourceClass)

def generalSetting {alpha : Type} (f : Option Value -> alpha)
    (name : String) : FactsScript alpha :=
  shown (getOptional "AMT_GeneralSettings") fun general =>
    f ((general.getD []).lookup name)

/-- What reads a fact and nothing else. -/
def Fact.script (subsets : Finset Subset) :
    (fact : Fact) -> FactsScript fact.Value
  | version => getAmtVersion
  | uuid => getSystemUuid
  | controlMode =>
      shown (getOptional "AMT_SetupAndConfigurationService") fun setup =>
        (setup.getD []).lookup "ProvisioningMode"
  | provisioningState =>
      shown (getOptional "AMT_SetupAndConfigurationService") fun setup =>
        (setup.getD []).lookup "ProvisioningState"
  | powerState =>
      shown (getOptional "CIM_AssociatedPowerManagementService")
        powerStateOf
  | powerCapability =>
      shown (getOptional "CIM_AssociatedPowerManagementService")
        fun powerAssoc => (powerStateOf powerAssoc).isSome
  | bootOncePxe =>
      shown (getOptional "AMT_BootCapabilities") fun bootCaps =>
        bootCapability bootCaps "ForcePXEBoot"
  | sol =>
      shown (getOptional "AMT_BootCapabilities") fun bootCaps =>
        bootCapability bootCaps "SOL"
  | storageRedirection =>
      shown (getOptional "AMT_BootCapabilities") fun bootCaps =>
        bootCapability bootCaps "IDER"
  | redirection =>
      shown (getOptional "AMT_RedirectionService") redirectionOf
  | network => getEthernetSettings
  | systemState => getSystemState
  | biosVersion => getBiosVersion
  | reportedHostname => generalSetting id "HostName"
  | reportedDomainName => generalSetting optionalStr "DomainName"
  | idleWakeTimeout => generalSetting optionalInt "IdleWakeTimeout"
  | pingResponseEnabled => generalSetting optionalBool "PingResponseEnabled"
  | rmcpPingResponseEnabled =>
      generalSetting optionalBool "RmcpPingResponseEnabled"
  | networkInterfaceEnabled =>
      generalSetting optionalBool "NetworkInterfaceEnabled"
  | ddnsUpdateEnabled => generalSetting optionalBool "DDNSUpdateEnabled"
  | inventory fact => fact.script subsets

/-!
## What a fact shows
-/

section Shown

variable {alpha : Type} {endpoint : Endpoint} {subsets : Finset Subset}

theorem run_shown {beta : Type} {x : FactsScript alpha} {a : alpha}
    (h : endpoint.run x = Except.ok a) (f : alpha -> beta) :
    endpoint.run (shown x f) = Except.ok (f a) :=
  Script.answered_bind_ok h

theorem readIf_split {wanted : Bool} {read : FactsScript alpha}
    {found : Option alpha}
    (h : endpoint.run (readIf wanted read) = Except.ok found) :
    (wanted = true ∧ exists a, endpoint.run read = Except.ok a ∧
        found = some a) ∨
      (wanted = false ∧ found = none) := by
  cases wanted with
  | true =>
      rcases Script.answered_bind_split h with ⟨a, hread, hfound⟩
      cases hfound
      exact Or.inl ⟨rfl, a, hread, rfl⟩
  | false =>
      cases h
      exact Or.inr ⟨rfl, rfl⟩

theorem run_inventoryRead {beta : Type} {wanted : Subset} {missing : beta}
    {x : FactsScript beta} {read : FactsScript alpha} {found : Option alpha}
    {f : alpha -> beta} (hgroups : requestedFactGroups subsets ≠ ∅)
    (h : endpoint.run (readIf (wanted ∈ subsets) read) = Except.ok found)
    (hx : forall a, endpoint.run read = Except.ok a ->
      endpoint.run x = Except.ok (f a)) :
    endpoint.run (inventoryRead subsets wanted missing x) =
      Except.ok (some (found.elim missing f)) := by
  rw [inventoryRead, if_neg hgroups]
  rcases readIf_split h with ⟨hwanted, a, hread, hfound⟩ | ⟨hwanted, hfound⟩
  · rw [if_pos (of_decide_eq_true hwanted), hfound]
    exact run_shown (hx a hread) some
  · rw [if_neg (of_decide_eq_false hwanted), hfound]
    rfl

theorem readSystem_split {found : SingleRead × SingleRead}
    (h : endpoint.run readSystem = Except.ok found) :
    endpoint.run (readSingle InventoryClass.chassis) = Except.ok found.1 ∧
      endpoint.run (readSingle InventoryClass.card) =
        Except.ok found.2 := by
  rcases Script.answered_bind_split h with ⟨chassis, hchassis, h⟩
  rcases Script.answered_bind_split h with ⟨card, hcard, h⟩
  cases h
  exact ⟨hchassis, hcard⟩

theorem readProcessor_split
    {found : ManyRead ProcessorInfo × ManyRead ChipInfo}
    (h : endpoint.run readProcessor = Except.ok found) :
    endpoint.run
          (readMany ProcessorInfo.fromInstance InventoryClass.processor) =
        Except.ok found.1 ∧
      endpoint.run (readMany ChipInfo.fromInstance InventoryClass.chip) =
        Except.ok found.2 := by
  rcases Script.answered_bind_split h with ⟨processors, hprocessors, h⟩
  rcases Script.answered_bind_split h with ⟨chips, hchips, h⟩
  cases h
  exact ⟨hprocessors, hchips⟩

theorem classReads_lookup {system : Option (SingleRead × SingleRead)}
    {processor : Option (ManyRead ProcessorInfo × ManyRead ChipInfo)}
    {memory : Option (ManyRead MemoryInfo)}
    {storage : Option (ManyRead StorageInfo)}
    (resourceClass : InventoryClass) :
    (classReads system processor memory storage).lookup resourceClass =
      match resourceClass with
      | InventoryClass.chassis => system.map fun found => found.1.2
      | InventoryClass.card => system.map fun found => found.2.2
      | InventoryClass.processor => processor.map fun found => found.1.2
      | InventoryClass.chip => processor.map fun found => found.2.2
      | InventoryClass.physicalMemory => memory.map Prod.snd
      | InventoryClass.mediaAccessDevice => storage.map Prod.snd := by
  cases system <;> cases processor <;> cases memory <;> cases storage <;>
    cases resourceClass <;> rfl

theorem classRead_shown {system : Option (SingleRead × SingleRead)}
    {processor : Option (ManyRead ProcessorInfo × ManyRead ChipInfo)}
    {memory : Option (ManyRead MemoryInfo)}
    {storage : Option (ManyRead StorageInfo)}
    (hgroups : requestedFactGroups subsets ≠ ∅)
    (hsystem : endpoint.run (readIf (Subset.system ∈ subsets) readSystem) =
      Except.ok system)
    (hprocessor :
      endpoint.run (readIf (Subset.processor ∈ subsets) readProcessor) =
        Except.ok processor)
    (hmemory : endpoint.run (readIf (Subset.memory ∈ subsets) readMemory) =
      Except.ok memory)
    (hstorage :
      endpoint.run (readIf (Subset.storage ∈ subsets) readStorage) =
        Except.ok storage)
    (resourceClass : InventoryClass) :
    endpoint.run ((InventoryFact.read resourceClass).script subsets) =
      Except.ok (some ((classReads system processor memory storage).lookup
        resourceClass)) := by
  rw [classReads_lookup, InventoryFact.script]
  cases resourceClass with
  | chassis =>
      apply (run_inventoryRead hgroups hsystem fun _ hread =>
        run_shown (readSystem_split hread).1 _).trans
      cases system <;> rfl
  | card =>
      apply (run_inventoryRead hgroups hsystem fun _ hread =>
        run_shown (readSystem_split hread).2 _).trans
      cases system <;> rfl
  | processor =>
      apply (run_inventoryRead hgroups hprocessor fun _ hread =>
        run_shown (readProcessor_split hread).1 _).trans
      cases processor <;> rfl
  | chip =>
      apply (run_inventoryRead hgroups hprocessor fun _ hread =>
        run_shown (readProcessor_split hread).2 _).trans
      cases processor <;> rfl
  | physicalMemory =>
      apply (run_inventoryRead hgroups hmemory fun _ hread =>
        run_shown hread _).trans
      cases memory <;> rfl
  | mediaAccessDevice =>
      apply (run_inventoryRead hgroups hstorage fun _ hread =>
        run_shown hread _).trans
      cases storage <;> rfl

theorem hardware_shown {hardware : Option HardwareFacts}
    (h : endpoint.run (getHardwareFacts subsets) = Except.ok hardware)
    (fact : InventoryFact) :
    endpoint.run (fact.script subsets) =
      Except.ok (hardware.map fact.of) := by
  by_cases hgroups : requestedFactGroups subsets = ∅
  · rw [getHardwareFacts, if_pos hgroups] at h
    cases h
    cases fact <;>
      simp only [InventoryFact.script, inventoryRead, if_pos hgroups] <;> rfl
  · rw [getHardwareFacts, if_neg hgroups] at h
    rcases Script.answered_bind_split h with ⟨system, hsystem, h⟩
    rcases Script.answered_bind_split h with ⟨processor, hprocessor, h⟩
    rcases Script.answered_bind_split h with ⟨memory, hmemory, h⟩
    rcases Script.answered_bind_split h with ⟨storage, hstorage, h⟩
    cases h
    cases fact with
    | requested =>
        rw [InventoryFact.script, if_neg hgroups]
        rfl
    | chassis =>
        rw [InventoryFact.script, run_inventoryRead hgroups hsystem
          fun _ hread => run_shown (readSystem_split hread).1 _]
        cases system <;> rfl
    | baseboard =>
        rw [InventoryFact.script, run_inventoryRead hgroups hsystem
          fun _ hread => run_shown (readSystem_split hread).2 _]
        cases system <;> rfl
    | processors =>
        rw [InventoryFact.script, run_inventoryRead hgroups hprocessor
          fun _ hread => run_shown (readProcessor_split hread).1 _]
        cases processor <;> rfl
    | chips =>
        rw [InventoryFact.script, run_inventoryRead hgroups hprocessor
          fun _ hread => run_shown (readProcessor_split hread).2 _]
        cases processor <;> rfl
    | memory =>
        rw [InventoryFact.script, run_inventoryRead hgroups hmemory
          fun _ hread => run_shown hread _]
        cases memory <;> rfl
    | storage =>
        rw [InventoryFact.script, run_inventoryRead hgroups hstorage
          fun _ hread => run_shown hread _]
        cases storage <;> rfl
    | read resourceClass =>
        exact classRead_shown hgroups hsystem hprocessor hmemory hstorage
          resourceClass

/-- Each fact is what its own script reads. -/
theorem facts_shown {facts : AmtFacts}
    (h : endpoint.run (getFacts subsets) = Except.ok facts) (fact : Fact) :
    endpoint.run (fact.script subsets) = Except.ok (fact.of facts) := by
  rcases Script.answered_bind_split h with ⟨general, hgeneral, h⟩
  rcases Script.answered_bind_split h with ⟨setup, hsetup, h⟩
  rcases Script.answered_bind_split h with ⟨powerAssoc, hpower, h⟩
  rcases Script.answered_bind_split h with ⟨bootCaps, hboot, h⟩
  rcases Script.answered_bind_split h with ⟨redirection, hredirection, h⟩
  rcases Script.answered_bind_split h with ⟨version, hversion, h⟩
  rcases Script.answered_bind_split h with ⟨uuid, huuid, h⟩
  rcases Script.answered_bind_split h with ⟨network, hnetwork, h⟩
  rcases Script.answered_bind_split h with ⟨systemState, hsystem, h⟩
  rcases Script.answered_bind_split h with ⟨biosVersion, hbios, h⟩
  rcases Script.answered_bind_split h with ⟨hardware, hhardware, h⟩
  cases h
  cases fact with
  | version => exact hversion
  | uuid => exact huuid
  | network => exact hnetwork
  | systemState => exact hsystem
  | biosVersion => exact hbios
  | inventory fact => exact hardware_shown hhardware fact
  | controlMode => exact run_shown hsetup _
  | provisioningState => exact run_shown hsetup _
  | powerState => exact run_shown hpower _
  | powerCapability => exact run_shown hpower _
  | bootOncePxe => exact run_shown hboot _
  | sol => exact run_shown hboot _
  | storageRedirection => exact run_shown hboot _
  | redirection => exact run_shown hredirection _
  | _ => exact run_shown hgeneral _

end Shown

/-!
## What a fact asks for
-/

section Asked

variable {alpha beta : Type} {subsets : Finset Subset}

/-- The script reads a class and no other. -/
def ReadsOnly (resourceClass : String) (x : FactsScript alpha) : Prop :=
  Script.Uses (fun o => o.resourceClass = resourceClass) x

theorem uses_tolerated {allowed : FactsRead -> Prop}
    (result : Except AmtError alpha) :
    Script.Uses allowed (tolerated result) := by
  cases result with
  | ok a => trivial
  | error error =>
      rw [tolerated]
      split <;> trivial

theorem readsOnly_pure (resourceClass : String) (a : alpha) :
    ReadsOnly resourceClass (pure a) :=
  trivial

theorem readsOnly_bind {resourceClass : String} {x : FactsScript alpha}
    {f : alpha -> FactsScript beta} (hx : ReadsOnly resourceClass x)
    (hf : forall a, ReadsOnly resourceClass (f a)) :
    ReadsOnly resourceClass (x >>= f) :=
  Script.uses_bind hx hf

theorem readsOnly_get (resourceClass : String)
    (selectors : List (String × String))
    {f : Except AmtError Instance -> FactsScript alpha}
    (hf : forall result, ReadsOnly resourceClass (f result)) :
    ReadsOnly resourceClass (do
      let answer ← Script.ask (FactsRead.get resourceClass selectors)
      let result ← tolerated answer
      f result) := by
  have hask : ReadsOnly resourceClass
      (Script.ask (FactsRead.get resourceClass selectors)) :=
    Script.uses_ask rfl
  apply readsOnly_bind hask
  exact fun answer => readsOnly_bind (uses_tolerated answer) hf

theorem readsOnly_enumerate (resourceClass : String)
    {f : Except AmtError (List Value) -> FactsScript alpha}
    (hf : forall result, ReadsOnly resourceClass (f result)) :
    ReadsOnly resourceClass (do
      let answer ← Script.ask (FactsRead.enumerate resourceClass)
      let result ← tolerated answer
      f result) := by
  have hask : ReadsOnly resourceClass
      (Script.ask (FactsRead.enumerate resourceClass)) :=
    Script.uses_ask rfl
  apply readsOnly_bind hask
  exact fun answer => readsOnly_bind (uses_tolerated answer) hf

theorem getOptional_readsOnly (resourceClass : String)
    (selectors : List (String × String)) :
    ReadsOnly resourceClass (getOptional resourceClass selectors) :=
  readsOnly_get _ _ fun _ => readsOnly_pure _ _

theorem enumerateOptional_readsOnly (resourceClass : String) :
    ReadsOnly resourceClass (enumerateOptional resourceClass) :=
  readsOnly_enumerate _ fun _ => readsOnly_pure _ _

theorem readsOnly_shown {resourceClass : String} {x : FactsScript alpha}
    (h : ReadsOnly resourceClass x) (f : alpha -> beta) :
    ReadsOnly resourceClass (shown x f) :=
  readsOnly_bind h fun _ => readsOnly_pure _ _

theorem getBiosVersion_readsOnly :
    ReadsOnly "CIM_BIOSElement" getBiosVersion := by
  apply readsOnly_bind (getOptional_readsOnly _ _)
  intro container
  cases biosVersionOf (container.getD []) with
  | some version => exact readsOnly_pure _ _
  | none =>
      exact readsOnly_bind (enumerateOptional_readsOnly _) fun _ => readsOnly_pure _ _

theorem readSingle_readsOnly (resourceClass : InventoryClass) :
    ReadsOnly resourceClass.name (readSingle resourceClass) := by
  apply readsOnly_bind (readsOnly_get _ _ fun _ => readsOnly_pure _ _)
  intro got
  dsimp only
  cases nonempty got.1 with
  | some container => exact readsOnly_pure _ _
  | none =>
      exact readsOnly_bind (readsOnly_enumerate _ fun _ => readsOnly_pure _ _)
        fun _ => readsOnly_pure _ _

theorem readMany_readsOnly (factory : Instance -> alpha)
    (resourceClass : InventoryClass) :
    ReadsOnly resourceClass.name (readMany factory resourceClass) := by
  apply readsOnly_bind (readsOnly_enumerate _ fun _ => readsOnly_pure _ _)
  intro found
  dsimp only
  cases found.2 with
  | some _ => exact readsOnly_pure _ _
  | none => exact readsOnly_pure _ _

theorem readOutcome_readsOnly (resourceClass : InventoryClass) :
    ReadsOnly resourceClass.name (readOutcome resourceClass) := by
  cases resourceClass with
  | chassis => exact readsOnly_shown (readSingle_readsOnly _) _
  | card => exact readsOnly_shown (readSingle_readsOnly _) _
  | _ => exact readsOnly_shown (readMany_readsOnly _ _) _

theorem inventoryRead_readsOnly {resourceClass : String} {wanted : Subset}
    {missing : alpha} {x : FactsScript alpha}
    (h : ReadsOnly resourceClass x) :
    ReadsOnly resourceClass (inventoryRead subsets wanted missing x) := by
  rw [inventoryRead]
  split
  · exact readsOnly_pure _ _
  · split
    · exact readsOnly_shown h _
    · exact readsOnly_pure _ _

theorem script_asks (fact : Fact) :
    Script.Uses (fun o => fact.source = some o.resourceClass)
      (fact.script subsets) := by
  have hclass : forall {resourceClass : String},
      fact.source = some resourceClass ->
      ReadsOnly resourceClass (fact.script subsets) ->
      Script.Uses (fun o => fact.source = some o.resourceClass)
        (fact.script subsets) := by
    intro resourceClass hsource hreads
    apply Script.uses_mono hreads
    intro o ho
    rw [hsource, ho]
  cases fact with
  | version =>
      exact hclass rfl (readsOnly_bind (enumerateOptional_readsOnly _)
        fun _ => readsOnly_pure _ _)
  | uuid =>
      exact hclass rfl (readsOnly_bind (getOptional_readsOnly _ _)
        fun _ => readsOnly_pure _ _)
  | network =>
      exact hclass rfl (readsOnly_bind (getOptional_readsOnly _ _)
        fun _ => readsOnly_pure _ _)
  | systemState =>
      exact hclass rfl (readsOnly_bind (getOptional_readsOnly _ _)
        fun _ => readsOnly_pure _ _)
  | biosVersion => exact hclass rfl getBiosVersion_readsOnly
  | inventory fact =>
      cases fact with
      | requested =>
          rw [Fact.script, InventoryFact.script]
          split <;> trivial
      | read resourceClass =>
          exact hclass rfl
            (inventoryRead_readsOnly (readOutcome_readsOnly resourceClass))
      | chassis =>
          exact hclass rfl (inventoryRead_readsOnly
            (readsOnly_shown (readSingle_readsOnly _) _))
      | baseboard =>
          exact hclass rfl (inventoryRead_readsOnly
            (readsOnly_shown (readSingle_readsOnly _) _))
      | _ =>
          exact hclass rfl (inventoryRead_readsOnly
            (readsOnly_shown (readMany_readsOnly _ _) _))
  | _ => exact hclass rfl (readsOnly_shown (getOptional_readsOnly _ _) _)

end Asked

/-- At every endpoint the facts are gathered, and where two endpoints agree
on the answers for some classes, they agree on the facts that come from
these. -/
theorem facts_degrade_independently (subsets : Finset Subset)
    (first second : Endpoint) (classes : String -> Prop)
    (hagree : forall o, classes o.resourceClass ->
      first.answer o = second.answer o) :
    exists facts others,
      first.run (getFacts subsets) = Except.ok facts ∧
        second.run (getFacts subsets) = Except.ok others ∧
        forall fact : Fact,
          (forall resourceClass, fact.source = some resourceClass ->
            classes resourceClass) ->
          fact.of facts = fact.of others := by
  rcases getFacts_gathers subsets first with ⟨facts, hfacts⟩
  rcases getFacts_gathers subsets second with ⟨others, hothers⟩
  refine ⟨facts, others, hfacts, hothers, ?_⟩
  intro fact hsource
  have hsame : first.run (fact.script subsets) =
      second.run (fact.script subsets) := by
    apply Script.answered_congr (script_asks fact)
    intro o ho
    exact hagree o (hsource o.resourceClass ho)
  rw [facts_shown hfacts fact, facts_shown hothers fact] at hsame
  exact Except.ok.inj hsame

def noSuchClass : AmtError where
  errorClass := ErrorClass.unsupportedCapability
  message := "no such class"

/-- An endpoint with a version of its firmware and nothing else. -/
def bareEndpoint (biosVersion : Except AmtError Instance)
    (h : forall error, biosVersion = Except.error error ->
      AmtLogClear.degradable error = true) : Endpoint where
  answer
    | FactsRead.get resourceClass _ =>
        if resourceClass = "CIM_BIOSElement" then biosVersion
        else Except.error noSuchClass
    | FactsRead.enumerate resourceClass =>
        if resourceClass = "CIM_SoftwareIdentity" then
          Except.ok
            [Value.members
              [("InstanceID", Value.text "AMT"),
                ("VersionString", Value.text "16.1.25")]]
        else Except.error noSuchClass
  getDegrades resourceClass selectors error hanswer := by
    dsimp only at hanswer
    split at hanswer
    · exact h error hanswer
    · cases hanswer
      rfl
  enumerateDegrades resourceClass error hanswer := by
    dsimp only at hanswer
    split at hanswer
    · cases hanswer
    · cases hanswer
      rfl

/-- A BIOS that answers with a list where a text is expected costs nothing
but its own version. -/
theorem bios_degrades_alone :
    exists facts others,
      (bareEndpoint (Except.error noSuchClass) fun _ h => by
          cases h
          rfl).run (getFacts validSubsets) = Except.ok facts ∧
        (bareEndpoint
            (Except.ok [("Version", Value.list [Value.text "1.0"])])
            fun _ h => nomatch h).run (getFacts validSubsets) =
          Except.ok others ∧
        forall fact : Fact,
          (forall resourceClass, fact.source = some resourceClass ->
            resourceClass ≠ "CIM_BIOSElement") ->
          fact.of facts = fact.of others := by
  apply facts_degrade_independently validSubsets _ _
    fun resourceClass => resourceClass ≠ "CIM_BIOSElement"
  intro o ho
  cases o with
  | get resourceClass selectors =>
      exact (if_neg ho).trans (if_neg ho).symm
  | enumerate resourceClass => rfl

end AmtInfo
end IntelAmt
