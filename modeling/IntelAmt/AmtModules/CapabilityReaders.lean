import IntelAmt.AmtInfo.Independence
import IntelAmt.AmtModules.Discovery
import IntelAmt.Foundation.Text
import IntelAmt.Wsman.WriteBack

/-!
# The readers of one capability

`models.truthy` reads the flags that the facts report, `_truthy` those that a
target is accepted for and that the redirection service reports.
-/

namespace IntelAmt
namespace AmtModules

open Foundation Wsman AmtBoot AmtInfo

/-!
## Two readings of a value
-/

/-- A text that only one of the readers takes for true. -/
def ReadsYes : Option Value -> Prop
  | some (Value.text s) => Models.lowered s = "yes"
  | _ => False

/-- What both readers read the same. -/
def ReadAlike (value : Option Value) : Prop :=
  ¬ Compound value ∧ ¬ ReadsYes value

theorem strip_cons {c : Char} (hspace : Tls.isSpace c = false)
    (rest : List Char) :
    exists later, Tls.strip (c :: rest) = c :: later :=
  dropEnds_cons hspace rest

theorem lowered_bracket {c : Char} (hc : c = '[' ∨ c = '\x7b')
    {text : String} {rest : List Char} (htext : text.toList = c :: rest) :
    Models.lowered text ∉ ["true", "1", "yes"] := by
  have hspace : Tls.isSpace c = false := by
    rcases hc with rfl | rfl <;> decide
  have hlower : Tls.lower [c] = [c] := by
    rcases hc with rfl | rfl <;> decide
  rcases strip_cons hspace rest with ⟨later, hstrip⟩
  have hlowered : (Models.lowered text).toList = c :: Tls.lower later := by
    rw [Models.lowered, String.toList_ofList, htext, hstrip]
    change Tls.lower ([c] ++ later) = _
    rw [Tls.lower, List.flatMap_append]
    exact congrArg (· ++ Tls.lower later) hlower
  intro hmem
  have hhead : c ∈ ['t', '1', 'y'] := by
    have hwords : forall word, word ∈ ["true", "1", "yes"] ->
        word.toList.head? ∈ [some 't', some '1', some 'y'] := by
      decide
    have hword := hwords _ hmem
    rw [hlowered] at hword
    simpa using hword
  rcases hc with rfl | rfl
  · revert hhead
    decide
  · revert hhead
    decide

theorem models_truthy_compound {value : Value} {c : Char}
    (hc : c = '[' ∨ c = '\x7b') (htext : value.str.toList.head? = some c) :
    Models.truthy (some value) = false := by
  rcases List.head?_eq_some_iff.mp htext with ⟨rest, hrest⟩
  exact decide_eq_false (lowered_bracket hc hrest)

/-- The readers agree on a value exactly if it is not repeated, has no child
elements and does not read `yes`. -/
theorem readers_agree_iff (value : Option Value) :
    Models.truthy value = AmtBoot.truthy value ↔ ReadAlike value := by
  cases value with
  | none => exact iff_of_true rfl ⟨id, id⟩
  | some value =>
      cases value with
      | text s =>
          have hboot : AmtBoot.truthy (some (Value.text s)) =
              (decide (Models.lowered s = "true") ||
                decide (Models.lowered s = "1")) := rfl
          rw [Models.truthy, Value.str, hboot]
          simp only [ReadAlike, Compound, ReadsYes, not_false_eq_true,
            true_and]
          by_cases hyes : Models.lowered s = "yes"
          · simp [hyes]
          · simp [hyes]
      | members entries =>
          rw [models_truthy_compound (Or.inr rfl)
            (by simp [Value.str, Value.repr])]
          simp [AmtBoot.truthy, ReadAlike, Compound, ReadsYes]
      | list items =>
          rw [models_truthy_compound (Or.inl rfl)
            (by simp [Value.str, Value.repr])]
          simp [AmtBoot.truthy, ReadAlike, Compound, ReadsYes]

/-!
## The three paths
-/

/-- The dictionary of an instance, as a Get returns it. -/
def dictionaryOf : Value -> Instance
  | Value.members entries => entries
  | _ => []

theorem singleInstance_eq (tag : String) (element : Element) :
    singleInstance { tag := tag, children := [element] } =
      dictionaryOf (elementToValue element) := by
  rw [singleInstance]
  dsimp only
  cases elementToValue element with
  | text s => rfl
  | members entries => rfl
  | list items => rfl

theorem bootCapability_eq (entries : Instance) (name : String) :
    bootCapability (some entries) name =
      Models.truthy (entries.lookup name) := by
  cases entries with
  | nil => rfl
  | cons entry rest => rfl

/-- The run has accepted. -/
def accepts {alpha : Type} : Except Failure alpha -> Bool
  | Except.ok _ => true
  | Except.error _ => false

/-- The source that a target names is there exactly once. -/
structure SourceFound (target : BootTarget) (sources : List Value) : Prop where
  dictionaries : forall source, source ∈ sources -> IsDictionary source
  one : forall expected, bootSourceInstanceId target = some expected ->
    (sources.filter (isSource expected)).length = 1

section Paths

variable {client : Client} {pulls start second : Nat} {target : BootTarget}
variable {answers : Nat -> (o : WsmanOp) -> WsmanAnswer o}
variable {capability : Value} {sources : List Value}

theorem discover_accepts {last : Nat}
    (hcapabilities : Script.play answers start
      (enumerate client pulls "AMT_BootCapabilities") =
        (Except.ok [capability], second))
    (hsources : bootSourceInstanceId target ≠ none ->
      Script.play answers second
        (enumerate client pulls "CIM_BootSourceSetting") =
          (Except.ok sources, last))
    (hfound : SourceFound target sources) :
    accepts (Script.play answers start
        (discoverAndValidate client pulls target)).1 =
      AmtBoot.truthy
        ((dictionaryOf capability).lookup (capabilityField target)) := by
  rw [play_discover hcapabilities]
  cases capability with
  | text s => rfl
  | list items => rfl
  | members entries =>
      change accepts (Script.play answers second
        (ofAmt (requireCapability target
            (entries.lookup (capabilityField target))) >>=
          fun _ => discoverSource client pulls target)).1 = AmtBoot.truthy
            (entries.lookup (capabilityField target))
      rw [requireCapability]
      cases AmtBoot.truthy (entries.lookup (capabilityField target)) with
      | false => rfl
      | true =>
          change accepts (Script.play answers second
            (discoverSource client pulls target)).1 = true
          rw [discoverSource]
          cases hexpected : bootSourceInstanceId target with
          | none => rfl
          | some expected =>
              rw [hexpected] at hsources
              dsimp only
              rw [Script.play_bind_ok
                (hsources (Option.some_ne_none expected))]
              rcases matchingSources_cases expected sources with
                ⟨_, hmatching⟩ | ⟨⟨source, hmem, hbare⟩, _⟩
              · rw [hmatching]
                change accepts (Script.play answers last
                  (ofAmt (requireOneSource target expected _))).1 = true
                rw [requireOneSource, if_pos (hfound.one expected hexpected)]
                rfl
              · exact absurd (hfound.dictionaries source hmem) hbare

theorem discover_accepts_sourceless
    (hcapabilities : Script.play answers start
      (enumerate client pulls "AMT_BootCapabilities") =
        (Except.ok [capability], second))
    (hnone : bootSourceInstanceId target = none) :
    accepts (Script.play answers start
        (discoverAndValidate client pulls target)).1 =
      AmtBoot.truthy
        ((dictionaryOf capability).lookup (capabilityField target)) := by
  apply @discover_accepts client pulls start second target answers _ [] second
    hcapabilities fun hsome => absurd hnone hsome
  constructor
  · intro source hsource
    cases hsource
  · intro expected hsome
    rw [hnone] at hsome
    cases hsome

theorem report_eq_ok_iff (ider sol : Bool)
    (hcapabilities : Script.play answers start
      (enumerate client pulls "AMT_BootCapabilities") =
        (Except.ok [capability], second)) :
    (Script.play answers start
        (AmtRedirection.getCapabilities client pulls)).1 =
          Except.ok { iderSupported := ider, solSupported := sol } ↔
      IsDictionary capability ∧
        ider = AmtBoot.truthy ((dictionaryOf capability).lookup "IDER") ∧
        sol = AmtBoot.truthy ((dictionaryOf capability).lookup "SOL") := by
  rw [AmtRedirection.getCapabilities, Script.play_bind_ok hcapabilities]
  cases capability with
  | text s => exact iff_of_false (fun h => by cases h) fun h => h.1
  | list items => exact iff_of_false (fun h => by cases h) fun h => h.1
  | members entries =>
      constructor
      · intro h
        cases h
        exact ⟨trivial, rfl, rfl⟩
      · rintro ⟨_, rfl, rfl⟩
        rfl

/-- The facts, the targets and the report say the same. -/
structure OneAnswer (flags : Models.AmtCapabilities)
    (accepted : BootTarget -> Bool)
    (report : Except Failure AmtRedirection.RedirectionCapabilities) :
    Prop where
  pxe : flags.bootOncePxe = accepted BootTarget.pxe
  iderFloppy : flags.storageRedirection = accepted BootTarget.iderFloppy
  iderCdrom : flags.storageRedirection = accepted BootTarget.iderCdrom
  reported : report = Except.ok
    { iderSupported := flags.storageRedirection
      solSupported := flags.sol }

/-- An instance that all three read alike. -/
structure ReadsAlike (capability : Value) : Prop where
  dictionary : IsDictionary capability
  properties : forall name, name ∈ ["ForcePXEBoot", "IDER", "SOL"] ->
    ReadAlike ((dictionaryOf capability).lookup name)

variable {endpoint : AmtInfo.Endpoint} {subsets : Finset Hardware.Subset}
variable {facts : AmtFacts} {tag : String} {element : Element}

theorem facts_flags
    (hget : endpoint.answer (FactsRead.get "AMT_BootCapabilities" []) =
      Except.ok (singleInstance { tag := tag, children := [element] }))
    (hfacts : endpoint.run (getFacts subsets) = Except.ok facts) :
    facts.capabilities.bootOncePxe = Models.truthy
        ((dictionaryOf (elementToValue element)).lookup "ForcePXEBoot") ∧
      facts.capabilities.storageRedirection = Models.truthy
        ((dictionaryOf (elementToValue element)).lookup "IDER") ∧
      facts.capabilities.sol = Models.truthy
        ((dictionaryOf (elementToValue element)).lookup "SOL") := by
  have hread : endpoint.run (getOptional "AMT_BootCapabilities") =
      Except.ok (some (dictionaryOf (elementToValue element))) := by
    rw [singleInstance_eq] at hget
    rw [getOptional, ← Script.bind_assoc]
    have hrun := run_get endpoint "AMT_BootCapabilities" []
    rw [hget] at hrun
    exact Script.answered_bind_ok hrun
  have hflag : forall name,
      endpoint.run (shown (getOptional "AMT_BootCapabilities")
        fun bootCaps => bootCapability bootCaps name) =
          Except.ok (Models.truthy
            ((dictionaryOf (elementToValue element)).lookup name)) := by
    intro name
    rw [run_shown hread, bootCapability_eq]
  have hpxe := facts_shown hfacts Fact.bootOncePxe
  have hider := facts_shown hfacts Fact.storageRedirection
  have hsol := facts_shown hfacts Fact.sol
  exact ⟨Except.ok.inj (hpxe.symm.trans (hflag "ForcePXEBoot")),
    Except.ok.inj (hider.symm.trans (hflag "IDER")),
    Except.ok.inj (hsol.symm.trans (hflag "SOL"))⟩

/-- The facts, the acceptance of a target whose source is there and the report
agree exactly on the instances that are read alike. -/
theorem one_answer_iff {last : Nat}
    (hget : endpoint.answer (FactsRead.get "AMT_BootCapabilities" []) =
      Except.ok (singleInstance { tag := tag, children := [element] }))
    (hfacts : endpoint.run (getFacts subsets) = Except.ok facts)
    (hcapabilities : Script.play answers start
      (enumerate client pulls "AMT_BootCapabilities") =
        (Except.ok [elementToValue element], second))
    (hsources : Script.play answers second
      (enumerate client pulls "CIM_BootSourceSetting") =
        (Except.ok sources, last))
    (hfound : SourceFound BootTarget.pxe sources) :
    OneAnswer facts.capabilities
        (fun target => accepts (Script.play answers start
          (discoverAndValidate client pulls target)).1)
        (Script.play answers start
          (AmtRedirection.getCapabilities client pulls)).1 ↔
      ReadsAlike (elementToValue element) := by
  rcases facts_flags hget hfacts with ⟨hpxe, hider, hsol⟩
  have hacceptPxe := discover_accepts hcapabilities (fun _ => hsources) hfound
  have hacceptFloppy := @discover_accepts_sourceless client pulls start second
    BootTarget.iderFloppy answers _ hcapabilities rfl
  have hacceptCdrom := @discover_accepts_sourceless client pulls start second
    BootTarget.iderCdrom answers _ hcapabilities rfl
  constructor
  · intro h
    rcases (report_eq_ok_iff _ _ hcapabilities).mp h.reported with
      ⟨hdictionary, hreportIder, hreportSol⟩
    constructor
    · exact hdictionary
    · intro name hname
      apply (readers_agree_iff _).mp
      rcases hname with _ | ⟨_, _ | ⟨_, _ | ⟨_, hname⟩⟩⟩
      · exact hpxe.symm.trans (h.pxe.trans hacceptPxe)
      · exact hider.symm.trans hreportIder
      · exact hsol.symm.trans hreportSol
      · cases hname
  · intro h
    have hagree : forall name, name ∈ ["ForcePXEBoot", "IDER", "SOL"] ->
        Models.truthy
            ((dictionaryOf (elementToValue element)).lookup name) =
          AmtBoot.truthy
            ((dictionaryOf (elementToValue element)).lookup name) :=
      fun name hname => (readers_agree_iff _).mpr (h.properties name hname)
    have hiderAgrees := hider.trans (hagree "IDER" (by simp))
    constructor
    · exact (hpxe.trans (hagree "ForcePXEBoot" (by simp))).trans
        hacceptPxe.symm
    · exact hiderAgrees.trans hacceptFloppy.symm
    · exact hiderAgrees.trans hacceptCdrom.symm
    · exact (report_eq_ok_iff _ _ hcapabilities).mpr
        ⟨h.dictionary, hiderAgrees, hsol.trans (hagree "SOL" (by simp))⟩

end Paths

/-!
## Endpoints that are asked in three ways
-/

/-- The response of a Get. -/
def getBody (element : Element) : Element where
  tag := qualified soapNs "Body"
  children := [element]

/-- An endpoint with these capabilities and nothing else. -/
def capabilityEndpoint (element : Element) : AmtInfo.Endpoint where
  answer
    | FactsRead.get resourceClass _ =>
        if resourceClass = "AMT_BootCapabilities" then
          Except.ok (singleInstance (getBody element))
        else Except.ok []
    | FactsRead.enumerate _ => Except.ok []
  getDegrades resourceClass _ _ h := by
    dsimp only at h
    split at h
    · cases h
    · cases h
  enumerateDegrades _ _ h := by cases h

theorem capabilityEndpoint_get (element : Element) :
    (capabilityEndpoint element).answer
        (FactsRead.get "AMT_BootCapabilities" []) =
      Except.ok (singleInstance (getBody element)) := by
  simp [capabilityEndpoint]

theorem pxeSource_found :
    SourceFound BootTarget.pxe [elementToValue pxeSource.element] := by
  rw [elementToValue_pxeSource]
  constructor
  · intro source hsource
    rw [List.mem_singleton.mp hsource]
    trivial
  · intro expected hexpected
    cases hexpected
    rw [List.filter_cons_of_pos (by decide)]
    rfl

/-- What the discovery of these capabilities and the report come to. -/
def AnsweredAlike (facts : AmtFacts) (capability : PlainProperties) : Prop :=
  let answers := (discoveryEndpoint capability pxeSource).answers
  let client : Client := { endpoint := "h:16993" }
  OneAnswer facts.capabilities
    (fun target => accepts (Script.play answers 0
      (discoverAndValidate client 1 target)).1)
    (Script.play answers 0 (AmtRedirection.getCapabilities client 1)).1

theorem forcePxe_plain : forall property : String × String,
    property ∈ [("ForcePXEBoot", "true")] ->
      localName property.1 ∉ pageNames := by
  decide +kernel

theorem one_answer_pxe :
    let capability : PlainProperties :=
      { properties := [("ForcePXEBoot", "true")]
        plain := forcePxe_plain }
    exists facts,
      (capabilityEndpoint capability.element).run (getFacts ∅) =
          Except.ok facts ∧
        (AnsweredAlike facts capability ↔
          ReadsAlike (elementToValue capability.element)) := by
  intro capability
  rcases getFacts_gathers ∅ (capabilityEndpoint capability.element) with
    ⟨facts, hfacts⟩
  have hcapabilities := discoveryEndpoint_capabilities capability pxeSource
  have hsources := discoveryEndpoint_sources capability pxeSource
  exact ⟨facts, hfacts,
    one_answer_iff (capabilityEndpoint_get _) hfacts hcapabilities hsources
      pxeSource_found⟩

def iderYes : PlainProperties where
  properties := [("IDER", "yes")]
  plain := by decide +kernel

theorem elementToValue_iderYes :
    elementToValue iderYes.element =
      Value.members [("IDER", Value.text "yes")] := by
  have hname : localName "IDER" = "IDER" := by decide +kernel
  have hstrip : strip "yes" = "yes" := by decide +kernel
  simp [iderYes, PlainProperties.element, instanceElement, elementToValue,
    membersOf, addMember, hname, hstrip]

/-- A capability that reads `yes` is told and not accepted, one that is there
twice is accepted and not told. -/
theorem one_answer_fails :
    (exists facts,
      (capabilityEndpoint iderYes.element).run (getFacts ∅) =
          Except.ok facts ∧ facts.capabilities.storageRedirection = true ∧
        ¬ AnsweredAlike facts iderYes) ∧
      exists facts,
        (capabilityEndpoint iderTwice.element).run (getFacts ∅) =
            Except.ok facts ∧ facts.capabilities.storageRedirection = false ∧
          ¬ AnsweredAlike facts iderTwice := by
  have hreport : forall {facts : AmtFacts} {capability : PlainProperties},
      AnsweredAlike facts capability ->
        facts.capabilities.storageRedirection = AmtBoot.truthy
          ((dictionaryOf (elementToValue capability.element)).lookup
            "IDER") := by
    intro facts capability h
    exact ((report_eq_ok_iff _ _ (discoveryEndpoint_capabilities capability
      pxeSource)).mp h.reported).2.1
  constructor
  · rcases getFacts_gathers ∅ (capabilityEndpoint iderYes.element) with
      ⟨facts, hfacts⟩
    have hflag := (facts_flags (capabilityEndpoint_get _) hfacts).2.1
    have htrue : facts.capabilities.storageRedirection = true := by
      rw [hflag, elementToValue_iderYes]
      decide +kernel
    refine ⟨facts, hfacts, htrue, ?_⟩
    intro h
    have hfalse := hreport h
    rw [htrue, elementToValue_iderYes] at hfalse
    revert hfalse
    decide +kernel
  · rcases getFacts_gathers ∅ (capabilityEndpoint iderTwice.element) with
      ⟨facts, hfacts⟩
    have hflag := (facts_flags (capabilityEndpoint_get _) hfacts).2.1
    have hfalse : facts.capabilities.storageRedirection = false := by
      rw [hflag, elementToValue_iderTwice]
      exact models_truthy_compound (Or.inl rfl)
        (by simp [Value.str, Value.repr])
    refine ⟨facts, hfacts, hfalse, ?_⟩
    intro h
    have htrue := hreport h
    rw [hfalse, elementToValue_iderTwice] at htrue
    cases htrue

end AmtModules
end IntelAmt
