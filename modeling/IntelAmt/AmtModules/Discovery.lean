import IntelAmt.AmtBoot.Sequence
import IntelAmt.AmtRedirection.Module
import IntelAmt.Wsman.Paging

/-!
# What a discovery accepts

The discovery in front of an arming and the capabilities of the redirection
service, on everything that the two enumerations can have returned.
-/

namespace IntelAmt
namespace AmtModules

open Foundation Wsman AmtBoot

/-!
## How a value reads
-/

/-- A property that is there once and reads `true` or `1`. -/
def ReadsTrue : Option Value -> Prop
  | some (Value.text s) =>
      let text := String.ofList (Tls.lower (Tls.strip s.toList))
      text = "true" ∨ text = "1"
  | _ => False

/-- A property that is repeated, or has child elements. -/
def Compound : Option Value -> Prop
  | some (Value.members entries) => entries ≠ []
  | some (Value.list items) => items ≠ []
  | _ => False

/-- An instance that has child elements. -/
def IsDictionary : Value -> Prop
  | Value.members _ => True
  | _ => False

theorem truthy_iff (value : Option Value) :
    truthy value = true ↔ ReadsTrue value ∨ Compound value := by
  cases value with
  | none => simp [truthy, ReadsTrue, Compound]
  | some value =>
      cases value with
      | text s => simp [truthy, ReadsTrue, Compound]
      | members entries => simp [truthy, ReadsTrue, Compound]
      | list items => simp [truthy, ReadsTrue, Compound]

theorem not_readsTrue_of_compound {value : Option Value}
    (h : Compound value) : ¬ ReadsTrue value := by
  cases value with
  | none => exact h.elim
  | some value =>
      cases value with
      | text s => exact h.elim
      | members entries => exact id
      | list items => exact id

theorem readsTrue_iff {value : Option Value} (h : truthy value = true) :
    ReadsTrue value ↔ ¬ Compound value := by
  constructor
  · intro hreads hcompound
    exact not_readsTrue_of_compound hcompound hreads
  · intro hplain
    rcases (truthy_iff value).mp h with hreads | hcompound
    · exact hreads
    · exact absurd hcompound hplain

/-- The field is advertised by the one instance that there is. -/
def Advertised (field : String) (capabilities : List Value) : Prop :=
  exists entries, capabilities = [Value.members entries] ∧
    ReadsTrue (entries.lookup field)

theorem advertised_one (field : String) (entries : Instance) :
    Advertised field [Value.members entries] ↔
      ReadsTrue (entries.lookup field) := by
  constructor
  · rintro ⟨others, heq, hreads⟩
    cases heq
    exact hreads
  · intro hreads
    exact ⟨entries, rfl, hreads⟩

/-!
## Failing closed
-/

/-- It is accepted what may be, or the refusal is `unsupported_capability`. -/
def FailsClosed {alpha : Type} (accepted : alpha -> Prop) :
    Except Failure alpha -> Prop
  | Except.ok a => accepted a
  | Except.error (Failure.amt error) =>
      error.errorClass = ErrorClass.unsupportedCapability
  | Except.error _ => False

/-- What is enumerated can be discovered. -/
structure Discoverable (target : BootTarget)
    (capabilities sources : List Value) : Prop where
  capability : forall container, capabilities = [container] ->
    IsDictionary container
  source : forall entries expected,
    capabilities = [Value.members entries] ->
    truthy (entries.lookup (capabilityField target)) = true ->
    bootSourceInstanceId target = some expected ->
      forall source, source ∈ sources -> IsDictionary source
  plain : forall entries, capabilities = [Value.members entries] ->
    Compound (entries.lookup (capabilityField target)) ->
      exists expected, bootSourceInstanceId target = some expected ∧
        (sources.filter (isSource expected)).length ≠ 1

/-- Without exactly one instance there is nothing that could go wrong. -/
theorem discoverable_of_ambiguous {target : BootTarget}
    {capabilities : List Value} (sources : List Value)
    (h : forall container, capabilities ≠ [container]) :
    Discoverable target capabilities sources where
  capability container hone := absurd hone (h container)
  source entries _ hone := absurd hone (h (Value.members entries))
  plain entries hone := absurd hone (h (Value.members entries))

/-- What is enumerated can be reported on. -/
def Reportable (capabilities : List Value) : Prop :=
  forall container, capabilities = [container] ->
    exists entries, container = Value.members entries ∧
      ¬ Compound (entries.lookup "IDER") ∧ ¬ Compound (entries.lookup "SOL")

/-!
## The discovery of a target
-/

/-- The sources are filtered, unless one of them has no child elements. -/
theorem matchingSources_cases (expected : String) (sources : List Value) :
    (forall source, source ∈ sources -> IsDictionary source) ∧
        matchingSources expected sources =
          Except.ok (sources.filter (isSource expected)) ∨
      (exists source, source ∈ sources ∧ ¬ IsDictionary source) ∧
        matchingSources expected sources =
          Except.error OtherError.attribute := by
  induction sources with
  | nil =>
      apply Or.inl
      constructor
      · intro source hsource
        cases hsource
      · rfl
  | cons source rest ih =>
      cases source with
      | text s => exact Or.inr ⟨⟨_, List.mem_cons_self, id⟩, rfl⟩
      | list items => exact Or.inr ⟨⟨_, List.mem_cons_self, id⟩, rfl⟩
      | members entries =>
          rcases ih with ⟨hall, hrest⟩ | ⟨⟨other, hmem, hother⟩, hrest⟩
          · apply Or.inl
            constructor
            · intro source hsource
              rcases List.mem_cons.mp hsource with rfl | hsource
              · trivial
              · exact hall source hsource
            · rw [matchingSources, hrest, List.filter_cons]
              rfl
          · apply Or.inr
            constructor
            · exact ⟨other, List.mem_cons_of_mem _ hmem, hother⟩
            · rw [matchingSources, hrest]
              rfl

section Boot

variable {client : Client} {pulls : Nat} {target : BootTarget}
variable {answers : Nat -> (o : WsmanOp) -> WsmanAnswer o}
variable {start second : Nat} {capabilities sources : List Value}

theorem play_discover
    (hcapabilities : Script.play answers start
      (enumerate client pulls "AMT_BootCapabilities") =
        (Except.ok capabilities, second)) :
    Script.play answers start (discoverAndValidate client pulls target) =
      Script.play answers second (do
        let only ← ofAmt (AmtBoot.onlyCapabilities capabilities)
        let capability ← ofOther (getMember (capabilityField target) only)
        ofAmt (requireCapability target capability)
        discoverSource client pulls target) := by
  rw [discoverAndValidate, discoverCapability, Script.bind_assoc,
    Script.play_bind_ok hcapabilities]
  simp only [Script.bind_assoc]

theorem discoverSource_failsClosed {last : Nat} {accepted : Prop}
    (hsources : bootSourceInstanceId target ≠ none ->
      Script.play answers second
        (enumerate client pulls "CIM_BootSourceSetting") =
          (Except.ok sources, last)) :
    FailsClosed (fun _ => accepted)
        (Script.play answers second (discoverSource client pulls target)).1 ↔
      match bootSourceInstanceId target with
      | none => accepted
      | some expected =>
          (forall source, source ∈ sources -> IsDictionary source) ∧
            ((sources.filter (isSource expected)).length = 1 ->
              accepted) := by
  rw [discoverSource]
  cases hexpected : bootSourceInstanceId target with
  | none => exact Iff.rfl
  | some expected =>
      rw [hexpected] at hsources
      have hplay := hsources (Option.some_ne_none expected)
      dsimp only
      rw [Script.play_bind_ok hplay]
      rcases matchingSources_cases expected sources with
        ⟨hall, hfound⟩ | ⟨⟨source, hmem, hsource⟩, hfound⟩
      · rw [hfound]
        change FailsClosed _ (Script.play answers last
          (ofAmt (requireOneSource target expected _))).1 ↔ _
        rw [requireOneSource]
        by_cases hone : (sources.filter (isSource expected)).length = 1
        · rw [if_pos hone]
          exact ⟨fun h => ⟨hall, fun _ => h⟩, fun h => h.2 hone⟩
        · rw [if_neg hone]
          exact iff_of_true rfl ⟨hall, fun h => absurd h hone⟩
      · rw [hfound]
        constructor
        · exact False.elim
        · intro h
          exact hsource (h.1 source hmem)

theorem discoverable_true_iff {entries : Instance}
    (htrue : truthy (entries.lookup (capabilityField target)) = true) :
    Discoverable target [Value.members entries] sources ↔
      match bootSourceInstanceId target with
      | none => Advertised (capabilityField target) [Value.members entries]
      | some expected =>
          (forall source, source ∈ sources -> IsDictionary source) ∧
            ((sources.filter (isSource expected)).length = 1 ->
              Advertised (capabilityField target)
                [Value.members entries]) := by
  rw [advertised_one, readsTrue_iff htrue]
  cases hexpected : bootSourceInstanceId target with
  | none =>
      constructor
      · intro h hcompound
        rcases h.plain entries rfl hcompound with ⟨expected, hsome, _⟩
        rw [hexpected] at hsome
        cases hsome
      · intro hplain
        constructor
        · rintro container ⟨⟩
          trivial
        · intro others expected _ _ hsome
          rw [hexpected] at hsome
          cases hsome
        · rintro others ⟨⟩ hcompound
          exact absurd hcompound hplain
  | some expected =>
      constructor
      · intro h
        constructor
        · exact h.source entries expected rfl htrue hexpected
        · intro hone hcompound
          rcases h.plain entries rfl hcompound with ⟨other, hsome, hmany⟩
          rw [hexpected] at hsome
          cases hsome
          exact hmany hone
      · rintro ⟨hall, hplain⟩
        constructor
        · rintro container ⟨⟩
          trivial
        · intro _ _ _ _ _
          exact hall
        · rintro others ⟨⟩ hcompound
          exact ⟨expected, hexpected, fun hone => hplain hone hcompound⟩

theorem discover_closes_iff {last : Nat}
    (hcapabilities : Script.play answers start
      (enumerate client pulls "AMT_BootCapabilities") =
        (Except.ok capabilities, second))
    (hsources : bootSourceInstanceId target ≠ none ->
      Script.play answers second
        (enumerate client pulls "CIM_BootSourceSetting") =
          (Except.ok sources, last)) :
    FailsClosed (fun _ => Advertised (capabilityField target) capabilities)
        (Script.play answers start
          (discoverAndValidate client pulls target)).1 ↔
      Discoverable target capabilities sources := by
  rw [play_discover hcapabilities]
  rcases capabilities with _ | ⟨container, _ | ⟨other, rest⟩⟩
  · exact iff_of_true rfl (discoverable_of_ambiguous sources (by simp))
  · cases container with
    | text s => exact iff_of_false id fun h => h.capability _ rfl
    | list items => exact iff_of_false id fun h => h.capability _ rfl
    | members entries =>
        change FailsClosed _ (Script.play answers second
          (ofAmt (requireCapability target
              (entries.lookup (capabilityField target))) >>=
            fun _ => discoverSource client pulls target)).1 ↔ _
        rw [requireCapability]
        cases htrue : truthy (entries.lookup (capabilityField target)) with
        | true =>
            rw [discoverable_true_iff htrue]
            exact discoverSource_failsClosed hsources
        | false =>
            apply iff_of_true rfl
            constructor
            · rintro container ⟨⟩
              trivial
            · rintro others expected ⟨⟩ hother
              rw [htrue] at hother
              cases hother
            · rintro others ⟨⟩ hcompound
              rw [(truthy_iff _).mpr (Or.inr hcompound)] at htrue
              cases htrue
  · exact iff_of_true rfl (discoverable_of_ambiguous sources (by simp))

theorem discover_closes_iff_sourceless
    (hcapabilities : Script.play answers start
      (enumerate client pulls "AMT_BootCapabilities") =
        (Except.ok capabilities, second))
    (hsource : bootSourceInstanceId target = none) :
    FailsClosed (fun _ => Advertised (capabilityField target) capabilities)
        (Script.play answers start
          (discoverAndValidate client pulls target)).1 ↔
      Discoverable target capabilities [] :=
  @discover_closes_iff client pulls target answers start second capabilities
    [] second hcapabilities fun hsome => absurd hsource hsome

/-!
## The report
-/

/-- What is reported as supported is advertised. -/
def ReportedFrom (capabilities : List Value)
    (report : AmtRedirection.RedirectionCapabilities) : Prop :=
  (report.iderSupported = true -> Advertised "IDER" capabilities) ∧
    (report.solSupported = true -> Advertised "SOL" capabilities)

theorem advertised_if_true (field : String) (entries : Instance) :
    (truthy (entries.lookup field) = true ->
        Advertised field [Value.members entries]) ↔
      ¬ Compound (entries.lookup field) := by
  rw [advertised_one]
  constructor
  · intro h hcompound
    have htrue := (truthy_iff _).mpr (Or.inr hcompound)
    exact (readsTrue_iff htrue).mp (h htrue) hcompound
  · intro hplain htrue
    exact (readsTrue_iff htrue).mpr hplain

theorem report_closes_iff
    (hcapabilities : Script.play answers start
      (enumerate client pulls "AMT_BootCapabilities") =
        (Except.ok capabilities, second)) :
    FailsClosed (ReportedFrom capabilities)
        (Script.play answers start
          (AmtRedirection.getCapabilities client pulls)).1 ↔
      Reportable capabilities := by
  rw [AmtRedirection.getCapabilities, Script.play_bind_ok hcapabilities]
  rcases capabilities with _ | ⟨container, _ | ⟨other, rest⟩⟩
  · exact iff_of_true rfl fun container hone => absurd hone (by simp)
  · have hbare : (forall entries, container ≠ Value.members entries) ->
        ¬ Reportable [container] := by
      intro hne h
      rcases h container rfl with ⟨entries, heq, _⟩
      exact hne entries heq
    cases container with
    | text s => exact iff_of_false id (hbare fun _ => by simp)
    | list items => exact iff_of_false id (hbare fun _ => by simp)
    | members entries =>
        change ReportedFrom [Value.members entries]
          { iderSupported := truthy (entries.lookup "IDER")
            solSupported := truthy (entries.lookup "SOL") } ↔ _
        rw [ReportedFrom, advertised_if_true, advertised_if_true]
        constructor
        · rintro hplain container ⟨⟩
          exact ⟨entries, rfl, hplain⟩
        · intro h
          rcases h _ rfl with ⟨others, heq, hplain⟩
          cases heq
          exact hplain
  · exact iff_of_true rfl fun container hone => absurd hone (by simp)

/-!
## Both of them
-/

/-- The discovery of a target and the report fail closed exactly on what they
can read. -/
theorem discovery_failsClosed_iff {last : Nat}
    (hcapabilities : Script.play answers start
      (enumerate client pulls "AMT_BootCapabilities") =
        (Except.ok capabilities, second))
    (hsources : bootSourceInstanceId target ≠ none ->
      Script.play answers second
        (enumerate client pulls "CIM_BootSourceSetting") =
          (Except.ok sources, last)) :
    (FailsClosed
        (fun _ => Advertised (capabilityField target) capabilities)
        (Script.play answers start
          (discoverAndValidate client pulls target)).1 ↔
      Discoverable target capabilities sources) ∧
    (FailsClosed (ReportedFrom capabilities)
        (Script.play answers start
          (AmtRedirection.getCapabilities client pulls)).1 ↔
      Reportable capabilities) :=
  ⟨discover_closes_iff hcapabilities hsources,
    report_closes_iff hcapabilities⟩

end Boot

/-!
## Endpoints to discover
-/

/-- An instance with these properties. -/
def instanceElement (properties : List (String × String)) : Element where
  tag := "Instance"
  children := properties.map fun property =>
    { tag := property.1, text := some property.2 }

theorem instanceElement_plain {properties : List (String × String)}
    (h : forall property, property ∈ properties ->
      localName property.1 ∉ pageNames) :
    Plain (instanceElement properties) := by
  have hname : localName "Instance" ∉ pageNames := by decide +kernel
  intro found hfound
  rw [instanceElement, iter_eq, List.mem_cons] at hfound
  rcases hfound with rfl | hfound
  · exact hname
  · rw [iterAll_flatMap] at hfound
    rcases List.mem_flatMap.mp hfound with ⟨child, hchild, hmem⟩
    rcases List.mem_map.mp hchild with ⟨property, hproperty, rfl⟩
    rw [iter_eq, iterAll, List.mem_singleton] at hmem
    rw [hmem]
    exact h property hproperty

/-- Properties whose names are not those of the parts of a page. -/
structure PlainProperties where
  properties : List (String × String)
  plain : forall property, property ∈ properties ->
    localName property.1 ∉ pageNames

def PlainProperties.element (plain : PlainProperties) : Element :=
  instanceElement plain.properties

/-- A capability and a source, enumerated one after the other. -/
def discoveryPages (capability source : PlainProperties) : Nat -> Page
  | 0 => Page.opening "1"
  | 1 => ⟨some [capability.element], none, true⟩
  | 2 => Page.opening "2"
  | _ => ⟨some [source.element], none, true⟩

theorem discoveryPages_plain (capability source : PlainProperties) (n : Nat)
    (element : Element)
    (h : element ∈ (discoveryPages capability source n).instances) :
    Plain element := by
  match n with
  | 0 => cases h
  | 1 =>
      rw [List.mem_singleton.mp h]
      exact instanceElement_plain capability.plain
  | 2 => cases h
  | _ + 3 =>
      rw [List.mem_singleton.mp h]
      exact instanceElement_plain source.plain

/-- The endpoint that answers with them. -/
def discoveryEndpoint (capability source : PlainProperties) :
    Endpoint { endpoint := "h:16993" } :=
  Endpoint.paged _ (discoveryPages capability source)
    (discoveryPages_plain capability source)

section Answered

variable (capability source : PlainProperties)

theorem discoveryEndpoint_capabilities :
    Script.play (discoveryEndpoint capability source).answers 0
        (enumerate { endpoint := "h:16993" } 1 "AMT_BootCapabilities") =
      (Except.ok [elementToValue capability.element], 2) := by
  have huri : resourceUri "AMT_BootCapabilities" = Except.ok
      ("http://intel.com/wbem/wscim/1/amt-schema/1/" ++
        "AMT_BootCapabilities") := rfl
  have hcontext : "1" ≠ "" := by decide
  exact play_enumerate_page _ huri 0 rfl hcontext rfl 0

theorem discoveryEndpoint_sources :
    Script.play (discoveryEndpoint capability source).answers 2
        (enumerate { endpoint := "h:16993" } 1 "CIM_BootSourceSetting") =
      (Except.ok [elementToValue source.element], 4) := by
  have huri : resourceUri "CIM_BootSourceSetting" = Except.ok
      ("http://schemas.dmtf.org/wbem/wscim/1/cim-schema/2/" ++
        "CIM_BootSourceSetting") := rfl
  have hcontext : "2" ≠ "" := by decide
  exact play_enumerate_page _ huri 2 rfl hcontext rfl 0

end Answered

def pxeSource : PlainProperties where
  properties := [("InstanceID", "Intel(r) AMT: Force PXE Boot")]
  plain := by decide +kernel

def pxeAndIderTwice : PlainProperties where
  properties := [("ForcePXEBoot", "true"), ("IDER", "false"), ("IDER", "false")]
  plain := by decide +kernel

theorem elementToValue_pxeSource :
    elementToValue pxeSource.element =
      Value.members
        [("InstanceID", Value.text "Intel(r) AMT: Force PXE Boot")] := by
  have hname : localName "InstanceID" = "InstanceID" := by decide +kernel
  have hstrip : strip "Intel(r) AMT: Force PXE Boot" =
      "Intel(r) AMT: Force PXE Boot" := by decide +kernel
  simp [pxeSource, PlainProperties.element, instanceElement, elementToValue,
    membersOf, addMember, hname, hstrip]

theorem elementToValue_pxeAndIderTwice :
    elementToValue pxeAndIderTwice.element =
      Value.members
        [("ForcePXEBoot", Value.text "true"),
          ("IDER", Value.list [Value.text "false", Value.text "false"])] := by
  have hpxe : localName "ForcePXEBoot" = "ForcePXEBoot" := by decide +kernel
  have hider : localName "IDER" = "IDER" := by decide +kernel
  have htrue : strip "true" = "true" := by decide +kernel
  have hfalse : strip "false" = "false" := by decide +kernel
  simp [pxeAndIderTwice, PlainProperties.element, instanceElement,
    elementToValue, membersOf, addMember, Value.again, hpxe, hider, htrue,
    hfalse]

/-- PXE can be discovered beside a repeated IDER, which cannot be reported
on. -/
theorem discovery_failsClosed_pxe :
    let answers := (discoveryEndpoint pxeAndIderTwice pxeSource).answers
    let capabilities := [elementToValue pxeAndIderTwice.element]
    FailsClosed
        (fun _ => Advertised (capabilityField BootTarget.pxe) capabilities)
        (Script.play answers 0
          (discoverAndValidate { endpoint := "h:16993" } 1
            BootTarget.pxe)).1 ∧
      ¬ FailsClosed (ReportedFrom capabilities)
        (Script.play answers 0
          (AmtRedirection.getCapabilities { endpoint := "h:16993" } 1)).1 := by
  intro answers capabilities
  have hcapabilities := discoveryEndpoint_capabilities pxeAndIderTwice
    pxeSource
  have hsources := discoveryEndpoint_sources pxeAndIderTwice pxeSource
  have hcloses := @discovery_failsClosed_iff { endpoint := "h:16993" } 1
    BootTarget.pxe answers 0 2 capabilities
    [elementToValue pxeSource.element] 4 hcapabilities fun _ => hsources
  have hreads : ReadsTrue ([("ForcePXEBoot", Value.text "true"),
      ("IDER", Value.list [Value.text "false", Value.text "false"])].lookup
        (capabilityField BootTarget.pxe)) := Or.inl (by decide +kernel)
  constructor
  · apply hcloses.1.mpr
    show Discoverable _ [elementToValue pxeAndIderTwice.element]
      [elementToValue pxeSource.element]
    rw [elementToValue_pxeAndIderTwice, elementToValue_pxeSource,
      discoverable_true_iff ((truthy_iff _).mpr (Or.inl hreads))]
    refine ⟨?_, fun _ => (advertised_one _ _).mpr hreads⟩
    intro source hsource
    rw [List.mem_singleton.mp hsource]
    trivial
  · apply mt hcloses.2.mp
    show ¬ Reportable [elementToValue pxeAndIderTwice.element]
    rw [elementToValue_pxeAndIderTwice]
    intro hreportable
    rcases hreportable _ rfl with ⟨entries, heq, hplain, _⟩
    cases heq
    exact hplain (List.cons_ne_nil _ _)

def noProperties : PlainProperties where
  properties := []
  plain := by decide

def iderTwice : PlainProperties where
  properties := [("IDER", "false"), ("IDER", "false")]
  plain := by decide +kernel

theorem elementToValue_noProperties :
    elementToValue noProperties.element = Value.text "" := rfl

theorem elementToValue_iderTwice :
    elementToValue iderTwice.element =
      Value.members
        [("IDER", Value.list [Value.text "false", Value.text "false"])] := by
  have hname : localName "IDER" = "IDER" := by decide +kernel
  have hstrip : strip "false" = "false" := by decide +kernel
  simp [iderTwice, PlainProperties.element, instanceElement, elementToValue,
    membersOf, addMember, Value.again, hname, hstrip]

/-- An instance without child elements ends both of them with an exception of
another kind, and a property that is there twice counts as advertised. -/
theorem discovery_not_failsClosed :
    let bare := (discoveryEndpoint noProperties noProperties).answers
    let twice := (discoveryEndpoint iderTwice noProperties).answers
    let client : Client := { endpoint := "h:16993" }
    ¬ FailsClosed
        (fun _ => Advertised (capabilityField BootTarget.iderCdrom)
          [elementToValue noProperties.element])
        (Script.play bare 0
          (discoverAndValidate client 1 BootTarget.iderCdrom)).1 ∧
      ¬ FailsClosed (ReportedFrom [elementToValue noProperties.element])
        (Script.play bare 0 (AmtRedirection.getCapabilities client 1)).1 ∧
      ¬ FailsClosed
        (fun _ => Advertised (capabilityField BootTarget.iderCdrom)
          [elementToValue iderTwice.element])
        (Script.play twice 0
          (discoverAndValidate client 1 BootTarget.iderCdrom)).1 ∧
      ¬ FailsClosed (ReportedFrom [elementToValue iderTwice.element])
        (Script.play twice 0 (AmtRedirection.getCapabilities client 1)).1 := by
  intro bare twice client
  have hbare := discoveryEndpoint_capabilities noProperties noProperties
  have htwice := discoveryEndpoint_capabilities iderTwice noProperties
  have hlist : Compound ([("IDER", Value.list
      [Value.text "false", Value.text "false"])].lookup "IDER") :=
    List.cons_ne_nil _ _
  have hsource : bootSourceInstanceId BootTarget.iderCdrom = none := rfl
  rw [elementToValue_noProperties] at hbare ⊢
  rw [elementToValue_iderTwice] at htwice ⊢
  have hbareTarget : ¬ Discoverable BootTarget.iderCdrom [Value.text ""] [] :=
    fun h => h.capability _ rfl
  have hbareReport : ¬ Reportable [Value.text ""] := by
    intro h
    rcases h _ rfl with ⟨entries, heq, _⟩
    cases heq
  have htwiceTarget : ¬ Discoverable BootTarget.iderCdrom
      [Value.members [("IDER", Value.list
        [Value.text "false", Value.text "false"])]] [] := by
    intro h
    rcases h.plain _ rfl hlist with ⟨expected, hsome, _⟩
    cases hsome
  have htwiceReport : ¬ Reportable [Value.members [("IDER", Value.list
      [Value.text "false", Value.text "false"])]] := by
    intro h
    rcases h _ rfl with ⟨entries, heq, hplain, _⟩
    cases heq
    exact hplain hlist
  exact ⟨mt (discover_closes_iff_sourceless hbare hsource).mp hbareTarget,
    mt (report_closes_iff hbare).mp hbareReport,
    mt (discover_closes_iff_sourceless htwice hsource).mp htwiceTarget,
    mt (report_closes_iff htwice).mp htwiceReport⟩

end AmtModules
end IntelAmt
