import IntelAmt.AmtBoot.Arm
import IntelAmt.Wsman.Posts

/-!
# The order of the arming

Which posts of `arm_one_time_boot` change something, in which order, and what
was read in front of them.
-/

namespace IntelAmt
namespace AmtBoot

open Foundation Wsman

/-!
## The four changes
-/

def cimUri (className : String) : String :=
  "http://schemas.dmtf.org/wbem/wscim/1/cim-schema/2/" ++ className

def settingsUri : String :=
  "http://intel.com/wbem/wscim/1/amt-schema/1/AMT_BootSettingData"

/-- The elements that name an instance by its id. -/
def referenceTo (className instanceId : String) : List Element :=
  [{ tag := qualified addressingNs "Address", text := some addressingNs },
    { tag := qualified addressingNs "ReferenceParameters"
      children :=
        [{ tag := qualified wsmanNs "ResourceURI"
           text := some (cimUri className) },
          { tag := qualified wsmanNs "SelectorSet"
            children := [selectorElement ("InstanceID", instanceId)] }] }]

/-- The `Source` of a boot order, if there is one. -/
def sourceElements (source : Option String) : List Element :=
  match source with
  | none => []
  | some instanceId =>
      [{ tag := qualified (cimUri "CIM_BootConfigSetting") "Source"
         children := referenceTo "CIM_BootSourceSetting" instanceId }]

def orderRequest (source : Option String) : Request :=
  methodRequest "ChangeBootOrder" (cimUri "CIM_BootConfigSetting")
    [("InstanceID", bootConfigInstanceId)] (sourceElements source)

def propertyElement (property : String × Scalar) : Element where
  tag := qualified settingsUri property.1
  text := some property.2.coerceText

def settingsRequest (properties : Properties) : Request :=
  putRequest "AMT_BootSettingData" settingsUri []
    (properties.map propertyElement)

def roleRequest : Request :=
  methodRequest "SetBootConfigRole" (cimUri "CIM_BootService") []
    [{ tag := qualified (cimUri "CIM_BootService") "BootConfigSetting"
       children := referenceTo "CIM_BootConfigSetting" bootConfigInstanceId },
      { tag := qualified (cimUri "CIM_BootService") "Role", text := some "1" }]

/-- The changes of an arming, in their order. -/
def armRequests (source : Option String) (properties : Properties) :
    List Request :=
  [orderRequest none, settingsRequest properties, roleRequest,
    orderRequest source]

/-!
## The steps issue them
-/

section Steps

variable (client : Client)

theorem appendParams_source (instanceId : String) :
    appendParams (cimUri "CIM_BootConfigSetting")
        [("Source",
          Param.reference
            { resourceClass := "CIM_BootSourceSetting"
              selectors := [("InstanceID", instanceId)] })] =
      Except.ok (sourceElements (some instanceId)) := by
  have huri : resourceUri "CIM_BootSourceSetting" =
      Except.ok (cimUri "CIM_BootSourceSetting") := rfl
  simp only [appendParams, paramElement, EndpointReference.buildElements, huri]
  rfl

theorem orderRequest_isMethod {children : List Element} :
    IsMethod (methodRequest "ChangeBootOrder" (cimUri "CIM_BootConfigSetting")
      bootConfigSelector children) := by
  have hclosed : IsMethod (orderRequest none) := by decide +kernel
  exact hclosed

theorem roleRequest_isMethod : IsMethod roleRequest := by
  decide +kernel

theorem changeBootOrder_changes (plan : BootPlan) :
    Changes client (changeBootOrder client (sourceParam plan))
      (orderRequest plan.bootSourceInstanceId) := by
  have hchildren : appendParams (cimUri "CIM_BootConfigSetting")
      [("Source", sourceParam plan)] =
        Except.ok (sourceElements plan.bootSourceInstanceId) := by
    cases hsource : plan.bootSourceInstanceId with
    | none =>
        rw [sourceParam, bootSourceSelector, hsource]
        rfl
    | some instanceId =>
        rw [sourceParam, bootSourceSelector, hsource]
        exact appendParams_source instanceId
  exact invoke_changes rfl hchildren orderRequest_isMethod

theorem clearBootOrder_changes :
    Changes client (changeBootOrder client Param.none) (orderRequest none) :=
  invoke_changes rfl rfl orderRequest_isMethod

theorem appendParams_scalars (uri : String) (properties : Properties) :
    appendParams uri
        (properties.map fun entry => (entry.1, Param.scalar entry.2)) =
      Except.ok (properties.map fun entry =>
        { tag := qualified uri entry.1
          text := some entry.2.coerceText }) := by
  induction properties with
  | nil => rfl
  | cons entry rest ih =>
      rw [List.map_cons, appendParams, ih]
      rfl

theorem putBootSettings_changes (properties : Properties) :
    Changes client (putBootSettings client properties)
      (settingsRequest properties) :=
  put_changes rfl (appendParams_scalars settingsUri properties)

theorem setBootConfigRole_changes :
    Changes client (setBootConfigRole client) roleRequest :=
  invoke_changes rfl rfl roleRequest_isMethod

theorem armSteps_issues (plan : BootPlan) (properties : Properties) :
    Issues client (armSteps client plan properties)
      (armRequests plan.bootSourceInstanceId properties) := by
  apply issues_bind (issues_of_changes (clearBootOrder_changes client))
  intro _
  apply issues_bind
    (issues_of_changes (putBootSettings_changes client properties))
  intro _
  apply issues_bind (issues_of_changes (setBootConfigRole_changes client))
  intro _
  exact issues_bind (issues_of_changes (changeBootOrder_changes client plan))
    fun _ => issues_of_reading trivial

theorem armAndObserve_issues (plan : BootPlan) (previous : Instance) :
    Issues client (armAndObserve client plan previous)
      (armRequests plan.bootSourceInstanceId
        (buildPutProperties previous plan)) := by
  apply issues_bind (armSteps_issues client plan _)
  intro _
  apply issues_of_reading
  exact Script.uses_bind (uses_get client _ _) fun _ => trivial

end Steps

/-!
## The reads in front of them
-/

section Reads

variable (client : Client) (pulls : Nat)

/-- The firmware has told that it supports the target. -/
def CapabilityChecked (target : BootTarget) (log : Log) : Prop :=
  exists capabilities,
    Script.After (enumerate client pulls "AMT_BootCapabilities") log
        (Script.returned [Value.members capabilities]) ∧
      truthy (capabilities.lookup (capabilityField target)) = true

def isSource (expected : String) : Value -> Bool
  | Value.members entries => isText expected (entries.lookup "InstanceID")
  | _ => false

/-- A target with a boot source has exactly one. -/
def SourceChecked (target : BootTarget) (log : Log) : Prop :=
  match bootSourceInstanceId target with
  | none => log = []
  | some expected =>
      exists sources,
        Script.After (enumerate client pulls "CIM_BootSourceSetting") log
            (Script.returned sources) ∧
          (sources.filter (isSource expected)).length = 1

/-- Both checks have passed, and these are the settings that were read. -/
def ReadFirst (target : BootTarget) (previous : Instance) (log : Log) :
    Prop :=
  exists capability source settings,
    log = capability ++ (source ++ settings) ∧
      CapabilityChecked client pulls target capability ∧
      SourceChecked client pulls target source ∧
      Script.After (get client "AMT_BootSettingData") settings
        (Script.returned previous)

variable {client pulls} {log : Log} {target : BootTarget}

theorem matchingSources_eq {expected : String} {sources found : List Value}
    (h : matchingSources expected sources = Except.ok found) :
    found = sources.filter (isSource expected) := by
  induction sources generalizing found with
  | nil =>
      cases h
      rfl
  | cons source rest ih =>
      rw [matchingSources] at h
      cases source with
      | text s => cases h
      | list items => cases h
      | members entries =>
          cases hrest : matchingSources expected rest with
          | error e =>
              rw [hrest] at h
              cases h
          | ok others =>
              rw [hrest] at h
              cases h
              rw [ih hrest, List.filter_cons]
              rfl

theorem capabilityChecked_of
    (h : Script.After (discoverCapability client pulls target) log
      (Script.returned ())) : CapabilityChecked client pulls target log := by
  rcases Script.after_bind_returned h with
    ⟨first, rest, instances, hlog, hinstances, hrest⟩
  rcases Script.after_bind_returned hrest with
    ⟨second, rest', capabilities, hrestLog, honly, hrest'⟩
  rcases Script.after_bind_returned hrest' with
    ⟨third, last, capability, hrestLog', hmember, hrequired⟩
  rcases after_ofAmt honly with ⟨hsecond, honly⟩
  rcases after_ofOther hmember with ⟨hthird, hmember⟩
  rcases after_ofAmt hrequired with ⟨hlast, hrequired⟩
  rw [hlog, hrestLog, hrestLog', hsecond, hthird, hlast, List.append_nil,
    List.append_nil, List.append_nil]
  have hone : instances = [capabilities] := by
    unfold onlyCapabilities at honly
    split at honly
    · cases honly
      rfl
    · cases honly
  cases capabilities with
  | text s => cases hmember
  | list items => cases hmember
  | members entries =>
      cases hmember
      rw [hone] at hinstances
      refine ⟨entries, hinstances, ?_⟩
      rw [requireCapability] at hrequired
      split at hrequired
      · assumption
      · cases hrequired

theorem sourceChecked_of
    (h : Script.After (discoverSource client pulls target) log
      (Script.returned ())) : SourceChecked client pulls target log := by
  rw [discoverSource] at h
  rw [SourceChecked]
  cases hsource : bootSourceInstanceId target with
  | none =>
      rw [hsource] at h
      exact (Script.after_returned h).1
  | some expected =>
      rw [hsource] at h
      rcases Script.after_bind_returned h with
        ⟨first, rest, sources, hlog, hsources, hrest⟩
      rcases Script.after_bind_returned hrest with
        ⟨second, last, found, hrestLog, hfound, hrequired⟩
      rcases after_ofOther hfound with ⟨hsecond, hfound⟩
      rcases after_ofAmt hrequired with ⟨hlast, hrequired⟩
      rw [hlog, hrestLog, hsecond, hlast, List.append_nil, List.append_nil]
      refine ⟨sources, hsources, ?_⟩
      rw [← matchingSources_eq hfound]
      rw [requireOneSource] at hrequired
      split at hrequired
      · assumption
      · cases hrequired

theorem readFirst_of {plan : BootPlan} {previous : Instance}
    (h : Script.After (readSettings client pulls plan) log
      (Script.returned previous)) :
    ReadFirst client pulls plan.target previous log := by
  rcases Script.after_bind_returned h with
    ⟨discovery, settings, _, hlog, hdiscovery, hsettings⟩
  rcases Script.after_bind_returned hdiscovery with
    ⟨capability, source, _, hdiscoveryLog, hcapability, hsource⟩
  refine ⟨capability, source, settings, ?_, capabilityChecked_of hcapability,
    sourceChecked_of hsource, hsettings⟩
  rw [hlog, hdiscoveryLog, List.append_assoc]

theorem readSettings_reads (plan : BootPlan) :
    Script.Uses Reading (readSettings client pulls plan) := by
  apply Script.uses_bind
  · apply Script.uses_bind
    · apply Script.uses_bind (uses_enumerate client _ _ _)
      intro instances
      apply Script.uses_bind (uses_ofAmt _)
      intro capabilities
      exact Script.uses_bind (uses_ofOther _) fun _ => uses_ofAmt _
    · intro _
      rw [discoverSource]
      cases bootSourceInstanceId plan.target with
      | none => trivial
      | some expected =>
          apply Script.uses_bind (uses_enumerate client _ _ _)
          intro sources
          exact Script.uses_bind (uses_ofOther _) fun _ => uses_ofAmt _
  · exact fun _ => uses_get client _ _

end Reads

/-!
## The whole sequence
-/

theorem targetSpec_source (target : BootTarget) :
    (targetSpec target).bootSourceInstanceId = bootSourceInstanceId target := by
  cases target <;> rfl

theorem buildBootPlan_row {target : String} {plan : BootPlan}
    (h : buildBootPlan target = Except.ok plan) :
    plan.target.name = target ∧
      plan.bootSourceInstanceId =
        (targetSpec plan.target).bootSourceInstanceId ∧
      plan.useIder = (targetSpec plan.target).useIder ∧
      plan.biosSetup = (targetSpec plan.target).biosSetup := by
  rw [buildBootPlan] at h
  cases hfound : bootTargets.find? fun known => known.name = target with
  | none =>
      rw [hfound] at h
      cases h
  | some known =>
      rw [hfound] at h
      have hname : known.name = target := by
        simpa using List.find?_some hfound
      cases hplan : BootPlan.create known (targetSpec known) with
      | error e =>
          simp only [hplan] at h
          cases h
      | ok created =>
          simp only [hplan] at h
          cases h
          rw [BootPlan.create] at hplan
          split at hplan
          · cases hplan
          · cases hplan
            exact ⟨hname, rfl, rfl, rfl⟩

theorem buildBootPlan_plan {target : String} {plan : BootPlan}
    (h : buildBootPlan target = Except.ok plan) :
    plan.target.name = target ∧
      plan.bootSourceInstanceId = bootSourceInstanceId plan.target := by
  rcases buildBootPlan_row h with ⟨hname, hsource, _⟩
  exact ⟨hname, hsource.trans (targetSpec_source plan.target)⟩

section Sequence

variable {client : Client} {pulls : Nat} {target : String}
variable {token : Option String} {checkMode : Bool} {log : Log}

/-- An arming that has come to its first change. -/
theorem arming_split {y : WsmanScript BootArmResult}
    (h : Script.After (armOneTimeBoot client pulls target token checkMode)
      log y) :
    mutations log = [] ∨
      exists plan previous reads rest,
        requireToken token = Except.ok () ∧
          buildBootPlan target = Except.ok plan ∧ log = reads ++ rest ∧
          Script.After (readSettings client pulls plan) reads
            (Script.returned previous) ∧
          Script.After
            (if checkMode then pure (armed plan previous previous false)
              else armAndObserve client plan previous) rest y := by
  have hnone : forall {alpha : Type} {x : WsmanScript alpha} {u},
      Script.After x log u -> Script.Uses Reading x -> mutations log = [] :=
    fun hx huses => mutations_reading (Script.after_uses huses hx)
  rw [armOneTimeBoot] at h
  cases htoken : requireToken token with
  | error e =>
      rw [htoken] at h
      exact Or.inl (hnone h trivial)
  | ok _ =>
      rw [htoken] at h
      cases hplan : buildBootPlan target with
      | error e =>
          rw [hplan] at h
          exact Or.inl (hnone h trivial)
      | ok plan =>
          rw [hplan] at h
          simp only [ofAmt, ofFailure, Script.returned_bind] at h
          rcases Script.after_bind h with
            ⟨x', hx, _⟩ | ⟨reads, rest, previous, hlog, hreads, hrest⟩
          · exact Or.inl (hnone hx (readSettings_reads plan))
          · exact Or.inr ⟨plan, previous, reads, rest, rfl, rfl, hlog, hreads,
              hrest⟩

theorem requireToken_some (h : requireToken token = Except.ok ()) :
    exists given, token = some given ∧ given ≠ "" := by
  rw [requireToken] at h
  split at h
  · rename_i hsome
    cases token with
    | none => cases hsome
    | some given =>
        refine ⟨given, rfl, ?_⟩
        intro hempty
        rw [hempty] at hsome
        cases hsome
  · cases h

theorem checked_result {result : BootArmResult}
    (h : Script.After (armOneTimeBoot client pulls target token true) log
      (Script.returned result)) :
    exists plan previous,
      requireToken token = Except.ok () ∧
        buildBootPlan target = Except.ok plan ∧
        Script.After (readSettings client pulls plan) log
          (Script.returned previous) ∧
        result = armed plan previous previous false := by
  rw [armOneTimeBoot] at h
  cases htoken : requireToken token with
  | error e =>
      rw [htoken] at h
      cases (Script.after_raised h).2
  | ok _ =>
      rw [htoken] at h
      cases hplan : buildBootPlan target with
      | error e =>
          rw [hplan] at h
          cases (Script.after_raised h).2
      | ok plan =>
          rw [hplan] at h
          simp only [ofAmt, ofFailure, Script.returned_bind] at h
          rcases Script.after_bind_returned h with
            ⟨reads, rest, previous, hlog, hreads, hrest⟩
          rcases Script.after_returned hrest with ⟨hnil, hresult⟩
          cases hresult
          rw [hlog, hnil, List.append_nil]
          exact ⟨plan, previous, rfl, rfl, hreads, rfl⟩

theorem arming_after_reads {plan : BootPlan} {previous : Instance}
    {reads rest : Log} {z : WsmanScript BootArmResult}
    (htoken : requireToken token = Except.ok ())
    (hplan : buildBootPlan target = Except.ok plan)
    (hreads : Script.After (readSettings client pulls plan) reads
      (Script.returned previous))
    (h : Script.After (armOneTimeBoot client pulls target token false)
      (reads ++ rest) z) :
    Script.After (armAndObserve client plan previous) rest z := by
  rw [armOneTimeBoot, htoken, hplan] at h
  simp only [ofAmt, ofFailure, Script.returned_bind] at h
  exact Script.after_split (Script.after_then hreads) h

theorem only_put {source : Option String} {properties : Properties}
    {request : Request} (hmem : request ∈ armRequests source properties)
    (hput : request.action = actionPut) :
    request = settingsRequest properties := by
  simp only [armRequests, List.mem_cons, List.not_mem_nil, or_false] at hmem
  rcases hmem with rfl | rfl | rfl | rfl
  · exact absurd hput orderRequest_isMethod.2
  · rfl
  · exact absurd hput roleRequest_isMethod.2
  · exact absurd hput orderRequest_isMethod.2

/-- The changes of an arming: only with a token and not in check mode, only
behind the checks and the reading of the settings, in their order, each one
only after the one before it was accepted.  What check mode reports is what a
run that reads the same puts. -/
theorem arming_changes_in_order {y : WsmanScript BootArmResult}
    (h : Script.After (armOneTimeBoot client pulls target token checkMode)
      log y) :
    (mutations log = [] ∨
      (checkMode = false ∧ (exists given, token = some given ∧ given ≠ "") ∧
        exists plan previous reads rest,
          buildBootPlan target = Except.ok plan ∧
            plan.target.name = target ∧ log = reads ++ rest ∧
            mutations reads = [] ∧
            ReadFirst client pulls plan.target previous reads ∧
            Sent client
              (armRequests (bootSourceInstanceId plan.target)
                (buildPutProperties previous plan))
              (mutations rest))) ∧
      (checkMode = true -> forall result, y = Script.returned result ->
        forall rest z,
          Script.After (armOneTimeBoot client pulls target token false)
              (log ++ rest) z ->
            forall post, post ∈ mutations rest ->
              post.1.action = actionPut ->
                post.1 = settingsRequest result.putProperties) := by
  constructor
  · rcases arming_split h with
      hnone | ⟨plan, previous, reads, rest, htoken, hplan, hlog, hreads, hrest⟩
    · exact Or.inl hnone
    · have hquiet : mutations reads = [] :=
        mutations_reading
          (Script.after_uses (readSettings_reads plan) hreads)
      rcases buildBootPlan_plan hplan with ⟨hname, hsource⟩
      cases checkMode with
      | true =>
          apply Or.inl
          rw [hlog, (Script.after_returned hrest).1, List.append_nil, hquiet]
      | false =>
          have hsent := (armAndObserve_issues client plan previous rest y
            hrest).1
          rw [hsource] at hsent
          exact Or.inr ⟨rfl, requireToken_some htoken, plan, previous, reads,
            rest, hplan, hname, hlog, hquiet, readFirst_of hreads, hsent⟩
  · intro hcheck result hy rest z hz post hpost hput
    rw [hcheck, hy] at h
    rcases checked_result h with
      ⟨plan, previous, htoken, hplan, hreads, hresult⟩
    have hrest := arming_after_reads htoken hplan hreads hz
    have hsent := (armAndObserve_issues client plan previous rest z hrest).1
    have hmem := hsent.order.subset (List.mem_map_of_mem hpost)
    rw [hresult]
    exact only_put hmem hput

end Sequence

/-!
## A run
-/

def leaf (name text : String) : Element where
  tag := name
  text := some text

def instanceOf (name : String) (members : List (String × String)) :
    Element where
  tag := name
  children := members.map fun member => leaf member.1 member.2

/-- A response that holds one element in its body. -/
def responseOf (content : Element) : Response where
  statusCode := 200
  text := ""
  document := Except.ok
    { tag := qualified soapNs "Envelope"
      children :=
        [{ tag := qualified soapNs "Body", children := [content] }] }

/-- An endpoint that supports booting from the network. -/
def pxeContent (request : Request) : Element :=
  if request.action = actionEnumerate then
    instanceOf "EnumerateResponse" [("EnumerationContext", "1")]
  else if request.action = actionPull then
    { tag := "PullResponse"
      children :=
        [{ tag := "Items"
           children :=
             [instanceOf "Item"
               [("InstanceID", "Intel(r) AMT: Force PXE Boot"),
                 ("ForcePXEBoot", "true")]] }] }
  else instanceOf "Output" [("ReturnValue", "0"), ("BIOSPause", "true")]

def pxeEndpoint (_ : Nat) : (o : WsmanOp) -> WsmanAnswer o
  | WsmanOp.post request => PostResult.response (responseOf (pxeContent request))
  | WsmanOp.sleep _ => ()
  | WsmanOp.connect _ _ => true

/-- What is posted when the endpoint is told to boot from the network. -/
def pxeLog : Log :=
  (Script.recorded pxeEndpoint 16 0
    (armOneTimeBoot ⟨"host:16993", 2⟩ 1 "pxe" (some "token") false)).1

theorem pxe_changes_in_order :
    (mutations pxeLog).length = 4 ∧
      exists plan previous reads rest,
        buildBootPlan "pxe" = Except.ok plan ∧ pxeLog = reads ++ rest ∧
          mutations reads = [] ∧
          Sent ⟨"host:16993", 2⟩
            (armRequests (bootSourceInstanceId plan.target)
              (buildPutProperties previous plan))
            (mutations rest) := by
  have hfour : (mutations pxeLog).length = 4 := by decide +kernel
  refine ⟨hfour, ?_⟩
  rcases (arming_changes_in_order
      (Script.after_recorded pxeEndpoint 16 0 _)).1 with
    hnone | ⟨_, _, plan, previous, reads, rest, hplan, _, hlog, hquiet, _,
      hsent⟩
  · rw [pxeLog, hnone] at hfour
    cases hfour
  · exact ⟨plan, previous, reads, rest, hplan, hlog, hquiet, hsent⟩

end AmtBoot
end IntelAmt
