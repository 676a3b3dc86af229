import IntelAmt.AmtBoot.Sequence
import IntelAmt.AmtLogClear.Module
import IntelAmt.AmtPower.Probes
import IntelAmt.AmtRedirection.Module
import IntelAmt.Wsman.AcceptedChange

/-!
# Accepted changes that are reported as failures

Four modules change something and read back what has become of it.  One of
them takes a failure of the reading back for what it is; the other three hand
it on as the failure of the module.
-/

namespace IntelAmt
namespace AmtModules

open Foundation Wsman

/-- The reading back was not refused, and where its last answer could be used,
it has brought enough. -/
def ReadsBack (client : Client) (tail : Log) (enough : Request -> Prop) :
    Prop :=
  forall request result, EndsWith tail request result ->
    refused client result = false ∧
      (usable client result = true -> enough request)

section Modules

variable {client : Client} {pulls : Nat} {tail : Log}

theorem readsBack_iff {alpha : Type} {enough : Request -> Prop}
    {request : Request} {result : PostResult} {y : WsmanScript alpha}
    (hlast : EndsWith tail request result)
    (hconcludes : Concludes client result y)
    (henough : usable client result = true -> enough request) :
    (forall error, y = Script.raised (Failure.amt error) ->
        error.indeterminate = true) ↔ ReadsBack client tail enough := by
  rw [concludes_plain_iff hconcludes]
  constructor
  · intro hrefused request' result' hother
    rcases endsWith_unique hlast hother with ⟨hrequest, hresult⟩
    rw [← hrequest, ← hresult]
    exact ⟨hrefused, henough⟩
  · intro hback
    exact (hback request result hlast).1

theorem readsBack_not {alpha : Type} {enough : Request -> Prop}
    {request : Request} {result : PostResult} {error : AmtError}
    {y : WsmanScript alpha} (hlast : EndsWith tail request result)
    (hy : y = Script.raised (Failure.amt error))
    (herror : error.indeterminate = false)
    (hnot : refused client result = false ->
      usable client result = true ∧ ¬ enough request) :
    (forall error, y = Script.raised (Failure.amt error) ->
        error.indeterminate = true) ↔ ReadsBack client tail enough := by
  apply iff_of_false
  · intro hall
    rw [hall error hy] at herror
    cases herror
  · intro hback
    rcases hback request result hlast with ⟨hrefused, henough⟩
    rcases hnot hrefused with ⟨husable, hmissing⟩
    exact hmissing (henough husable)

/-!
## The boot settings
-/

/-- The first three changes of an arming. -/
def firstChanges (client : Client) (properties : AmtBoot.Properties) :
    WsmanScript Instance := do
  let _ ← AmtBoot.changeBootOrder client Param.none
  let _ ← AmtBoot.putBootSettings client properties
  AmtBoot.setBootConfigRole client

theorem firstChanges_issues (properties : AmtBoot.Properties) :
    Issues client (firstChanges client properties)
      [AmtBoot.orderRequest none, AmtBoot.settingsRequest properties,
        AmtBoot.roleRequest] := by
  apply issues_bind (issues_of_changes (AmtBoot.clearBootOrder_changes client))
  intro _
  apply issues_bind
    (issues_of_changes (AmtBoot.putBootSettings_changes client properties))
  intro _
  exact issues_of_changes (AmtBoot.setBootConfigRole_changes client)

theorem armAndObserve_eq (plan : AmtBoot.BootPlan) (previous : Instance) :
    AmtBoot.armAndObserve client plan previous =
      firstChanges client (AmtBoot.buildPutProperties previous plan) >>=
        fun _ =>
          AmtBoot.changeBootOrder client (AmtBoot.sourceParam plan) >>=
            fun _ =>
              get client "AMT_BootSettingData" >>= fun observed =>
                Script.returned (AmtBoot.armed plan previous observed true) := by
  simp only [AmtBoot.armAndObserve, AmtBoot.armSteps, firstChanges,
    Script.bind_assoc, Script.pure_eq, Script.returned_bind]

theorem boot_plain_iff {target : String} {token : Option String}
    {checkMode : Bool} {ending : ModuleEnd AmtBoot.BootArmResult}
    (h : AcceptedThen client
      (AmtBoot.main client pulls target token checkMode) 3 tail ending) :
    NoPlainFailure ending ↔ ReadsBack client tail fun _ => True := by
  rcases h with
    ⟨before, request, result, hmain, hreads, hcount, haccepted⟩
  rcases after_caught hmain with ⟨y, hbody, hends⟩
  have hmore := mutations_behind result tail hreads hcount
  rw [hends.plain_iff]
  rcases AmtBoot.arming_split hbody with
    hnone | ⟨plan, previous, reads, rest, _, _, hlog, hsettings, hrest⟩
  · rw [hnone] at hmore
    cases hmore
  · have hquiet : mutations reads = [] :=
      mutations_reading
        (Script.after_uses (AmtBoot.readSettings_reads plan) hsettings)
    have hrestMore : 3 < (mutations rest).length := by
      rw [hlog, mutations_append, hquiet] at hmore
      exact hmore
    cases checkMode with
    | true =>
        rw [(Script.after_returned hrest).1] at hrestMore
        cases hrestMore
    | false =>
        have hsteps : Script.After
            (AmtBoot.armAndObserve client plan previous) rest y := hrest
        rw [armAndObserve_eq] at hsteps
        rcases after_first (firstChanges_issues _) hsteps hrestMore with
          ⟨begun, last, _, hsplit, _, hlast, hbegun⟩
        have hwhole : before ++ ⟨WsmanOp.post request, result⟩ :: tail =
            (reads ++ begun) ++ last := by
          rw [hlog, hsplit, List.append_assoc]
        have hthree : (mutations (reads ++ begun)).length =
            (mutations before).length := by
          rw [mutations_append, hquiet, List.nil_append, hbegun, hcount]
          rfl
        rcases after_accepted (AmtBoot.changeBootOrder_changes client plan)
            hlast hwhole hreads hthree haccepted with ⟨_, hback⟩
        rcases getThen_concludes rfl hback hends.ended with
          ⟨_, _, hends, _, _, hconcludes⟩
        exact readsBack_iff hends hconcludes fun _ => trivial

/-!
## The redirection service
-/

section Redirection

open AmtRedirection

theorem onlyCapabilities_ok {instances : List Value} {capabilities : Value}
    (h : onlyCapabilities instances = Except.ok capabilities) :
    instances = [capabilities] := by
  unfold onlyCapabilities at h
  split at h
  · cases h
    rfl
  · cases h

theorem onlyCapabilities_error {instances : List Value} {error : AmtError}
    (h : onlyCapabilities instances = Except.error error) :
    instances.length ≠ 1 ∧ error.indeterminate = false := by
  unfold onlyCapabilities at h
  split at h
  · cases h
  · rename_i hnot
    cases h
    refine ⟨?_, rfl⟩
    intro hone
    rcases List.length_eq_one_iff.mp hone with ⟨only, honly⟩
    exact hnot only honly

/-- What `get_capabilities` makes of the instances that were enumerated. -/
def capabilitiesOf (instances : List Value) :
    WsmanScript RedirectionCapabilities := do
  let capabilities ← ofAmt (onlyCapabilities instances)
  let ider ← ofOther (AmtBoot.getMember "IDER" capabilities)
  let sol ← ofOther (AmtBoot.getMember "SOL" capabilities)
  pure { iderSupported := truthy ider, solSupported := truthy sol }

theorem capabilitiesOf_ends {instances : List Value} {log : Log}
    {y : WsmanScript RedirectionCapabilities}
    (h : Script.After (capabilitiesOf instances) log y) :
    log = [] ∧
      ((instances.length ≠ 1 ∧ exists error : AmtError,
          y = Script.raised (Failure.amt error) ∧
            error.indeterminate = false) ∨
        (instances.length = 1 ∧ forall error,
          y ≠ Script.raised (Failure.amt error))) := by
  rw [capabilitiesOf] at h
  cases honly : onlyCapabilities instances with
  | error error =>
      rw [honly] at h
      rcases Script.after_raised h with ⟨hnil, hy⟩
      rcases onlyCapabilities_error honly with ⟨hlength, herror⟩
      exact ⟨hnil, Or.inl ⟨hlength, error, hy, herror⟩⟩
  | ok capabilities =>
      rw [honly] at h
      have hone : instances.length = 1 := by
        rw [onlyCapabilities_ok honly]
        rfl
      cases hider : AmtBoot.getMember "IDER" capabilities with
      | error e =>
          simp only [ofAmt, Script.returned_bind, hider] at h
          rcases Script.after_raised h with ⟨hnil, hy⟩
          refine ⟨hnil, Or.inr ⟨hone, fun error hraised => ?_⟩⟩
          cases hy.symm.trans hraised
      | ok ider =>
          cases hsol : AmtBoot.getMember "SOL" capabilities with
          | error e =>
              simp only [ofAmt, ofOther, Script.returned_bind, hider, hsol] at h
              rcases Script.after_raised h with ⟨hnil, hy⟩
              refine ⟨hnil, Or.inr ⟨hone, fun error hraised => ?_⟩⟩
              cases hy.symm.trans hraised
          | ok sol =>
              simp only [ofAmt, ofOther, Script.returned_bind, hider, hsol] at h
              rcases Script.after_returned h with ⟨hnil, hy⟩
              refine ⟨hnil, Or.inr ⟨hone, fun error hraised => ?_⟩⟩
              cases hy.symm.trans hraised

/-- How reading the capabilities ends, by the last answer and the number of
instances that have come. -/
theorem getCapabilities_ends {y : WsmanScript RedirectionCapabilities}
    {log : Log} (h : Script.After (getCapabilities client pulls) log y)
    (hended : y.ended = true) :
    exists request result, EndsWith log request result ∧
      ((usable client result = false ∧ Concludes client result y) ∨
        y = Script.raised Failure.waiting ∨
        (usable client result = true ∧ (pulled client log).length ≠ 1 ∧
          exists error : AmtError, y = Script.raised (Failure.amt error) ∧
            error.indeterminate = false) ∨
        (usable client result = true ∧ (pulled client log).length = 1 ∧
          forall error, y ≠ Script.raised (Failure.amt error))) := by
  have hsplit : Script.After
      (enumerate client pulls "AMT_BootCapabilities" >>= capabilitiesOf)
      log y := h
  rcases Script.after_bind_ended hsplit hended with
    ⟨e, hraised, hy⟩ | ⟨first, rest, instances, hlog, hinstances, hrest⟩
  · rcases (enumerate_concludes rfl hraised rfl).2 with
      ⟨request, result, hlast, _, hconcludes⟩
    refine ⟨request, result, hlast, ?_⟩
    rw [hy]
    cases e with
    | amt error => exact Or.inl ⟨hconcludes.not_usable, hconcludes.raised⟩
    | other e =>
        cases hconcludes with
        | crashed e hother =>
            refine Or.inl ⟨?_, Concludes.crashed e hother⟩
            rw [hother]
            rfl
    | waiting => exact Or.inr (Or.inl rfl)
  · rcases enumerate_concludes rfl hinstances rfl with
      ⟨hfound, request, result, hlast, _, hconcludes⟩
    rcases capabilitiesOf_ends hrest with ⟨hnil, hcases⟩
    rw [hfound instances rfl] at hcases
    rw [hlog, hnil, List.append_nil]
    cases hconcludes with
    | returned _ husable =>
        refine ⟨request, result, hlast, Or.inr (Or.inr ?_)⟩
        rcases hcases with ⟨hlength, herror⟩ | ⟨hlength, hnone⟩
        · exact Or.inl ⟨husable, hlength, herror⟩
        · exact Or.inr ⟨husable, hlength, hnone⟩

theorem probes_end {host : String} {log : Log}
    {y : WsmanScript (List (Nat × Bool))}
    (h : Script.After
      (probeTransportReachable host defaultRedirectionPorts) log y)
    (hended : y.ended = true) :
    (exists reachable, y = Script.returned reachable) ∧
      exists init port answer,
        log = init ++ [⟨WsmanOp.connect host port, answer⟩] := by
  rcases Script.after_call h with ⟨_, hy⟩ | ⟨first, rest, hlog, hrest⟩
  · rw [hy] at hended
    cases hended
  · rcases Script.after_call hrest with ⟨_, hy⟩ | ⟨second, last, hrestLog, hlast⟩
    · rw [hy] at hended
      cases hended
    · rcases Script.after_returned hlast with ⟨hnil, hy⟩
      rw [hlog, hrestLog, hnil, hy]
      exact ⟨⟨_, rfl⟩, [⟨WsmanOp.connect host 16994, first⟩], 16995, second,
        rfl⟩

theorem observeChanged_readsBack {host : String}
    {previous : Option StateName} {state : StateName}
    {y : WsmanScript RedirectionResult} {ending : ModuleEnd RedirectionResult}
    (h : Script.After (observeChanged client pulls host previous state) tail y)
    (hends : EndsAs y ending) :
    (forall error, y = Script.raised (Failure.amt error) ->
        error.indeterminate = true) ↔
      ReadsBack client tail fun _ => (pulled client tail).length = 1 := by
  have hsplit : Script.After
      (getCapabilities client pulls >>= fun capabilities =>
        getState client >>= fun service =>
          probeTransportReachable host defaultRedirectionPorts >>=
            fun reachable =>
              Script.returned
                { changed := true
                  previous := previous
                  desired := some state
                  status :=
                    { capabilities := capabilities
                      state := service
                      transportReachable := reachable } }) tail y := by
    simpa only [observeChanged, getStatus, Script.bind_assoc, Script.pure_eq,
      Script.returned_bind] using h
  rcases Script.after_bind_ended hsplit hends.ended with
    ⟨e, hraised, hy⟩ | ⟨first, rest, capabilities, hlog, hgot, hrest⟩
  · rcases getCapabilities_ends hraised rfl with
      ⟨request, result, hlast, hcases⟩
    rw [hy] at hends ⊢
    rcases hcases with ⟨hnot, hconcludes⟩ | hwaiting | ⟨husable, hlength, error,
      hfailed, herror⟩ | ⟨husable, hlength, hnone⟩
    · apply readsBack_iff hlast hconcludes.raised
      intro husable
      rw [hnot] at husable
      cases husable
    · cases hwaiting
      cases hends
    · cases hfailed
      exact readsBack_not hlast rfl herror fun _ => ⟨husable, hlength⟩
    · cases hends
      exact absurd rfl (hnone _)
  · rcases getCapabilities_ends hgot rfl with ⟨_, _, _, hcases⟩
    have hone : (pulled client first).length = 1 := by
      rcases hcases with ⟨hnot, hconcludes⟩ | hwaiting | ⟨_, _, error,
        hfailed, _⟩ | ⟨_, hlength, _⟩
      · cases hconcludes with
        | returned _ husable =>
            rw [husable] at hnot
            cases hnot
      · cases hwaiting
      · cases hfailed
      · exact hlength
    rcases Script.after_bind_ended hrest hends.ended with
      ⟨e, hraised, hy⟩ | ⟨second, last, service, hrestLog, hstate, hlast⟩
    · rcases getThen_concludes rfl hraised rfl with
        ⟨request, result, hends', _, hpulled, hconcludes⟩
      rw [hy, hlog]
      apply readsBack_iff hends'.behind hconcludes.raised
      intro _
      rw [pulled_append, hpulled, List.append_nil]
      exact hone
    · rcases Script.after_bind_ended hlast hends.ended with
        ⟨e, hraised, _⟩ | ⟨third, nothing, reachable, hlastLog, hprobes, hnil⟩
      · cases (probes_end hraised rfl).1.choose_spec
      · rcases (probes_end hprobes rfl).2 with ⟨init, port, answer, hthird⟩
        rcases Script.after_returned hnil with ⟨hnothing, hy⟩
        apply iff_of_true
        · intro error hraised
          cases hy.symm.trans hraised
        · intro request result hother
          rcases hother with ⟨start, hstart⟩
          rw [hlog, hrestLog, hlastLog, hthird, hnothing, List.append_nil,
            ← List.append_assoc, ← List.append_assoc] at hstart
          cases (List.append_inj' hstart rfl).2

theorem getStatus_reads (host : String) :
    Script.Uses Reading (getStatus client pulls host) := by
  apply Script.uses_bind
  · apply Script.uses_bind (uses_enumerate client _ _ _)
    intro instances
    apply Script.uses_bind (uses_ofAmt _)
    intro capabilities
    apply Script.uses_bind (uses_ofOther _)
    intro ider
    exact Script.uses_bind (uses_ofOther _) fun _ => trivial
  · intro capabilities
    apply Script.uses_bind
    · exact Script.uses_bind (uses_get client _ _) fun _ => trivial
    · intro service
      exact ⟨trivial, fun _ => ⟨trivial, fun _ => trivial⟩⟩

def stateUri : String :=
  "http://intel.com/wbem/wscim/1/amt-schema/1/AMT_RedirectionService"

theorem requestStateChange_changes (state : StateName) :
    Changes client (requestStateChange client state)
      (methodRequest "RequestStateChange" stateUri []
        [{ tag := qualified stateUri "RequestedState"
           text := some (toString state.enabledState) }]) := by
  have hmethod : IsMethod (methodRequest "RequestStateChange" stateUri [] []) := by
    decide +kernel
  exact invoke_changes rfl rfl hmethod

theorem redirection_plain_iff {host : String} {desired : Option StateName}
    {checkMode : Bool} {ending : ModuleEnd RedirectionResult}
    (h : AcceptedThen client
      (AmtRedirection.main client pulls host desired checkMode) 0 tail ending) :
    NoPlainFailure ending ↔
      ReadsBack client tail fun _ => (pulled client tail).length = 1 := by
  rcases h with
    ⟨before, request, result, hmain, hreads, hcount, haccepted⟩
  rcases after_caught hmain with ⟨y, hbody, hends⟩
  rw [hends.plain_iff]
  have hmore := mutations_behind result tail hreads hcount
  rcases after_reading (getStatus_reads host) hbody hmore with
    ⟨begun, last, status, hsplit, hbegun, hlast, hlastMore⟩
  have hnone : (mutations begun).length = (mutations before).length := by
    rw [hbegun, hcount]
    rfl
  have hquiet : forall {x : WsmanScript RedirectionResult},
      Script.After x last y -> Script.Uses Reading x -> False := by
    intro x hx huses
    rw [mutations_reading (Script.after_uses huses hx)] at hlastMore
    cases hlastMore
  cases desired with
  | none => exact (hquiet hlast trivial).elim
  | some state =>
      simp only [changeState] at hlast
      split at hlast
      · exact (hquiet hlast trivial).elim
      · cases hvalid : validateStateChange status.capabilities state with
        | error error =>
            rw [hvalid] at hlast
            exact (hquiet hlast trivial).elim
        | ok _ =>
            rw [hvalid] at hlast
            cases checkMode with
            | true => exact (hquiet hlast trivial).elim
            | false =>
                rcases after_accepted (requestStateChange_changes state)
                    hlast hsplit hreads hnone haccepted with ⟨_, hback⟩
                exact observeChanged_readsBack hback hends

end Redirection

/-!
## The event log
-/

section LogClear

open AmtLogClear

/-- Among the items is a dictionary that has an entry. -/
def HasInstance (items : List Value) : Prop :=
  exists entry entries, Value.members (entry :: entries) ∈ items

theorem firstInstance_isEmpty (items : List Value) :
    (firstInstance items).isEmpty = false ↔ HasInstance items := by
  induction items with
  | nil =>
      apply iff_of_false
      · exact fun h => by cases h
      · rintro ⟨_, _, hmem⟩
        cases hmem
  | cons item rest ih =>
      have hskip : (forall entry entries,
          item ≠ Value.members (entry :: entries)) ->
            (HasInstance rest ↔ HasInstance (item :: rest)) := by
        intro hnot
        constructor
        · rintro ⟨entry, entries, hmem⟩
          exact ⟨entry, entries, List.mem_cons_of_mem item hmem⟩
        · rintro ⟨entry, entries, hmem⟩
          rcases List.mem_cons.mp hmem with heq | hmem
          · exact absurd heq.symm (hnot entry entries)
          · exact ⟨entry, entries, hmem⟩
      cases item with
      | text s => exact ih.trans (hskip fun _ _ h => by cases h)
      | list items => exact ih.trans (hskip fun _ _ h => by cases h)
      | members entries =>
          cases entries with
          | nil => exact ih.trans (hskip fun _ _ h => by cases h)
          | cons entry entries =>
              exact iff_of_true rfl ⟨entry, entries, List.mem_cons_self⟩

theorem after_degrading {alpha : Type} {fallback : alpha}
    {x y : WsmanScript alpha} {log : Log}
    (h : Script.After (degrading fallback x) log y) (hended : y.ended = true) :
    (exists a, Script.After x log (Script.returned a) ∧
        y = Script.returned a) ∨
      (exists error : AmtError, degradable error = true ∧
        Script.After x log (Script.raised (Failure.amt error)) ∧
        y = Script.returned fallback) ∨
      (exists e, Script.After x log (Script.raised e) ∧
        y = Script.raised e) := by
  rcases Script.after_handle_ended h hended with
    ⟨a, hx, hy⟩ | ⟨first, rest, e, hlog, hx, hrest⟩
  · exact Or.inl ⟨a, hx, hy⟩
  · cases e with
    | other e =>
        rcases Script.after_raised hrest with ⟨hnil, hy⟩
        rw [hlog, hnil, List.append_nil]
        exact Or.inr (Or.inr ⟨_, hx, hy⟩)
    | waiting =>
        rcases Script.after_raised hrest with ⟨hnil, hy⟩
        rw [hlog, hnil, List.append_nil]
        exact Or.inr (Or.inr ⟨_, hx, hy⟩)
    | amt error =>
        cases hdegradable : degradable error with
        | true =>
            simp only [hdegradable, if_true] at hrest
            rcases Script.after_returned hrest with ⟨hnil, hy⟩
            rw [hlog, hnil, List.append_nil]
            exact Or.inr (Or.inl ⟨error, hdegradable, hx, hy⟩)
        | false =>
            simp only [hdegradable, Bool.false_eq_true, if_false] at hrest
            rcases Script.after_raised hrest with ⟨hnil, hy⟩
            rw [hlog, hnil, List.append_nil]
            exact Or.inr (Or.inr ⟨_, hx, hy⟩)

/-- The container was read, or an enumeration has brought it. -/
def FindsContainer (client : Client) (log : Log) (request : Request) : Prop :=
  request.action = actionGet ∨ HasInstance (pulled client log)

theorem fallback_readsBack {first rest : Log}
    {y : WsmanScript MessageLogProperties}
    {ending : ModuleEnd MessageLogProperties}
    (hfirst : pulled client first = [])
    (h : Script.After
      (enumeratedContainer client pulls >>= fun container =>
        ofAmt (propertiesOf client container)) rest y)
    (hends : EndsAs y ending) :
    (forall error, y = Script.raised (Failure.amt error) ->
        error.indeterminate = true) ↔
      ReadsBack client (first ++ rest)
        (FindsContainer client (first ++ rest)) := by
  have hsplit : Script.After
      (degrading [] (enumerate client pulls messageLogClass) >>=
        fun instances =>
          ofAmt (propertiesOf client (firstInstance instances))) rest y := by
    simpa only [enumeratedContainer, Script.bind_assoc, Script.pure_eq,
      Script.returned_bind] using h
  have hall : pulled client (first ++ rest) = pulled client rest := by
    rw [pulled_append, hfirst, List.nil_append]
  rcases Script.after_bind_ended hsplit hends.ended with
    ⟨e, hraised, hy⟩ | ⟨enumerated, last, instances, hlog, hgot, hlast⟩
  · rw [hy] at hends
    cases hends
    rcases after_degrading hraised rfl with
      ⟨_, _, habsurd⟩ | ⟨_, _, _, habsurd⟩ | ⟨e, hx, hsame⟩
    · cases habsurd
    · cases habsurd
    · cases hsame
      rcases (enumerate_concludes rfl hx rfl).2 with
        ⟨request, result, hlast, _, hconcludes⟩
      rw [hy]
      apply readsBack_iff hlast.behind hconcludes.raised
      intro husable
      rw [hconcludes.not_usable] at husable
      cases husable
  · rcases Script.after_ended (ofAmt_ended _) hlast with ⟨hnil, hy⟩
    have hrest : rest = enumerated := by
      rw [hlog, hnil, List.append_nil]
    rw [hrest] at hall ⊢
    have hmissing : (firstInstance instances).isEmpty = true ->
        y = Script.raised (Failure.amt (unavailable client)) := by
      intro hempty
      rw [hy, propertiesOf, if_pos hempty]
      rfl
    rcases after_degrading hgot rfl with
      ⟨found, hx, hsame⟩ | ⟨error, hdegradable, hx, hsame⟩ | ⟨_, _, habsurd⟩
    · cases hsame
      rcases enumerate_concludes rfl hx rfl with
        ⟨hbrought, request, result, hlast, haction, hconcludes⟩
      have husable := hconcludes.usable_of_returned
      cases hempty : (firstInstance instances).isEmpty with
      | true =>
          apply readsBack_not hlast.behind (hmissing hempty) rfl
          intro _
          refine ⟨husable, ?_⟩
          rintro (hget | hhas)
          · exact haction hget
          · rw [hall, ← hbrought instances rfl,
              ← firstInstance_isEmpty, hempty] at hhas
            cases hhas
      | false =>
          have hreturned : Concludes client result y := by
            rw [hy, propertiesOf, if_neg (by rw [hempty]; decide)]
            exact Concludes.returned _ husable
          apply readsBack_iff hlast.behind hreturned
          intro _
          apply Or.inr
          rw [hall, ← hbrought instances rfl, ← firstInstance_isEmpty]
          exact hempty
    · cases hsame
      rcases (enumerate_concludes rfl hx rfl).2 with
        ⟨request, result, hlast, _, hconcludes⟩
      apply readsBack_not hlast.behind (hmissing rfl) rfl
      intro hrefused
      cases hconcludes with
      | refused _ hlast' _ =>
          rw [hrefused] at hlast'
          cases hlast'
      | unanswered _ _ => cases hdegradable
    · cases habsurd

theorem getLogProperties_readsBack {y : WsmanScript MessageLogProperties}
    {ending : ModuleEnd MessageLogProperties}
    (h : Script.After (getLogProperties client pulls) tail y)
    (hends : EndsAs y ending) :
    (forall error, y = Script.raised (Failure.amt error) ->
        error.indeterminate = true) ↔
      ReadsBack client tail (FindsContainer client tail) := by
  rcases Script.after_bind_ended h hends.ended with
    ⟨e, hraised, hy⟩ | ⟨first, rest, got, hlog, hgot, hrest⟩
  · rcases after_degrading hraised rfl with
      ⟨_, _, habsurd⟩ | ⟨_, _, _, habsurd⟩ | ⟨e, hx, hsame⟩
    · cases habsurd
    · cases habsurd
    · cases hsame
      rcases get_concludes rfl hx rfl with
        ⟨request, result, hlast, haction, _, hconcludes⟩
      rw [hy]
      exact readsBack_iff hlast hconcludes.raised fun _ => Or.inl haction
  · have hquiet : pulled client first = [] := by
      rcases after_degrading hgot rfl with
        ⟨_, hx, _⟩ | ⟨_, _, hx, _⟩ | ⟨_, _, habsurd⟩
      · exact (get_concludes rfl hx rfl).choose_spec.choose_spec.2.2.1
      · exact (get_concludes rfl hx rfl).choose_spec.choose_spec.2.2.1
      · cases habsurd
    cases hempty : got.isEmpty with
    | true =>
        rw [hempty] at hrest
        rw [hlog]
        exact fallback_readsBack hquiet hrest hends
    | false =>
        rw [hempty] at hrest
        rcases after_degrading hgot rfl with
          ⟨_, hx, hsame⟩ | ⟨_, _, _, hsame⟩ | ⟨_, _, habsurd⟩
        · cases hsame
          rcases get_concludes rfl hx rfl with
            ⟨request, result, hlast, haction, _, hconcludes⟩
          have husable := hconcludes.usable_of_returned
          have hreturned : Script.After
              (ofAmt (propertiesOf client got)) rest y := hrest
          rcases Script.after_ended (ofAmt_ended _) hreturned with ⟨hnil, hy⟩
          rw [hlog, hnil, List.append_nil, hy, propertiesOf,
            if_neg (by rw [hempty]; decide)]
          exact readsBack_iff hlast (Concludes.returned _ husable)
            fun _ => Or.inl haction
        · cases hsame
          cases hempty
        · cases habsurd

theorem observeCleared_readsBack {properties : MessageLogProperties}
    {y : WsmanScript ClearResult} {ending : ModuleEnd ClearResult}
    (h : Script.After (observeCleared client pulls properties) tail y)
    (hends : EndsAs y ending) :
    (forall error, y = Script.raised (Failure.amt error) ->
        error.indeterminate = true) ↔
      ReadsBack client tail (FindsContainer client tail) := by
  rcases Script.after_bind_ended h hends.ended with
    ⟨e, hraised, hy⟩ | ⟨first, rest, observed, hlog, hgot, hrest⟩
  · rw [hy] at hends ⊢
    cases hends with
    | raised error =>
        rw [← getLogProperties_readsBack hraised (EndsAs.raised error)]
        constructor
        · intro hall found hfound
          cases hfound
          exact hall error rfl
        · intro hall found hfound
          cases hfound
          exact hall error rfl
  · rcases Script.after_returned hrest with ⟨hnil, hy⟩
    have hback := getLogProperties_readsBack hgot (EndsAs.returned observed)
    rw [hlog, hnil, List.append_nil, hy, ← hback]
    exact iff_of_true (fun _ hraised => by cases hraised)
      (fun _ hraised => by cases hraised)

def messageLogUri : String :=
  "http://intel.com/wbem/wscim/1/amt-schema/1/AMT_MessageLog"

theorem clearLog_changes :
    Changes client (clearLog client)
      (methodRequest "ClearLog" messageLogUri [] []) :=
  invoke_changes rfl rfl (by decide +kernel)

theorem logClear_plain_iff {confirmDestructive checkMode : Bool}
    {ending : ModuleEnd ClearResult}
    (h : AcceptedThen client
      (AmtLogClear.main client pulls confirmDestructive checkMode) 0 tail
      ending) :
    NoPlainFailure ending ↔
      ReadsBack client tail (FindsContainer client tail) := by
  rcases h with
    ⟨before, request, result, hmain, hreads, hcount, haccepted⟩
  rcases after_caught hmain with ⟨y, hbody, hends⟩
  rw [hends.plain_iff]
  have hmore := mutations_behind result tail hreads hcount
  rcases after_reading (uses_ofAmt _) hbody hmore with
    ⟨start, behind, _, hstart, hquiet, hbehind, hbehindMore⟩
  rcases after_reading getLogProperties_reads hbehind hbehindMore with
    ⟨begun, last, properties, hsplit, hbegun, hlast, hlastMore⟩
  cases hclear : plan properties.currentNumberOfRecords && !checkMode with
  | false =>
      rw [hclear] at hlast
      rw [(Script.after_returned hlast).1] at hlastMore
      cases hlastMore
  | true =>
      rw [hclear] at hlast
      rcases after_first_accepted clearLog_changes hlast hstart hquiet hsplit
          hbegun hreads hcount haccepted with ⟨_, hback⟩
      exact observeCleared_readsBack hback hends

end LogClear

/-!
## Power
-/

section Power

open AmtPower Models

theorem probeUpTo_raises (expected : String) (left : Nat)
    (observed : Option PowerState) (probes : List PowerState) :
    Script.Raises NotAmt (probeUpTo client expected left observed probes) := by
  induction left generalizing observed probes with
  | zero => trivial
  | succ left ih =>
      intro _
      apply Script.raises_bind (caught_raises _)
      intro probe
      cases probe with
      | error _ => exact ih _ _
      | ok state =>
          by_cases hreached : state.normalized = expected
          · simp only [hreached, if_true]
            trivial
          · simp only [hreached, if_false]
            exact ih _ _

theorem power_no_plain_failure {state : Option PowerAction}
    {checkMode : Bool} {ending : ModuleEnd PowerReceipt}
    (h : AcceptedThen client (AmtPower.main client state checkMode) 0 tail
      ending) : NoPlainFailure ending := by
  rcases h with
    ⟨before, request, result, hmain, hreads, hcount, haccepted⟩
  rcases after_caught hmain with ⟨y, hbody, hends⟩
  rw [hends.plain_iff]
  have hmore := mutations_behind result tail hreads hcount
  rcases after_reading getPowerState_reads hbody hmore with
    ⟨start, behind, previous, hstart, hquiet, hbehind, hbehindMore⟩
  have hnothing : forall {x : WsmanScript PowerReceipt},
      Script.After x behind y -> Script.Uses Reading x -> False := by
    intro x hx huses
    rw [mutations_reading (Script.after_uses huses hx)] at hbehindMore
    cases hbehindMore
  cases state with
  | none => exact (hnothing hbehind trivial).elim
  | some action =>
      cases hsend : (plan (some action) previous.normalized).1 &&
          !checkMode with
      | false =>
          simp only [hsend, Bool.false_eq_true, if_false] at hbehind
          exact (hnothing hbehind trivial).elim
      | true =>
          simp only [hsend, if_true] at hbehind
          rcases after_reading getPowerState_reads hbehind hbehindMore with
            ⟨begun, last, again, hsplit, hbegun, hlast, _⟩
          rcases after_first_accepted (requestPowerStateChange_changes action)
              hlast hstart hquiet hsplit hbegun hreads hcount haccepted with
            ⟨_, hback⟩
          have hraises : Script.Raises NotAmt y := by
            apply Script.raises_after hback
            apply Script.raises_bind (probeUpTo_raises _ _ _ _)
            exact fun _ => trivial
          intro error hy
          rw [hy] at hraises
          exact hraises.elim

end Power

/-!
## The four modules
-/

end Modules

/-- Behind a change that the firmware has accepted, the module of the power
states never fails; the other three fail as nothing but a failure when their
reading back is refused or brings too little, and only then. -/
theorem accepted_change_plain_failure_iff (client : Client) (pulls : Nat)
    (tail : Log) :
    (forall target token checkMode ending,
      AcceptedThen client
          (AmtBoot.main client pulls target token checkMode) 3 tail ending ->
        (NoPlainFailure ending ↔ ReadsBack client tail fun _ => True)) ∧
      (forall confirmDestructive checkMode ending,
        AcceptedThen client
            (AmtLogClear.main client pulls confirmDestructive checkMode) 0
            tail ending ->
          (NoPlainFailure ending ↔
            ReadsBack client tail (FindsContainer client tail))) ∧
      (forall host desired checkMode ending,
        AcceptedThen client
            (AmtRedirection.main client pulls host desired checkMode) 0 tail
            ending ->
          (NoPlainFailure ending ↔
            ReadsBack client tail fun _ =>
              (pulled client tail).length = 1)) ∧
      (forall state checkMode ending,
        AcceptedThen client (AmtPower.main client state checkMode) 0 tail
            ending -> NoPlainFailure ending) := by
  refine ⟨?_, ?_, ?_, ?_⟩
  · intro target token checkMode ending h
    exact boot_plain_iff h
  · intro confirmDestructive checkMode ending h
    exact logClear_plain_iff h
  · intro host desired checkMode ending h
    exact redirection_plain_iff h
  · intro state checkMode ending h
    exact power_no_plain_failure h


/-!
## Two runs
-/

section Runs

variable {alpha : Type}

/-- The exchange at a position is a change that the firmware has accepted. -/
def acceptedAt (client : Client) (position earlier : Nat) (log : Log) : Bool :=
  match log.drop position with
  | ⟨WsmanOp.post request, result⟩ :: _ =>
      !request.reads &&
        (mutations (log.take position)).length = earlier &&
        (match bodyOf client result with
          | some body => extractReturnValue (singleInstance body) = 0
          | none => false)
  | _ => false

theorem acceptedThen_of_run {client : Client}
    {module : WsmanScript (ModuleEnd alpha)} {position earlier : Nat}
    {log : Log} {ending : ModuleEnd alpha}
    (hrun : Script.After module log (Script.returned ending))
    (haccepted : acceptedAt client position earlier log = true) :
    AcceptedThen client module earlier (log.drop (position + 1)) ending := by
  unfold acceptedAt at haccepted
  split at haccepted
  · rename_i request result rest hdrop
    have hlog : log = log.take position ++
        ⟨WsmanOp.post request, result⟩ :: log.drop (position + 1) := by
      have hrest : log.drop (position + 1) = rest := by
        rw [← List.drop_drop, hdrop]
        rfl
      rw [hrest, ← hdrop, List.take_append_drop]
    simp only [Bool.and_eq_true, Bool.not_eq_true', decide_eq_true_eq]
      at haccepted
    rcases haccepted with ⟨⟨hreads, hcount⟩, hbody⟩
    rw [hlog] at hrun
    refine ⟨_, request, result, hrun, hreads, hcount, ?_⟩
    split at hbody
    · rename_i body hfound
      cases result with
      | response response =>
          have hsome : (handleResponse client "" response).toOption =
              some body := hfound
          cases hresponse : handleResponse client "" response with
          | error e =>
              rw [hresponse] at hsome
              cases hsome
          | ok found =>
              rw [hresponse] at hsome
              cases hsome
              exact ⟨"", response, body, rfl, hresponse,
                Or.inr (of_decide_eq_true hbody)⟩
      | _ => cases hfound
    · cases hbody
  · cases haccepted

/-- The module has failed as nothing but a failure. -/
def failedPlainly : WsmanScript (ModuleEnd alpha) -> Bool
  | Script.returned (Except.error error) => !error.indeterminate
  | _ => false

def succeeded : WsmanScript (ModuleEnd alpha) -> Bool
  | Script.returned (Except.ok _) => true
  | _ => false

def logClient : Client := ⟨"host:16993", 2⟩

/-- An endpoint with five records that accepts the clearing, and what it
answers from then on. -/
def logEndpoint (back : PostResult) (position : Nat) :
    (o : WsmanOp) -> WsmanAnswer o
  | WsmanOp.post _ =>
      if position < 2 then
        PostResult.response
          (AmtBoot.responseOf
            (AmtBoot.instanceOf "Output"
              [("CurrentNumberOfRecords", "5"), ("ReturnValue", "0")]))
      else back
  | WsmanOp.sleep _ => ()
  | WsmanOp.connect _ _ => true

/-- A clearing from its start to its end. -/
def clearing (back : PostResult) :
    Log × WsmanScript (ModuleEnd AmtLogClear.ClearResult) :=
  Script.recorded (logEndpoint back) 8 0
    (AmtLogClear.main logClient 1 true false)

/-- The log was cleared, and then there was no connection any more. -/
theorem cleared_log_reported_failed :
    exists tail ending,
      AcceptedThen logClient (AmtLogClear.main logClient 1 true false) 0 tail
          ending ∧ ¬ NoPlainFailure ending := by
  have hafter : Script.After (AmtLogClear.main logClient 1 true false)
      (clearing (PostResult.connectionError "refused")).1
      (clearing (PostResult.connectionError "refused")).2 :=
    Script.after_recorded _ _ _ _
  have haccepted : acceptedAt logClient 1 0
      (clearing (PostResult.connectionError "refused")).1 = true := by
    decide +kernel
  have hfailed : failedPlainly
      (clearing (PostResult.connectionError "refused")).2 = true := by
    decide +kernel
  cases hend : (clearing (PostResult.connectionError "refused")).2 with
  | returned ending =>
      rw [hend] at hafter hfailed
      cases ending with
      | ok result => cases hfailed
      | error error =>
          refine ⟨_, _, acceptedThen_of_run hafter haccepted, ?_⟩
          intro hall
          rw [failedPlainly, hall error rfl] at hfailed
          cases hfailed
  | raised e =>
      rw [hend] at hfailed
      cases hfailed
  | call o next =>
      rw [hend] at hfailed
      cases hfailed

/-- The log was cleared, and it was read back. -/
theorem cleared_log_read_back :
    exists tail ending,
      AcceptedThen logClient (AmtLogClear.main logClient 1 true false) 0 tail
          ending ∧
        NoPlainFailure ending ∧
        ReadsBack logClient tail (FindsContainer logClient tail) := by
  let back : PostResult :=
    PostResult.response
      (AmtBoot.responseOf
        (AmtBoot.instanceOf "Output" [("CurrentNumberOfRecords", "0")]))
  have hafter : Script.After (AmtLogClear.main logClient 1 true false)
      (clearing back).1 (clearing back).2 := Script.after_recorded _ _ _ _
  have haccepted : acceptedAt logClient 1 0 (clearing back).1 = true := by
    decide +kernel
  have hsucceeded : succeeded (clearing back).2 = true := by
    decide +kernel
  cases hend : (clearing back).2 with
  | returned ending =>
      rw [hend] at hafter hsucceeded
      cases ending with
      | error error => cases hsucceeded
      | ok result =>
          have hthen := acceptedThen_of_run hafter haccepted
          have hno : NoPlainFailure
              (Except.ok result : ModuleEnd AmtLogClear.ClearResult) :=
            fun _ hfailed => by cases hfailed
          exact ⟨_, _, hthen, hno,
            ((accepted_change_plain_failure_iff logClient 1 _).2.1 true false
              _ hthen).mp hno⟩
  | raised e =>
      rw [hend] at hsucceeded
      cases hsucceeded
  | call o next =>
      rw [hend] at hsucceeded
      cases hsucceeded

end Runs
end AmtModules
end IntelAmt
