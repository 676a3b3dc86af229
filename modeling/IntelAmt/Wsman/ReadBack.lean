import IntelAmt.Wsman.Posts

/-!
# Reading back

How a call that reads ends, as the last answer it was given tells, and where
in a transcript the reading back behind an accepted change begins.
-/

namespace IntelAmt
namespace Wsman

open Foundation

section Answers

variable (client : Client)

/-- The body of an answer, if it can be used. -/
def bodyOf : PostResult -> Option Element
  | PostResult.response response =>
      (handleResponse client "" response).toOption
  | _ => none

def usable (result : PostResult) : Bool := (bodyOf client result).isSome

/-- An answer that is reported as a failure, and as nothing else: there was no
connection, or what came back cannot be used. -/
def refused : PostResult -> Bool
  | PostResult.sslError _ => true
  | PostResult.connectTimeout => true
  | PostResult.connectionError _ => true
  | PostResult.response response => !usable client (PostResult.response response)
  | _ => false

/-- The items that the answer to a Pull brings. -/
def itemsIn : Exchange WsmanAnswer -> List Value
  | ⟨WsmanOp.post request, result⟩ =>
      if request.action = actionPull then
        match bodyOf client result with
        | some page => pageItems page
        | none => []
      else []
  | _ => []

def pulled (log : Log) : List Value := log.flatMap (itemsIn client)

theorem pulled_append (first rest : Log) :
    pulled client (first ++ rest) =
      pulled client first ++ pulled client rest :=
  List.flatMap_append

end Answers

/-- How a reading call has ended, by the last answer that it was given. -/
inductive Concludes {alpha : Type} (client : Client) (last : PostResult) :
    WsmanScript alpha -> Prop where
  | returned (a : alpha) (hlast : usable client last = true) :
      Concludes client last (Script.returned a)
  | refused (error : AmtError) (hlast : refused client last = true)
      (herror : error.indeterminate = false) :
      Concludes client last (Script.raised (Failure.amt error))
  | unanswered (operation : String) (hlast : last = PostResult.readTimeout) :
      Concludes client last
        (Script.raised (Failure.amt (readTimeoutError client operation)))
  | crashed (e : OtherError) (hlast : last = PostResult.otherError) :
      Concludes client last (Script.raised (Failure.other e))
  | waiting (hlast : usable client last = true) :
      Concludes client last (Script.raised Failure.waiting)

section Calls

variable {client : Client} {alpha beta : Type} {log : Log}

theorem raiseForFault_indeterminate {operation : String} {response : Response}
    {body : Element} {error : AmtError}
    (h : raiseForFault client operation response body = Except.error error) :
    error.indeterminate = false := by
  rw [raiseForFault] at h
  split at h
  · cases h
  · cases h
    rfl

theorem handleResponse_indeterminate {operation : String} {response : Response}
    {error : AmtError}
    (h : handleResponse client operation response = Except.error error) :
    error.indeterminate = false := by
  simp only [handleResponse] at h
  split at h
  · cases h
    rfl
  · split at h
    · cases h
      rfl
    · split at h
      · cases h
        rfl
      · split at h
        · cases h
          rfl
        · split at h
          · cases h
            rfl
          · rename_i body _
            cases hfault : raiseForFault client operation response body with
            | error e =>
                rw [hfault] at h
                cases h
                exact raiseForFault_indeterminate hfault
            | ok _ =>
                rw [hfault] at h
                cases h

theorem handleResponse_operation (operation other : String)
    (response : Response) :
    (handleResponse client operation response).toOption =
      (handleResponse client other response).toOption := by
  simp only [handleResponse]
  split
  · rfl
  · split
    · rfl
    · split
      · rfl
      · split
        · rfl
        · split
          · rfl
          · rename_i body _
            simp only [raiseForFault]
            split
            · rfl
            · rfl

theorem settle_ended (operation : String) (result : PostResult) :
    (settle client operation raiseAmt result).ended = true := by
  cases result with
  | response response =>
      rw [settle]
      cases handleResponse client operation response <;> rfl
  | _ => rfl

theorem settle_concludes (operation : String) (result : PostResult) :
    Concludes client result (settle client operation raiseAmt result) := by
  cases result with
  | readTimeout => exact Concludes.unanswered operation rfl
  | sslError _ => exact Concludes.refused _ rfl rfl
  | connectTimeout => exact Concludes.refused _ rfl rfl
  | connectionError _ => exact Concludes.refused _ rfl rfl
  | otherError => exact Concludes.crashed _ rfl
  | response response =>
      have hbody : bodyOf client (PostResult.response response) =
          (handleResponse client operation response).toOption :=
        handleResponse_operation _ _ _
      rw [settle]
      cases hresult : handleResponse client operation response with
      | error e =>
          rw [hresult] at hbody
          apply Concludes.refused e
          · rw [refused, usable, hbody]
            rfl
          · exact handleResponse_indeterminate hresult
      | ok body =>
          rw [hresult] at hbody
          apply Concludes.returned body
          rw [usable, hbody]
          rfl

theorem settle_returned {operation : String} {result : PostResult}
    {body : Element}
    (h : settle client operation raiseAmt result = Script.returned body) :
    bodyOf client result = some body := by
  cases result with
  | response response =>
      rw [settle] at h
      rw [bodyOf, handleResponse_operation "" operation]
      cases hresult : handleResponse client operation response with
      | error e =>
          rw [hresult] at h
          cases h
      | ok found =>
          rw [hresult] at h
          cases h
          rfl
  | _ => cases h

/-- A request that is repeated after failures to connect ends with the last
answer, and the others have brought nothing. -/
theorem postUpTo_ends {request : Request} {operation : String} {left : Nat}
    {y : WsmanScript Element}
    (h : Script.After (postUpTo client request operation left) log y)
    (hended : y.ended = true) :
    exists init result,
      log = init ++ [⟨WsmanOp.post request, result⟩] ∧
        pulled client init = [] ∧
        y = settle client operation raiseAmt result := by
  induction left generalizing log with
  | zero =>
      rcases Script.after_call h with ⟨_, hy⟩ | ⟨result, rest, hlog, hrest⟩
      · rw [hy] at hended
        cases hended
      · rcases Script.after_ended (settle_ended operation result) hrest with
          ⟨hnil, hy⟩
        rw [hlog, hnil]
        exact ⟨[], result, rfl, rfl, hy⟩
  | succ left ih =>
      rcases Script.after_call h with ⟨_, hy⟩ | ⟨result, rest, hlog, hrest⟩
      · rw [hy] at hended
        cases hended
      · have hsettled : Script.After
            (settle client operation
              (fun _ => postUpTo client request operation left) result)
            rest y := hrest
        have hlast : settle client operation
            (fun _ => postUpTo client request operation left) result =
              settle client operation raiseAmt result ->
            exists init last,
              log = init ++ [⟨WsmanOp.post request, last⟩] ∧
                pulled client init = [] ∧
                y = settle client operation raiseAmt last := by
          intro hsettle
          rw [hsettle] at hsettled
          rcases Script.after_ended (settle_ended operation result)
              hsettled with
            ⟨hnil, hy⟩
          rw [hlog, hnil]
          exact ⟨[], result, rfl, rfl, hy⟩
        have hagain : bodyOf client result = none ->
            Script.After (postUpTo client request operation left) rest y ->
            exists init last,
              log = init ++ [⟨WsmanOp.post request, last⟩] ∧
                pulled client init = [] ∧
                y = settle client operation raiseAmt last := by
          intro hbody hafter
          rcases ih hafter with ⟨init, last, hinit, hpulled, hy⟩
          refine ⟨⟨WsmanOp.post request, result⟩ :: init, last, ?_, ?_, hy⟩
          · rw [hlog, hinit]
            rfl
          · have hnone :
                itemsIn client ⟨WsmanOp.post request, result⟩ = [] := by
              simp [itemsIn, hbody]
            rw [pulled, List.flatMap_cons, hnone]
            exact hpulled
        cases result with
        | connectTimeout => exact hagain rfl hrest
        | connectionError _ => exact hagain rfl hrest
        | readTimeout => exact hlast rfl
        | sslError _ => exact hlast rfl
        | otherError => exact hlast rfl
        | response _ => exact hlast rfl

theorem usable_not_refused {result : PostResult}
    (h : usable client result = true) : refused client result = false := by
  cases result with
  | response response =>
      rw [refused, h]
      rfl
  | _ => cases h

/-- A reading call fails as nothing but a failure when its last answer was
refused, and only then. -/
theorem concludes_plain_iff {last : PostResult} {y : WsmanScript alpha}
    (h : Concludes client last y) :
    (forall error, y = Script.raised (Failure.amt error) ->
        error.indeterminate = true) ↔ refused client last = false := by
  cases h with
  | returned a hlast =>
      exact iff_of_true (fun _ hy => by cases hy) (usable_not_refused hlast)
  | refused error hlast herror =>
      apply iff_of_false
      · intro hall
        rw [hall error rfl] at herror
        cases herror
      · rw [hlast]
        exact fun h => by cases h
  | unanswered operation hlast =>
      apply iff_of_true
      · intro error hy
        cases hy
        rfl
      · rw [hlast]
        rfl
  | crashed e hlast =>
      apply iff_of_true (fun _ hy => by cases hy)
      rw [hlast]
      rfl
  | waiting hlast =>
      exact iff_of_true (fun _ hy => by cases hy) (usable_not_refused hlast)

theorem Concludes.not_usable {last : PostResult} {error : AmtError}
    (h : Concludes client last
      (Script.raised (Failure.amt error) : WsmanScript alpha)) :
    usable client last = false := by
  cases h with
  | refused error hlast herror =>
      cases husable : usable client last with
      | false => rfl
      | true =>
          rw [usable_not_refused husable] at hlast
          cases hlast
  | unanswered operation hlast =>
      rw [hlast]
      rfl

theorem Concludes.usable_of_returned {last : PostResult} {a : alpha}
    (h : Concludes client last (Script.returned a : WsmanScript alpha)) :
    usable client last = true := by
  cases h with
  | returned a hlast => exact hlast

theorem Concludes.raised {last : PostResult} {e : Failure}
    (h : Concludes client last (Script.raised e : WsmanScript alpha)) :
    Concludes client last (Script.raised e : WsmanScript beta) := by
  cases h with
  | refused error hlast herror => exact Concludes.refused error hlast herror
  | unanswered operation hlast => exact Concludes.unanswered operation hlast
  | crashed e hlast => exact Concludes.crashed e hlast
  | waiting hlast => exact Concludes.waiting hlast

/-- The last exchange of a transcript is this one. -/
def EndsWith (log : Log) (request : Request) (result : PostResult) : Prop :=
  exists init, log = init ++ [⟨WsmanOp.post request, result⟩]

theorem endsWith_unique {request other : Request} {result last : PostResult}
    (h : EndsWith log request result) (hother : EndsWith log other last) :
    request = other ∧ result = last := by
  rcases h with ⟨init, hinit⟩
  rcases hother with ⟨start, hstart⟩
  rw [hinit] at hstart
  cases (List.append_inj' hstart rfl).2
  exact ⟨rfl, rfl⟩

theorem EndsWith.behind {first rest : Log} {request : Request}
    {result : PostResult} (h : EndsWith rest request result) :
    EndsWith (first ++ rest) request result := by
  rcases h with ⟨init, hinit⟩
  refine ⟨first ++ init, ?_⟩
  rw [hinit, List.append_assoc]

theorem execute_concludes {request : Request} {operation : String}
    {retryable : Bool} {y : WsmanScript Element}
    (h : Script.After (execute client request operation retryable) log y)
    (hended : y.ended = true) :
    exists result, EndsWith log request result ∧ Concludes client result y ∧
      (request.action ≠ actionPull -> pulled client log = []) ∧
      forall body, y = Script.returned body ->
        bodyOf client result = some body ∧
          (request.action = actionPull ->
            pulled client log = pageItems body) := by
  rcases postUpTo_ends h hended with ⟨init, result, hlog, hpulled, hy⟩
  have hbrings : pulled client log =
      itemsIn client ⟨WsmanOp.post request, result⟩ := by
    rw [hlog, pulled_append, hpulled]
    exact List.append_nil _
  have hconcludes : Concludes client result
      (settle client operation raiseAmt result) :=
    settle_concludes operation result
  rw [← hy] at hconcludes
  refine ⟨result, ⟨init, hlog⟩, hconcludes, ?_, ?_⟩
  · intro haction
    rw [hbrings]
    exact if_neg haction
  · intro body hbody
    have hfound := settle_returned (hy.symm.trans hbody)
    refine ⟨hfound, ?_⟩
    intro haction
    rw [hbrings]
    simp only [itemsIn, if_pos haction, hfound]

theorem get_concludes {resourceClass uri : String}
    {selectors : List (String × String)} {y : WsmanScript Instance}
    (huri : resourceUri resourceClass = Except.ok uri)
    (h : Script.After (get client resourceClass selectors) log y)
    (hended : y.ended = true) :
    exists request result, EndsWith log request result ∧
      request.action = actionGet ∧ pulled client log = [] ∧
      Concludes client result y := by
  have haction : actionGet ≠ actionPull := by decide +kernel
  rw [get, huri] at h
  rcases Script.after_bind_ended
      (x := execute client (getRequest uri selectors) _ true) h hended with
    ⟨e, hraised, hy⟩ | ⟨first, rest, body, hlog, hbody, hrest⟩
  · rcases execute_concludes hraised rfl with
      ⟨result, hlast, hconcludes, hquiet, _⟩
    rw [hy]
    exact ⟨_, result, hlast, rfl, hquiet haction, hconcludes.raised⟩
  · rcases execute_concludes hbody rfl with
      ⟨result, hlast, _, hquiet, hreturned⟩
    rcases Script.after_returned hrest with ⟨hnil, hy⟩
    have husable : usable client result = true := by
      rw [usable, (hreturned body rfl).1]
      rfl
    rw [hlog, hnil, List.append_nil, hy]
    exact ⟨_, result, hlast, rfl, hquiet haction,
      Concludes.returned _ husable⟩

theorem getThen_concludes {resourceClass uri : String}
    {selectors : List (String × String)} {f : Instance -> alpha}
    {y : WsmanScript alpha} (huri : resourceUri resourceClass = Except.ok uri)
    (h : Script.After
      (get client resourceClass selectors >>= fun found =>
        Script.returned (f found)) log y) (hended : y.ended = true) :
    exists request result, EndsWith log request result ∧
      request.action = actionGet ∧ pulled client log = [] ∧
      Concludes client result y := by
  rcases Script.after_bind_ended h hended with
    ⟨e, hraised, hy⟩ | ⟨first, rest, found, hlog, hgot, hrest⟩
  · rcases get_concludes huri hraised rfl with
      ⟨request, result, hlast, haction, hpulled, hconcludes⟩
    rw [hy]
    exact ⟨request, result, hlast, haction, hpulled, hconcludes.raised⟩
  · rcases get_concludes huri hgot rfl with
      ⟨request, result, hlast, haction, hpulled, hconcludes⟩
    rcases Script.after_returned hrest with ⟨hnil, hy⟩
    rw [hlog, hnil, List.append_nil, hy]
    cases hconcludes with
    | returned _ husable =>
        exact ⟨request, result, hlast, haction, hpulled,
          Concludes.returned _ husable⟩

theorem pullFrom_concludes {resourceClass uri : String} {pulls : Nat}
    {context : Option String} {items : List Value}
    {y : WsmanScript (List Value)}
    (h : Script.After (pullFrom client resourceClass uri pulls context items)
      log y) (hended : y.ended = true) :
    (forall found, y = Script.returned found ->
        found = items ++ pulled client log) ∧
      ((log = [] ∧
          (y = Script.returned items ∨ y = Script.raised Failure.waiting)) ∨
        exists request result, EndsWith log request result ∧
          request.action = actionPull ∧ Concludes client result y) := by
  induction pulls generalizing context items log with
  | zero =>
      cases context with
      | none =>
          rcases Script.after_returned h with ⟨hnil, hy⟩
          rw [hnil, hy]
          refine ⟨?_, Or.inl ⟨rfl, Or.inl rfl⟩⟩
          intro found hfound
          cases hfound
          exact (List.append_nil items).symm
      | some _ =>
          rcases Script.after_raised h with ⟨hnil, hy⟩
          rw [hnil, hy]
          exact ⟨(fun _ hfound => by cases hfound), Or.inl ⟨rfl, Or.inr rfl⟩⟩
  | succ pulls ih =>
      cases context with
      | none =>
          rcases Script.after_returned h with ⟨hnil, hy⟩
          rw [hnil, hy]
          refine ⟨?_, Or.inl ⟨rfl, Or.inl rfl⟩⟩
          intro found hfound
          cases hfound
          exact (List.append_nil items).symm
      | some context =>
          rcases Script.after_bind_ended
              (x := execute client (pullRequest uri context) _ true) h
              hended with
            ⟨e, hraised, hy⟩ | ⟨first, rest, page, hlog, hpage, hrest⟩
          · rcases execute_concludes hraised rfl with
              ⟨result, hlast, hconcludes, _, _⟩
            rw [hy]
            exact ⟨(fun _ hfound => by cases hfound),
              Or.inr ⟨_, result, hlast, rfl, hconcludes.raised⟩⟩
          · rcases execute_concludes hpage rfl with
              ⟨result, hlast, _, _, hreturned⟩
            have hbrings := (hreturned page rfl).2 rfl
            have husable : usable client result = true := by
              rw [usable, (hreturned page rfl).1]
              rfl
            rcases ih hrest with ⟨hfound, hcases⟩
            rw [hlog]
            constructor
            · intro found hy
              rw [pulled_append, hbrings, ← List.append_assoc]
              exact hfound found hy
            · apply Or.inr
              rcases hcases with
                ⟨hnil, hy | hy⟩ | ⟨request, last, hends, haction, hconcludes⟩
              · rw [hnil, List.append_nil, hy]
                exact ⟨_, result, hlast, rfl, Concludes.returned _ husable⟩
              · rw [hnil, List.append_nil, hy]
                exact ⟨_, result, hlast, rfl, Concludes.waiting husable⟩
              · exact ⟨request, last, hends.behind, haction, hconcludes⟩

theorem enumerate_concludes {resourceClass uri : String} {pulls : Nat}
    {selectors : List (String × String)} {y : WsmanScript (List Value)}
    (huri : resourceUri resourceClass = Except.ok uri)
    (h : Script.After (enumerate client pulls resourceClass selectors) log y)
    (hended : y.ended = true) :
    (forall found, y = Script.returned found -> found = pulled client log) ∧
      exists request result, EndsWith log request result ∧
        request.action ≠ actionGet ∧ Concludes client result y := by
  have hpull : actionEnumerate ≠ actionPull := by decide +kernel
  have hget : actionEnumerate ≠ actionGet := by decide +kernel
  have hpullGet : actionPull ≠ actionGet := by decide +kernel
  rw [enumerate, huri] at h
  rcases Script.after_bind_ended
      (x := execute client (enumerateRequest uri selectors) _ true) h
      hended with
    ⟨e, hraised, hy⟩ | ⟨first, rest, body, hlog, hbody, hrest⟩
  · rcases execute_concludes hraised rfl with
      ⟨result, hlast, hconcludes, _, _⟩
    rw [hy]
    exact ⟨(fun _ hfound => by cases hfound), _, result, hlast, hget,
      hconcludes.raised⟩
  · rcases execute_concludes hbody rfl with
      ⟨result, hlast, _, hquiet, hreturned⟩
    have husable : usable client result = true := by
      rw [usable, (hreturned body rfl).1]
      rfl
    rcases pullFrom_concludes hrest hended with ⟨hfound, hcases⟩
    rw [hlog]
    constructor
    · intro found hy
      rw [pulled_append, hquiet hpull]
      exact hfound found hy
    · rcases hcases with
        ⟨hnil, hy | hy⟩ | ⟨request, last, hends, haction, hconcludes⟩
      · rw [hnil, List.append_nil, hy]
        exact ⟨_, result, hlast, hget, Concludes.returned _ husable⟩
      · rw [hnil, List.append_nil, hy]
        exact ⟨_, result, hlast, hget, Concludes.waiting husable⟩
      · refine ⟨request, last, hends.behind, ?_, hconcludes⟩
        rw [haction]
        exact hpullGet

end Calls
end Wsman
end IntelAmt
