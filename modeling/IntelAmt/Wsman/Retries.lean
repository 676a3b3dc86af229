import IntelAmt.Wsman.ReadBack

/-!
# Attempts

Which posts a call hands over and how often, and what its outcome has to do
with the last of them.
-/

namespace IntelAmt
namespace Wsman

open Foundation

/-!
## Calls
-/

/-- A call of the client.  An enumeration is followed for a number of Pulls. -/
inductive Call where
  | get (resourceClass : String) (selectors : List (String × String))
  | put (resourceClass : String) (properties : List (String × Param))
      (selectors : List (String × String))
  | enumerate (pulls : Nat) (resourceClass : String)
      (selectors : List (String × String))
  | invoke (resourceClass methodName : String)
      (params : List (String × Param)) (selectors : List (String × String))

@[reducible] def Call.Result : Call -> Type
  | Call.enumerate _ _ _ => List Value
  | _ => Instance

def Call.run (client : Client) : (call : Call) -> WsmanScript call.Result
  | Call.get resourceClass selectors =>
      Wsman.get client resourceClass selectors
  | Call.put resourceClass properties selectors =>
      Wsman.put client resourceClass properties selectors
  | Call.enumerate pulls resourceClass selectors =>
      Wsman.enumerate client pulls resourceClass selectors
  | Call.invoke resourceClass methodName params selectors =>
      Wsman.invoke client resourceClass methodName params selectors

/-- A Put or a method. -/
def Call.mutates : Call -> Bool
  | Call.put _ _ _ => true
  | Call.invoke _ _ _ _ => true
  | _ => false

def Call.enumerates : Call -> Bool
  | Call.enumerate _ _ _ => true
  | _ => false

/-- How often one request of a call may be handed over. -/
def Call.limit (client : Client) (call : Call) : Nat :=
  if call.mutates then 1 else client.maxRetries.toNat + 1

/-!
## The posts of one request
-/

/-- A request and how its posts have ended. -/
structure Tries where
  request : Request
  operation : String
  results : List PostResult

def Tries.posts (tries : Tries) : Log :=
  tries.results.map fun result => ⟨WsmanOp.post tries.request, result⟩

/-- Failures to connect. -/
def PostResult.unconnected : PostResult -> Bool
  | PostResult.connectTimeout => true
  | PostResult.connectionError _ => true
  | _ => false

/-- No more than so many posts, and one more only after a failure to
connect. -/
structure Tries.Within (limit : Nat) (tries : Tries) : Prop where
  posted : tries.results ≠ []
  count : tries.results.length ≤ limit
  again : forall result, result ∈ tries.results.dropLast ->
    result.unconnected = true

/-- The last post settles what becomes of the request. -/
def Tries.Ends (client : Client) (tries : Tries)
    (y : WsmanScript Element) : Prop :=
  exists last, tries.results.getLast? = some last ∧
    y = settle client tries.operation raiseAmt last

section Posts

variable {client : Client} {request : Request} {operation : String}
variable {alpha : Type} {log : Log}

theorem settle_of_connected {result : PostResult}
    (h : result.unconnected = false)
    (retry : AmtError -> WsmanScript Element) :
    settle client operation retry result =
      settle client operation raiseAmt result := by
  cases result with
  | connectTimeout => cases h
  | connectionError _ => cases h
  | _ => rfl

theorem settle_of_unconnected {result : PostResult}
    (h : result.unconnected = true) (x : WsmanScript Element) :
    settle client operation (fun _ => x) result = x := by
  cases result with
  | connectTimeout => rfl
  | connectionError _ => rfl
  | _ => cases h

theorem within_once {limit : Nat} (result : PostResult) :
    Tries.Within (limit + 1) ⟨request, operation, [result]⟩ := by
  constructor
  · exact List.cons_ne_nil _ _
  · exact Nat.le_add_left 1 limit
  · exact fun _ hmem => nomatch hmem

theorem Tries.Within.after {limit : Nat} {results : List PostResult}
    {result : PostResult} (hresult : result.unconnected = true)
    (h : Tries.Within limit ⟨request, operation, results⟩) :
    Tries.Within (limit + 1) ⟨request, operation, result :: results⟩ := by
  constructor
  · exact List.cons_ne_nil _ _
  · exact Nat.succ_le_succ h.count
  · intro other hmem
    rw [List.dropLast_cons_of_ne_nil h.posted] at hmem
    rcases List.mem_cons.mp hmem with heq | hmem
    · rw [heq]
      exact hresult
    · exact h.again other hmem

theorem postUpTo_tries {left : Nat} {y : WsmanScript Element}
    (h : Script.After (postUpTo client request operation left) log y) :
    (log = [] ∧ y.ended = false) ∨
      exists results, log = Tries.posts ⟨request, operation, results⟩ ∧
        Tries.Within (left + 1) ⟨request, operation, results⟩ ∧
        (y.ended = true ->
          Tries.Ends client ⟨request, operation, results⟩ y) := by
  induction left generalizing log with
  | zero =>
      rcases Script.after_call h with ⟨hlog, hy⟩ | ⟨result, rest, hlog, hrest⟩
      · rw [hy]
        exact Or.inl ⟨hlog, rfl⟩
      · rcases Script.after_ended (settle_ended operation result) hrest with
          ⟨hnil, hy⟩
        rw [hlog, hnil]
        exact Or.inr ⟨[result], rfl, within_once result,
          fun _ => ⟨result, rfl, hy⟩⟩
  | succ left ih =>
      rcases Script.after_call h with ⟨hlog, hy⟩ | ⟨result, rest, hlog, hrest⟩
      · rw [hy]
        exact Or.inl ⟨hlog, rfl⟩
      · apply Or.inr
        have hsettled : Script.After
            (settle client operation
              (fun _ => postUpTo client request operation left) result)
            rest y := hrest
        cases hresult : result.unconnected with
        | false =>
            rw [settle_of_connected hresult] at hsettled
            rcases Script.after_ended (settle_ended operation result)
                hsettled with
              ⟨hnil, hy⟩
            rw [hlog, hnil]
            exact ⟨[result], rfl, within_once result,
              fun _ => ⟨result, rfl, hy⟩⟩
        | true =>
            rw [settle_of_unconnected hresult] at hsettled
            rcases ih hsettled with
              ⟨hnil, hy⟩ | ⟨results, hposts, hwithin, hends⟩
            · rw [hlog, hnil]
              refine ⟨[result], rfl, within_once result, ?_⟩
              intro hended
              rw [hy] at hended
              cases hended
            · refine ⟨result :: results, ?_, hwithin.after hresult, ?_⟩
              · rw [hlog, hposts]
                rfl
              · intro hended
                rcases hends hended with ⟨last, hlast, hsettle⟩
                refine ⟨last, ?_, hsettle⟩
                change (result :: results).getLast? = some last
                rw [List.getLast?_cons, hlast]
                rfl

theorem execute_then_tries {retryable : Bool}
    {judge : Element -> WsmanScript alpha} {y : WsmanScript alpha}
    (h : Script.After
      (execute client request operation retryable >>= judge) log y) :
    (log = [] ∧ y.ended = false) ∨ exists (tries : Tries) (rest : Log),
      log = tries.posts ++ rest ∧ tries.request = request ∧
        tries.Within
          (if retryable then client.maxRetries.toNat + 1 else 1) ∧
        ((rest = [] ∧ y.ended = false) ∨
          (rest = [] ∧ exists e, tries.Ends client (Script.raised e) ∧
            y = Script.raised e) ∨
          exists body, tries.Ends client (Script.returned body) ∧
            Script.After (judge body) rest y) := by
  have hlimit : (if retryable then client.maxRetries.toNat else 0) + 1 =
      if retryable then client.maxRetries.toNat + 1 else 1 := by
    cases retryable <;> rfl
  rcases Script.after_bind h with ⟨x, hx, hy⟩ | ⟨first, rest, a, hlog, hx, ha⟩
  · rcases postUpTo_tries hx with ⟨hnil, hx'⟩ | ⟨results, hposts, hwithin, hends⟩
    · cases x with
      | call o next =>
          rw [hy]
          exact Or.inl ⟨hnil, rfl⟩
      | _ => cases hx'
    · rw [hlimit] at hwithin
      refine Or.inr ⟨_, [], ?_, rfl, hwithin, ?_⟩
      · rw [List.append_nil]
        exact hposts
      · cases x with
        | returned body =>
            rw [hy]
            exact Or.inr (Or.inr ⟨body, hends rfl, Script.After.here _⟩)
        | raised e =>
            rw [hy]
            exact Or.inr (Or.inl ⟨rfl, e, hends rfl, rfl⟩)
        | call o next =>
            rw [hy]
            exact Or.inl ⟨rfl, rfl⟩
  · rcases postUpTo_tries hx with ⟨_, hx'⟩ | ⟨results, hposts, hwithin, hends⟩
    · cases hx'
    · rw [hlimit] at hwithin
      refine Or.inr ⟨_, rest, ?_, rfl, hwithin, ?_⟩
      · rw [hlog, hposts]
      · exact Or.inr (Or.inr ⟨a, hends rfl, ha⟩)

end Posts

/-!
## The posts of a call
-/

/-- The posts of a call: those of one request after those of the other, and
another request only when the one before it has got through. -/
structure Retried (client : Client) (limit : Nat) (log : Log)
    (tries : List Tries) : Prop where
  posts : log = tries.flatMap Tries.posts
  within : forall t, t ∈ tries -> t.Within limit
  through : forall t, t ∈ tries.dropLast ->
    exists body, t.Ends client (Script.returned body)

section Calls

variable {client : Client} {limit : Nat} {log : Log}

theorem retried_nil : Retried client limit [] [] :=
  ⟨rfl, (fun _ hmem => nomatch hmem), fun _ hmem => nomatch hmem⟩

theorem retried_one {t : Tries} (h : t.Within limit) :
    Retried client limit t.posts [t] := by
  constructor
  · exact (List.append_nil _).symm
  · intro other hmem
    rw [List.mem_singleton.mp hmem]
    exact h
  · exact fun _ hmem => nomatch hmem

theorem Retried.cons {t : Tries} {tries : List Tries} {body : Element}
    (ht : t.Within limit) (hends : t.Ends client (Script.returned body))
    (h : Retried client limit log tries) :
    Retried client limit (t.posts ++ log) (t :: tries) := by
  constructor
  · rw [List.flatMap_cons, ← h.posts]
  · intro other hmem
    rcases List.mem_cons.mp hmem with heq | hmem
    · rw [heq]
      exact ht
    · exact h.within other hmem
  · intro other hmem
    cases tries with
    | nil => cases hmem
    | cons next rest =>
        rcases List.mem_cons.mp hmem with heq | hmem
        · rw [heq]
          exact ⟨body, hends⟩
        · exact h.through other hmem

/-- How a script ends that has settled a request last. -/
inductive Settled {alpha : Type} (client : Client) (t : Tries)
    (makes : Element -> WsmanScript alpha -> Prop) :
    WsmanScript alpha -> Prop where
  | raised (e : Failure) (h : t.Ends client (Script.raised e)) :
      Settled client t makes (Script.raised e)
  | made (body : Element) (y : WsmanScript alpha)
      (h : t.Ends client (Script.returned body)) (hmakes : makes body y) :
      Settled client t makes y

/-- What a call makes of the last body that it was given. -/
def Call.Makes (client : Client) (log : Log) (body : Element) :
    (call : Call) -> WsmanScript call.Result -> Prop
  | Call.get _ _, y => y = Script.returned (singleInstance body)
  | Call.put _ _ _, y => y = Script.returned (singleInstance body)
  | Call.enumerate _ _ _, y =>
      y = Script.returned (pulled client log) ∨
        y = Script.raised Failure.waiting
  | Call.invoke resourceClass methodName _ _, y =>
      y = ofAmt
        (methodOutput client (resourceClass ++ "." ++ methodName) body)

/-- What a call hands over and how it ends: nothing but an enumeration has
more than one request, which are Pulls from the second one on. -/
structure CallRetried (client : Client) (call : Call) (log : Log)
    (y : WsmanScript call.Result) (tries : List Tries) : Prop
    extends Retried client (call.limit client) log tries where
  once : call.mutates = true -> log.length ≤ 1
  single : call.enumerates = false -> tries.length ≤ 1
  pulls : forall t, t ∈ tries.tail -> t.request.action = actionPull
  outcome : y.ended = true ->
    (tries = [] ∧ exists e, y = Script.raised (Failure.other e)) ∨
      exists t, tries.getLast? = some t ∧
        Settled client t (call.Makes client log) y

theorem Tries.Within.length_posts {t : Tries} (h : t.Within limit) :
    t.posts.length ≤ limit := by
  rw [Tries.posts, List.length_map]
  exact h.count

theorem callRetried_unposted {call : Call} {y : WsmanScript call.Result}
    (hlog : log = []) (h : y.ended = true ->
      exists e, y = Script.raised (Failure.other e)) :
    CallRetried client call log y [] := by
  rw [hlog]
  exact
    { retried_nil with
      once := fun _ => Nat.zero_le 1
      single := fun _ => Nat.zero_le 1
      pulls := fun _ hmem => nomatch hmem
      outcome := fun hended => Or.inl ⟨rfl, h hended⟩ }

theorem callRetried_ofOther {call : Call} {alpha : Type}
    {result : Except OtherError alpha}
    {next : alpha -> WsmanScript call.Result} {y : WsmanScript call.Result}
    (h : Script.After (ofOther result >>= next) log y)
    (hnext : forall a, result = Except.ok a -> Script.After (next a) log y ->
      exists tries, CallRetried client call log y tries) :
    exists tries, CallRetried client call log y tries := by
  cases result with
  | error e =>
      rcases Script.after_raised h with ⟨hlog, hy⟩
      exact ⟨[], callRetried_unposted hlog fun _ => ⟨e, hy⟩⟩
  | ok a => exact hnext a rfl h

theorem callRetried_single {call : Call} {request : Request}
    {operation : String} {judge : Element -> WsmanScript call.Result}
    {y : WsmanScript call.Result}
    (h : Script.After
      (execute client request operation (!call.mutates) >>= judge) log y)
    (hjudge : forall body, (judge body).ended = true ∧
      call.Makes client log body (judge body)) :
    exists tries, CallRetried client call log y tries := by
  have hlimit : (if !call.mutates then client.maxRetries.toNat + 1 else 1) =
      call.limit client := by
    rw [Call.limit]
    cases call.mutates <;> rfl
  rcases execute_then_tries h with
    ⟨hnil, hy⟩ | ⟨t, rest, hlog, _, hwithin, hcases⟩
  · refine ⟨[], callRetried_unposted hnil ?_⟩
    rw [hy]
    exact fun hended => nomatch hended
  · rw [hlimit] at hwithin
    have honly : forall (hrest : rest = [])
        (hout : y.ended = true ->
          Settled client t (call.Makes client log) y),
        exists tries, CallRetried client call log y tries := by
      intro hrest hout
      rw [hrest, List.append_nil] at hlog
      rw [hlog] at hout ⊢
      refine ⟨[t],
        { retried_one hwithin with
          once := ?_
          single := fun _ => Nat.le_refl 1
          pulls := fun _ hmem => nomatch hmem
          outcome := fun hended => Or.inr ⟨t, rfl, hout hended⟩ }⟩
      intro hmutates
      have hcount := hwithin.length_posts
      rw [Call.limit, hmutates] at hcount
      exact hcount
    rcases hcases with
      ⟨hnil, hy⟩ | ⟨hnil, e, hends, hy⟩ | ⟨body, hends, hafter⟩
    · apply honly hnil
      rw [hy]
      exact fun hended => nomatch hended
    · apply honly hnil
      rw [hy]
      exact fun _ => Settled.raised e hends
    · rcases hjudge body with ⟨hended, hmakes⟩
      rcases Script.after_ended hended hafter with ⟨hnil, hy⟩
      apply honly hnil
      rw [hy]
      exact fun _ => Settled.made body _ hends hmakes

/-- The Pulls behind a request that has got through, and how they end. -/
structure PullsRetried (client : Client) (first : Tries) (log : Log)
    (y : WsmanScript (List Value)) (tries : List Tries) : Prop
    extends Retried client (client.maxRetries.toNat + 1) (first.posts ++ log)
      (first :: tries) where
  pulls : forall t, t ∈ tries -> t.request.action = actionPull
  outcome : y.ended = true -> exists t, (first :: tries).getLast? = some t ∧
    Settled client t
      (fun _ y => (exists found, y = Script.returned found) ∨
        y = Script.raised Failure.waiting) y

section Pulls

variable {first : Tries} {body : Element} {y : WsmanScript (List Value)}
variable (hfirst : first.Within (client.maxRetries.toNat + 1))
variable (hends : first.Ends client (Script.returned body))

include hfirst hends

theorem pullsRetried_none (hlog : log = [])
    (hy : y.ended = true -> (exists found, y = Script.returned found) ∨
      y = Script.raised Failure.waiting) :
    PullsRetried client first log y [] := by
  rw [hlog]
  have hretried : Retried client (client.maxRetries.toNat + 1) first.posts
      [first] :=
    retried_one hfirst
  rw [← List.append_nil first.posts] at hretried
  exact
    { hretried with
      pulls := fun _ hmem => nomatch hmem
      outcome := fun hended =>
        ⟨first, rfl, Settled.made body y hends (hy hended)⟩ }

theorem pullsRetried_last {t : Tries}
    (hwithin : t.Within (client.maxRetries.toNat + 1))
    (haction : t.request.action = actionPull)
    (hy : y.ended = true -> exists e, t.Ends client (Script.raised e) ∧
      y = Script.raised e) :
    PullsRetried client first t.posts y [t] := by
  refine
    { Retried.cons hfirst hends (retried_one hwithin) with
      pulls := ?_
      outcome := ?_ }
  · intro other hmem
    rw [List.mem_singleton.mp hmem]
    exact haction
  · intro hended
    rcases hy hended with ⟨e, hlast, hraised⟩
    rw [hraised]
    exact ⟨t, rfl, Settled.raised e hlast⟩

theorem PullsRetried.cons {t : Tries} {tries : List Tries}
    (haction : t.request.action = actionPull)
    (h : PullsRetried client t log y tries) :
    PullsRetried client first (t.posts ++ log) y (t :: tries) := by
  refine
    { Retried.cons hfirst hends h.toRetried with
      pulls := ?_
      outcome := ?_ }
  · intro other hmem
    rcases List.mem_cons.mp hmem with heq | hmem
    · rw [heq]
      exact haction
    · exact h.pulls other hmem
  · intro hended
    rw [List.getLast?_cons_cons]
    exact h.outcome hended

end Pulls

theorem pullFrom_retried {resourceClass uri : String} {pulls : Nat}
    {context : Option String} {items : List Value}
    {y : WsmanScript (List Value)} {first : Tries} {body : Element}
    (hfirst : first.Within (client.maxRetries.toNat + 1))
    (hends : first.Ends client (Script.returned body))
    (h : Script.After (pullFrom client resourceClass uri pulls context items)
      log y) :
    exists tries, PullsRetried client first log y tries := by
  induction pulls generalizing context items log first body with
  | zero =>
      cases context with
      | none =>
          rcases Script.after_returned h with ⟨hlog, hy⟩
          exact ⟨[], pullsRetried_none hfirst hends hlog
            fun _ => Or.inl ⟨items, hy⟩⟩
      | some _ =>
          rcases Script.after_raised h with ⟨hlog, hy⟩
          exact ⟨[], pullsRetried_none hfirst hends hlog fun _ => Or.inr hy⟩
  | succ pulls ih =>
      cases context with
      | none =>
          rcases Script.after_returned h with ⟨hlog, hy⟩
          exact ⟨[], pullsRetried_none hfirst hends hlog
            fun _ => Or.inl ⟨items, hy⟩⟩
      | some context =>
          rcases execute_then_tries h with
            ⟨hlog, hy⟩ | ⟨t, rest, hlog, hrequest, hwithin, hcases⟩
          · refine ⟨[], pullsRetried_none hfirst hends hlog ?_⟩
            rw [hy]
            exact fun hended => nomatch hended
          · have haction : t.request.action = actionPull := by
              rw [hrequest]
              rfl
            have hlast : rest = [] -> (y.ended = true ->
                exists e, t.Ends client (Script.raised e) ∧
                  y = Script.raised e) ->
                exists tries, PullsRetried client first log y tries := by
              intro hrest hy
              rw [hlog, hrest, List.append_nil]
              exact ⟨[t], pullsRetried_last hfirst hends hwithin haction hy⟩
            rcases hcases with
              ⟨hrest, hy⟩ | ⟨hrest, e, hraised, hy⟩ | ⟨page, hpage, hafter⟩
            · apply hlast hrest
              rw [hy]
              exact fun hended => nomatch hended
            · exact hlast hrest fun _ => ⟨e, hraised, hy⟩
            · rcases ih hwithin hpage hafter with ⟨tries, htries⟩
              rw [hlog]
              exact ⟨t :: tries, htries.cons hfirst hends haction⟩

theorem callRetried_first {pulls : Nat} {resourceClass : String}
    {selectors : List (String × String)} {y : WsmanScript (List Value)}
    {t : Tries} (hwithin : t.Within (client.maxRetries.toNat + 1))
    (hy : y.ended = true -> exists e, t.Ends client (Script.raised e) ∧
      y = Script.raised e) :
    CallRetried client (Call.enumerate pulls resourceClass selectors)
      t.posts y [t] := by
  refine
    { retried_one hwithin with
      once := fun hmutates => nomatch hmutates
      single := fun henumerates => nomatch henumerates
      pulls := fun _ hmem => nomatch hmem
      outcome := ?_ }
  intro hended
  rcases hy hended with ⟨e, hlast, hraised⟩
  rw [hraised]
  exact Or.inr ⟨t, rfl, Settled.raised e hlast⟩

theorem PullsRetried.enumerates {pulls : Nat} {resourceClass : String}
    {selectors : List (String × String)} {y : WsmanScript (List Value)}
    {first : Tries} {rest : Log} {tries : List Tries}
    (h : PullsRetried client first rest y tries)
    (hfound : forall found, y = Script.returned found ->
      found = pulled client (first.posts ++ rest)) :
    CallRetried client (Call.enumerate pulls resourceClass selectors)
      (first.posts ++ rest) y (first :: tries) := by
  refine
    { h.toRetried with
      once := fun hmutates => nomatch hmutates
      single := fun henumerates => nomatch henumerates
      pulls := h.pulls
      outcome := ?_ }
  intro hended
  rcases h.outcome hended with ⟨t, hlast, hsettled⟩
  refine Or.inr ⟨t, hlast, ?_⟩
  cases hsettled with
  | raised e hends => exact Settled.raised e hends
  | made body _ hends hmakes =>
      apply Settled.made body _ hends
      rcases hmakes with ⟨found, hy⟩ | hy
      · rw [hfound found hy] at hy
        exact Or.inl hy
      · exact Or.inr hy

/-- Whatever the posts end in: every call hands its requests over no more
often than it may, another time only after a failure to connect, and ends as
the last post tells. -/
theorem calls_retried (call : Call) {y : WsmanScript call.Result}
    (h : Script.After (call.run client) log y) :
    exists tries, CallRetried client call log y tries := by
  cases call with
  | get resourceClass selectors =>
      apply callRetried_ofOther h
      intro uri _ hafter
      exact callRetried_single hafter fun body => ⟨rfl, rfl⟩
  | put resourceClass properties selectors =>
      apply callRetried_ofOther h
      intro uri _ hafter
      apply callRetried_ofOther hafter
      intro children _ hafter
      exact callRetried_single hafter fun body => ⟨rfl, rfl⟩
  | invoke resourceClass methodName params selectors =>
      apply callRetried_ofOther h
      intro uri _ hafter
      apply callRetried_ofOther hafter
      intro children _ hafter
      exact callRetried_single hafter fun body => ⟨ofAmt_ended _, rfl⟩
  | enumerate pulls resourceClass selectors =>
      apply callRetried_ofOther h
      intro uri huri hafter
      rcases execute_then_tries hafter with
        ⟨hlog, hy⟩ | ⟨t, rest, hlog, _, hwithin, hcases⟩
      · refine ⟨[], callRetried_unposted hlog ?_⟩
        rw [hy]
        exact fun hended => nomatch hended
      · have hlast : rest = [] -> (y.ended = true ->
            exists e, t.Ends client (Script.raised e) ∧
              y = Script.raised e) ->
            exists tries, CallRetried client
              (Call.enumerate pulls resourceClass selectors) log y tries := by
          intro hrest hy
          rw [hlog, hrest, List.append_nil]
          exact ⟨[t], callRetried_first hwithin hy⟩
        rcases hcases with
          ⟨hrest, hy⟩ | ⟨hrest, e, hraised, hy⟩ | ⟨body, hbody, hpulls⟩
        · apply hlast hrest
          rw [hy]
          exact fun hended => nomatch hended
        · exact hlast hrest fun _ => ⟨e, hraised, hy⟩
        · rcases pullFrom_retried hwithin hbody hpulls with ⟨tries, htries⟩
          refine ⟨t :: tries, ?_⟩
          rw [hlog] at h ⊢
          apply htries.enumerates
          intro found hy
          have hended : y.ended = true := by
            rw [hy]
            rfl
          exact (enumerate_concludes huri h hended).1 found hy

/-- A Get that is repeated after a failure to connect, and not after a read
timeout. -/
theorem get_retried :
    exists tries, CallRetried { endpoint := "h:16993" }
      (Call.get "AMT_GeneralSettings" [])
      [⟨WsmanOp.post (getRequest
          "http://intel.com/wbem/wscim/1/amt-schema/1/AMT_GeneralSettings" []),
          PostResult.connectTimeout⟩,
        ⟨WsmanOp.post (getRequest
          "http://intel.com/wbem/wscim/1/amt-schema/1/AMT_GeneralSettings" []),
          PostResult.readTimeout⟩]
      (Script.raised (Failure.amt
        (readTimeoutError { endpoint := "h:16993" }
          "Get AMT_GeneralSettings"))) tries :=
  calls_retried _
    (Script.After.call (Script.After.call (Script.After.here _)))

end Calls

/-!
## Changes that may have been made
-/

def PostResult.fails : PostResult -> Bool
  | PostResult.response _ => false
  | _ => true

/-- An exchange that fails: whether some of the request may have been
transmitted by then, and how `requests` reports the failure. -/
structure FailedExchange where
  transmitted : Bool
  reported : PostResult
  failed : reported.fails = true

/-- The outcome tells that a change may have been made if some of the request
may have been transmitted, and denies it only if none was. -/
structure Flagged {alpha : Type} (exchange : FailedExchange)
    (y : WsmanScript alpha) : Prop where
  uncertain : exchange.transmitted = true ->
    exists error, y = Script.raised (Failure.amt error) ∧
      error.indeterminate = true
  certain : forall error, y = Script.raised (Failure.amt error) ->
    error.indeterminate = false -> exchange.transmitted = false

section Changes

variable {client : Client} {alpha beta : Type} {log : Log}

theorem after_ofOther_posted {result : Except OtherError alpha}
    {next : alpha -> WsmanScript beta} {exchange : Exchange WsmanAnswer}
    {y : WsmanScript beta}
    (h : Script.After (ofOther result >>= next) (exchange :: log) y) :
    exists a, Script.After (next a) (exchange :: log) y := by
  cases result with
  | error e => cases (Script.after_raised h).1
  | ok a => exact ⟨a, h⟩

theorem settle_failed (client : Client) {result : PostResult}
    (h : result.fails = true) (operation : String) :
    exists e, settle client operation raiseAmt result = Script.raised e := by
  cases result with
  | response _ => cases h
  | _ => exact ⟨_, rfl⟩

theorem execute_failed {request posted : Request} {operation : String}
    {result : PostResult} {judge : Element -> WsmanScript alpha}
    {y : WsmanScript alpha} (hfails : result.fails = true)
    (h : Script.After (execute client request operation false >>= judge)
      [⟨WsmanOp.post posted, result⟩] y) :
    exists operation e,
      settle client operation raiseAmt result = Script.raised e ∧
        y = Script.raised e := by
  rcases settle_failed client hfails operation with ⟨e, he⟩
  refine ⟨operation, e, he, ?_⟩
  rcases Script.after_call h with ⟨hnil, _⟩ | ⟨found, rest, hlog, hrest⟩
  · cases hnil
  · cases hlog
    have hsettled : Script.After
        (settle client operation raiseAmt result >>= judge) [] y := hrest
    rw [he] at hsettled
    exact (Script.after_raised hsettled).2

theorem mutation_failed {call : Call} (hmutates : call.mutates = true)
    {request : Request} {result : PostResult} {y : WsmanScript call.Result}
    (hfails : result.fails = true)
    (h : Script.After (call.run client) [⟨WsmanOp.post request, result⟩] y) :
    exists operation e,
      settle client operation raiseAmt result = Script.raised e ∧
        y = Script.raised e := by
  cases call with
  | get _ _ => cases hmutates
  | enumerate _ _ _ => cases hmutates
  | put resourceClass properties selectors =>
      rcases after_ofOther_posted h with ⟨uri, huri⟩
      rcases after_ofOther_posted huri with ⟨children, hchildren⟩
      exact execute_failed hfails hchildren
  | invoke resourceClass methodName params selectors =>
      rcases after_ofOther_posted h with ⟨uri, huri⟩
      rcases after_ofOther_posted huri with ⟨children, hchildren⟩
      exact execute_failed hfails hchildren

theorem settle_indeterminate {result : PostResult} {operation : String}
    {error : AmtError}
    (h : settle client operation raiseAmt result =
      Script.raised (Failure.amt error))
    (herror : error.indeterminate = true) :
    result = PostResult.readTimeout := by
  cases result with
  | readTimeout => rfl
  | otherError => cases h
  | response response =>
      rw [settle] at h
      cases hresult : handleResponse client operation response with
      | ok body =>
          rw [hresult] at h
          cases h
      | error e =>
          rw [hresult] at h
          cases h
          rw [handleResponse_indeterminate hresult] at herror
          cases herror
  | _ =>
      cases h
      cases herror

/-- Put and method calls flag a failed exchange exactly when it fails before
anything was transmitted, or as a read timeout. -/
theorem mutation_flagged_iff {call : Call} (hmutates : call.mutates = true)
    (exchange : FailedExchange) {request : Request}
    {y : WsmanScript call.Result}
    (h : Script.After (call.run client)
      [⟨WsmanOp.post request, exchange.reported⟩] y) :
    Flagged exchange y ↔
      (exchange.transmitted = true ->
        exchange.reported = PostResult.readTimeout) := by
  rcases mutation_failed hmutates exchange.failed h with
    ⟨operation, e, hsettle, hy⟩
  rw [hy]
  constructor
  · intro hflagged htransmitted
    rcases hflagged.uncertain htransmitted with ⟨error, herror, hflag⟩
    cases herror
    exact settle_indeterminate hsettle hflag
  · intro htimeout
    constructor
    · intro htransmitted
      rw [htimeout htransmitted] at hsettle
      cases hsettle
      exact ⟨_, rfl, rfl⟩
    · intro error herror hflag
      cases htransmitted : exchange.transmitted with
      | false => rfl
      | true =>
          rw [htimeout htransmitted] at hsettle
          cases herror
          cases hsettle
          cases hflag

/-- A method call with a parameter: the read of the answer times out, or the
connection is not made. -/
theorem invoke_flagged :
    let uri := "http://schemas.dmtf.org/wbem/wscim/1/cim-schema/2/" ++
      "CIM_PowerManagementService"
    let y := Call.run { endpoint := "h:16993" }
      (Call.invoke "CIM_PowerManagementService" "RequestPowerStateChange"
        [("PowerState", Param.scalar (.int 10))] [])
    let request := methodRequest "RequestPowerStateChange" uri []
      [{ tag := qualified uri "PowerState", text := some "10" }]
    (exists z, Script.After y
        [⟨WsmanOp.post request, PostResult.readTimeout⟩] z ∧
      Flagged ⟨true, PostResult.readTimeout, rfl⟩ z) ∧
    exists z, Script.After y
        [⟨WsmanOp.post request, PostResult.connectTimeout⟩] z ∧
      Flagged ⟨false, PostResult.connectTimeout, rfl⟩ z := by
  intro uri y request
  have hafter : forall result : PostResult, exists z,
      Script.After y [⟨WsmanOp.post request, result⟩] z :=
    fun _ => ⟨_, Script.After.call (Script.After.here _)⟩
  rcases hafter PostResult.readTimeout with ⟨timedOut, htimedOut⟩
  rcases hafter PostResult.connectTimeout with ⟨unmade, hunmade⟩
  have hread := mutation_flagged_iff rfl ⟨true, PostResult.readTimeout, rfl⟩
    htimedOut
  have hconnect := mutation_flagged_iff rfl
    ⟨false, PostResult.connectTimeout, rfl⟩ hunmade
  exact ⟨⟨timedOut, htimedOut, hread.mpr fun _ => rfl⟩,
    unmade, hunmade, hconnect.mpr fun h => by cases h⟩

/-- The connection is reset while the answer to a Put is awaited. -/
theorem put_not_flagged :
    exists y, Script.After
        (Call.run { endpoint := "h:16993" }
          (Call.put "AMT_BootSettingData" [] []))
        [⟨WsmanOp.post (putRequest "AMT_BootSettingData"
            "http://intel.com/wbem/wscim/1/amt-schema/1/AMT_BootSettingData"
            [] []), PostResult.connectionError "reset"⟩] y ∧
      ¬ Flagged ⟨true, PostResult.connectionError "reset", rfl⟩ y := by
  refine ⟨_, Script.After.call (Script.After.here _), ?_⟩
  intro hflagged
  rcases hflagged.uncertain rfl with ⟨error, herror, hflag⟩
  cases herror
  cases hflag

end Changes
end Wsman
end IntelAmt
