import IntelAmt.Foundation.Transcript
import IntelAmt.Wsman.Client

/-!
# What a call posts

The posts of a transcript that change something at the endpoint, and which of
them a script can issue.
-/

namespace IntelAmt
namespace Wsman

open Foundation

abbrev Log := List (Exchange WsmanAnswer)

/-- A request that only reads. -/
def Request.reads (request : Request) : Bool :=
  request.action = actionGet || request.action = actionEnumerate ||
    request.action = actionPull

/-- The post of an exchange, if it changes something. -/
def mutation : Exchange WsmanAnswer -> Option (Request × PostResult)
  | ⟨WsmanOp.post request, result⟩ =>
      if request.reads then none else some (request, result)
  | _ => none

def mutations (log : Log) : List (Request × PostResult) :=
  log.filterMap mutation

@[simp] theorem mutations_nil : mutations [] = [] := rfl

@[simp] theorem mutations_append (first rest : Log) :
    mutations (first ++ rest) = mutations first ++ mutations rest :=
  List.filterMap_append

/-- Operations that change nothing at the endpoint. -/
def Reading : WsmanOp -> Prop
  | WsmanOp.post request => request.reads = true
  | _ => True

/-- Posts that change nothing at the endpoint. -/
def ReadingPost : WsmanOp -> Prop
  | WsmanOp.post request => request.reads = true
  | _ => False

theorem reading_of_post {o : WsmanOp} (h : ReadingPost o) : Reading o := by
  cases o with
  | post request => exact h
  | sleep _ => trivial
  | connect _ _ => trivial

theorem mutations_reading {log : Log}
    (h : forall exchange, exchange ∈ log -> Reading exchange.1) :
    mutations log = [] := by
  apply List.filterMap_eq_nil_iff.mpr
  intro exchange hmem
  have hreading := h exchange hmem
  rcases exchange with ⟨o, a⟩
  cases o with
  | post request =>
      have hreads : request.reads = true := hreading
      simp [mutation, hreads]
  | sleep _ => rfl
  | connect _ _ => rfl

/-!
## Results without a post
-/

section Results

variable {alpha : Type} {log : Log} {a : alpha}

theorem ofAmt_ended (result : Except AmtError alpha) :
    (ofAmt result).ended = true := by
  cases result <;> rfl

theorem after_ofAmt {result : Except AmtError alpha}
    (h : Script.After (ofAmt result) log (Script.returned a)) :
    log = [] ∧ result = Except.ok a := by
  cases result with
  | ok b =>
      rcases Script.after_returned h with ⟨hlog, hb⟩
      cases hb
      exact ⟨hlog, rfl⟩
  | error e => cases (Script.after_raised h).2

theorem after_ofOther {result : Except OtherError alpha}
    (h : Script.After (ofOther result) log (Script.returned a)) :
    log = [] ∧ result = Except.ok a := by
  cases result with
  | ok b =>
      rcases Script.after_returned h with ⟨hlog, hb⟩
      cases hb
      exact ⟨hlog, rfl⟩
  | error e => cases (Script.after_raised h).2

/-- A failure that is not one of the collection. -/
def NotAmt : Failure -> Prop
  | Failure.amt _ => False
  | _ => True

theorem caught_raises (x : WsmanScript alpha) :
    Script.Raises NotAmt (caught x) := by
  apply Script.raises_handle
  intro e
  cases e <;> trivial

end Results

/-!
## Calls that read
-/

section Reads

variable (client : Client)

theorem uses_ofAmt {allowed : WsmanOp -> Prop} {alpha : Type}
    (result : Except AmtError alpha) : Script.Uses allowed (ofAmt result) := by
  cases result with
  | ok _ => trivial
  | error _ => trivial

theorem uses_ofOther {allowed : WsmanOp -> Prop} {alpha : Type}
    (result : Except OtherError alpha) :
    Script.Uses allowed (ofOther result) := by
  cases result with
  | ok _ => trivial
  | error _ => trivial

theorem uses_settle {allowed : WsmanOp -> Prop} {operation : String}
    {retry : AmtError -> WsmanScript Element}
    (hretry : forall e, Script.Uses allowed (retry e)) (result : PostResult) :
    Script.Uses allowed (settle client operation retry result) := by
  cases result with
  | readTimeout => trivial
  | sslError _ => trivial
  | connectTimeout => exact hretry _
  | connectionError _ => exact hretry _
  | otherError => trivial
  | response response => exact uses_ofAmt _

theorem uses_postUpTo {allowed : WsmanOp -> Prop} {request : Request}
    {operation : String} (hallowed : allowed (WsmanOp.post request))
    (left : Nat) :
    Script.Uses allowed (postUpTo client request operation left) := by
  induction left with
  | zero =>
      apply Script.uses_bind (Script.uses_ask hallowed)
      exact fun result =>
        uses_settle client (fun e => by rw [raiseAmt]; trivial) result
  | succ left ih =>
      apply Script.uses_bind (Script.uses_ask hallowed)
      exact fun result => uses_settle client (fun _ => ih) result

theorem uses_execute {allowed : WsmanOp -> Prop} {request : Request}
    {operation : String} {retryable : Bool}
    (hallowed : allowed (WsmanOp.post request)) :
    Script.Uses allowed (execute client request operation retryable) :=
  uses_postUpTo client hallowed _

theorem posts_get (resourceClass : String)
    (selectors : List (String × String)) :
    Script.Uses ReadingPost (get client resourceClass selectors) := by
  apply Script.uses_bind (uses_ofOther _)
  intro uri
  have hreads : ReadingPost (WsmanOp.post (getRequest uri selectors)) := by
    rfl
  exact Script.uses_bind (uses_execute client hreads) fun _ => trivial

theorem posts_pullFrom (resourceClass uri : String) (pulls : Nat)
    (context : Option String) (items : List Value) :
    Script.Uses ReadingPost
      (pullFrom client resourceClass uri pulls context items) := by
  induction pulls generalizing context items with
  | zero => cases context <;> trivial
  | succ pulls ih =>
      cases context with
      | none => trivial
      | some context =>
          have hreads : ReadingPost
              (WsmanOp.post (pullRequest uri context)) := by
            rfl
          exact Script.uses_bind (uses_execute client hreads)
            fun page => ih _ _

theorem posts_enumerate (pulls : Nat) (resourceClass : String)
    (selectors : List (String × String)) :
    Script.Uses ReadingPost
      (enumerate client pulls resourceClass selectors) := by
  apply Script.uses_bind (uses_ofOther _)
  intro uri
  have hreads : ReadingPost
      (WsmanOp.post (enumerateRequest uri selectors)) := by
    rfl
  apply Script.uses_bind (uses_execute client hreads)
  exact fun body => posts_pullFrom client _ _ _ _ _

theorem uses_get (resourceClass : String)
    (selectors : List (String × String)) :
    Script.Uses Reading (get client resourceClass selectors) :=
  Script.uses_mono (posts_get client resourceClass selectors)
    fun _ => reading_of_post

theorem uses_enumerate (pulls : Nat) (resourceClass : String)
    (selectors : List (String × String)) :
    Script.Uses Reading (enumerate client pulls resourceClass selectors) :=
  Script.uses_mono (posts_enumerate client pulls resourceClass selectors)
    fun _ => reading_of_post

end Reads

/-!
## Calls that change something
-/

/-- A body that tells that a request has been accepted. -/
def Accepts (request : Request) (body : Element) : Prop :=
  request.action = actionPut ∨ extractReturnValue (singleInstance body) = 0

/-- The endpoint has taken a request: it has answered with a usable body, and
a method has returned zero. -/
def Accepted (client : Client) (post : Request × PostResult) : Prop :=
  exists operation response body,
    post.2 = PostResult.response response ∧
      handleResponse client operation response = Except.ok body ∧
      Accepts post.1 body

/-- Posts that carry the first of these requests, in their order, each one
only after the one before it was accepted. -/
structure Sent (client : Client) (requests : List Request)
    (posts : List (Request × PostResult)) : Prop where
  order : posts.map Prod.fst <+: requests
  accepted : forall post, post ∈ posts.dropLast -> Accepted client post

/-- Posts that carry all of these requests and were accepted. -/
structure AllSent (client : Client) (requests : List Request)
    (posts : List (Request × PostResult)) : Prop where
  order : posts.map Prod.fst = requests
  accepted : forall post, post ∈ posts -> Accepted client post

/-- A script that issues these requests. -/
def Issues (client : Client) {alpha : Type} (x : WsmanScript alpha)
    (requests : List Request) : Prop :=
  forall log y, Script.After x log y ->
    Sent client requests (mutations log) ∧
      forall a, y = Script.returned a ->
        AllSent client requests (mutations log)

section Issuing

variable {client : Client} {alpha beta : Type}
variable {first rest : List Request}
variable {posts others : List (Request × PostResult)}

theorem sent_nil : Sent client rest [] :=
  ⟨List.nil_prefix, fun _ hmem => by cases hmem⟩

theorem allSent_nil : AllSent client [] [] :=
  ⟨rfl, fun _ hmem => by cases hmem⟩

theorem Sent.more (h : Sent client first posts) :
    Sent client (first ++ rest) posts :=
  ⟨h.order.trans (List.prefix_append _ _), h.accepted⟩

theorem AllSent.append (h : AllSent client first posts)
    (hothers : AllSent client rest others) :
    AllSent client (first ++ rest) (posts ++ others) := by
  constructor
  · rw [List.map_append, h.order, hothers.order]
  · intro post hmem
    rcases List.mem_append.mp hmem with hin | hin
    · exact h.accepted post hin
    · exact hothers.accepted post hin

theorem AllSent.then (h : AllSent client first posts)
    (hothers : Sent client rest others) :
    Sent client (first ++ rest) (posts ++ others) := by
  constructor
  · rw [List.map_append, h.order]
    exact (List.prefix_append_right_inj first).mpr hothers.order
  · intro post hmem
    rcases others.eq_nil_or_concat with hnone | ⟨init, last, hlast⟩
    · rw [hnone, List.append_nil] at hmem
      exact h.accepted post (List.dropLast_subset _ hmem)
    · have hbefore := hothers.accepted
      rw [hlast, List.concat_eq_append, List.dropLast_concat] at hbefore
      rw [hlast, List.concat_eq_append, ← List.append_assoc,
        List.dropLast_concat] at hmem
      rcases List.mem_append.mp hmem with hin | hin
      · exact h.accepted post hin
      · exact hbefore post hin

theorem issues_of_reading {x : WsmanScript alpha}
    (hx : Script.Uses Reading x) : Issues client x [] := by
  intro log y h
  rw [mutations_reading (Script.after_uses hx h)]
  exact ⟨sent_nil, fun _ _ => allSent_nil⟩

theorem issues_bind {x : WsmanScript alpha}
    {f : alpha -> WsmanScript beta} (hx : Issues client x first)
    (hf : forall a, Issues client (f a) rest) :
    Issues client (x >>= f) (first ++ rest) := by
  have hthen : forall l m a u, Script.After x l (Script.returned a) ->
      Script.After (f a) m u ->
        Sent client (first ++ rest) (mutations (l ++ m)) ∧
          forall b, u = Script.returned b ->
            AllSent client (first ++ rest) (mutations (l ++ m)) := by
    intro l m a u hl hm
    have hdone := (hx l _ hl).2 a rfl
    rcases hf a m u hm with ⟨hsent, hend⟩
    rw [mutations_append]
    exact ⟨hdone.then hsent, fun b hb => hdone.append (hend b hb)⟩
  intro log u h
  rcases Script.after_bind h with ⟨x', hx', hu⟩ | ⟨l, m, a, hlog, hl, hm⟩
  · cases x' with
    | returned a =>
        rw [hu]
        have hdone := hthen log [] a (f a) hx' (Script.After.here _)
        rw [List.append_nil] at hdone
        exact hdone
    | raised e =>
        exact ⟨(hx log _ hx').1.more, fun b hb => by cases hu.symm.trans hb⟩
    | call o next =>
        exact ⟨(hx log _ hx').1.more, fun b hb => by cases hu.symm.trans hb⟩
  · rw [hlog]
    exact hthen l m a u hl hm

/-- What a call makes of a body that it can use. -/
def Judges (request : Request) (judge : Element -> WsmanScript alpha) :
    Prop :=
  forall body,
    (¬ Accepts request body ∧ exists e, judge body = Script.raised e) ∨
      (Accepts request body ∧ exists a, judge body = Script.returned a)

/-- A call that issues one request that changes something. -/
def Changes (client : Client) (x : WsmanScript alpha) (request : Request) :
    Prop :=
  request.reads = false ∧
    exists operation judge,
      x = (execute client request operation false >>= judge) ∧
        Judges request judge

theorem ends_raised {log : Log} {e : Failure} {y : WsmanScript alpha}
    (h : Script.After (Script.raised e) log y) :
    log = [] ∧ forall a, y ≠ Script.returned a := by
  rcases Script.after_raised h with ⟨hlog, hy⟩
  rw [hy]
  exact ⟨hlog, fun a ha => by cases ha⟩

theorem after_settle {request : Request} {operation : String}
    {judge : Element -> WsmanScript alpha} (hjudge : Judges request judge)
    {result : PostResult} {log : Log} {y : WsmanScript alpha}
    (h : Script.After (settle client operation raiseAmt result >>= judge)
      log y) :
    log = [] ∧ forall a, y = Script.returned a ->
      Accepted client (request, result) := by
  have hfails : (log = [] ∧ forall a, y ≠ Script.returned a) ->
      log = [] ∧ forall a, y = Script.returned a ->
        Accepted client (request, result) :=
    fun h => ⟨h.1, fun a ha => absurd ha (h.2 a)⟩
  cases result with
  | readTimeout => exact hfails (ends_raised h)
  | sslError _ => exact hfails (ends_raised h)
  | connectTimeout => exact hfails (ends_raised h)
  | connectionError _ => exact hfails (ends_raised h)
  | otherError => exact hfails (ends_raised h)
  | response response =>
      rw [settle] at h
      cases hbody : handleResponse client operation response with
      | error e =>
          rw [hbody] at h
          exact hfails (ends_raised h)
      | ok body =>
          rw [hbody] at h
          have hbodyAfter : Script.After (judge body) log y := h
          rcases hjudge body with ⟨_, e, he⟩ | ⟨haccepted, b, hb⟩
          · rw [he] at hbodyAfter
            exact hfails (ends_raised hbodyAfter)
          · rw [hb] at hbodyAfter
            exact ⟨(Script.after_returned hbodyAfter).1, fun _ _ =>
              ⟨operation, response, body, rfl, hbody, haccepted⟩⟩

theorem issues_of_changes {x : WsmanScript alpha} {request : Request}
    (hx : Changes client x request) : Issues client x [request] := by
  rcases hx with ⟨hreads, operation, judge, hx, hjudge⟩
  rw [hx]
  intro log y h
  rcases Script.after_call h with ⟨hlog, hy⟩ | ⟨result, rest, hlog, hrest⟩
  · rw [hlog]
    exact ⟨sent_nil, fun a ha => by cases hy.symm.trans ha⟩
  · rcases after_settle hjudge hrest with ⟨hnil, haccepted⟩
    have hone : mutations log = [(request, result)] := by
      rw [hlog, hnil]
      simp [mutations, mutation, hreads]
    rw [hone]
    constructor
    · exact ⟨List.prefix_refl _, fun _ hmem => by cases hmem⟩
    · intro a ha
      constructor
      · rfl
      · intro post hmem
        rw [List.mem_singleton.mp hmem]
        exact haccepted a ha

theorem judges_method {request : Request}
    (hmethod : request.action ≠ actionPut) (operation : String) :
    Judges request fun body => ofAmt (methodOutput client operation body) := by
  intro body
  simp only [methodOutput]
  by_cases hzero : extractReturnValue (singleInstance body) = 0
  · rw [if_pos hzero]
    exact Or.inr ⟨Or.inr hzero, _, rfl⟩
  · rw [if_neg hzero]
    refine Or.inl ⟨?_, _, rfl⟩
    intro haccepts
    rcases haccepts with hput | hreturned
    · exact hmethod hput
    · exact hzero hreturned

theorem judges_put {request : Request}
    (hput : request.action = actionPut) :
    Judges request fun body =>
      (pure (singleInstance body) : WsmanScript Instance) :=
  fun _ => Or.inr ⟨Or.inl hput, _, rfl⟩

/-- An action that is neither a reading one nor a Put. -/
def IsMethod (request : Request) : Prop :=
  request.reads = false ∧ request.action ≠ actionPut

instance (request : Request) : Decidable (IsMethod request) :=
  inferInstanceAs (Decidable (_ ∧ _))

theorem invoke_changes {resourceClass methodName uri : String}
    {params : List (String × Param)} {selectors : List (String × String)}
    {children : List Element} (huri : resourceUri resourceClass = Except.ok uri)
    (hchildren : appendParams uri params = Except.ok children)
    (hmethod : IsMethod (methodRequest methodName uri selectors children)) :
    Changes client (invoke client resourceClass methodName params selectors)
      (methodRequest methodName uri selectors children) := by
  rw [invoke, huri]
  simp only [ofOther, Script.returned_bind, hchildren]
  exact ⟨hmethod.1, _, _, rfl, judges_method hmethod.2 _⟩

theorem put_changes {resourceClass uri : String}
    {properties : List (String × Param)} {children : List Element}
    (huri : resourceUri resourceClass = Except.ok uri)
    (hchildren : appendParams uri properties = Except.ok children) :
    Changes client (put client resourceClass properties)
      (putRequest resourceClass uri [] children) := by
  rw [put, huri]
  simp only [ofOther, Script.returned_bind, hchildren]
  exact ⟨rfl, _, _, rfl, judges_put rfl⟩

end Issuing
end Wsman
end IntelAmt
