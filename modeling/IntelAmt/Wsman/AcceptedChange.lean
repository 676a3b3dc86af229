import IntelAmt.Wsman.ReadBack

/-!
# Behind an accepted change

What is left of a call when the firmware has accepted the change in it: the
reading back, and nothing that was decided before.
-/

namespace IntelAmt
namespace Wsman

open Foundation

theorem split_unique {alpha beta : Type} {f : alpha -> Option beta}
    {first before rest tail : List alpha} {m m' : alpha}
    (h : first ++ m :: rest = before ++ m' :: tail)
    (hm : (f m).isSome = true) (hm' : (f m').isSome = true)
    (hlen : (first.filterMap f).length = (before.filterMap f).length) :
    first = before ∧ m = m' ∧ rest = tail := by
  induction first generalizing before with
  | nil =>
      cases before with
      | nil =>
          injection h with hhead htail
          exact ⟨rfl, hhead, htail⟩
      | cons x before =>
          injection h with hhead htail
          rw [← hhead, List.filterMap_cons] at hlen
          cases hf : f m with
          | none =>
              rw [hf] at hm
              cases hm
          | some _ =>
              rw [hf] at hlen
              cases hlen
  | cons x first ih =>
      cases before with
      | nil =>
          injection h with hhead htail
          rw [hhead, List.filterMap_cons] at hlen
          cases hf : f m' with
          | none =>
              rw [hf] at hm'
              cases hm'
          | some _ =>
              rw [hf] at hlen
              cases hlen
      | cons y before =>
          injection h with hhead htail
          have htails : (first.filterMap f).length =
              (before.filterMap f).length := by
            rw [hhead, List.filterMap_cons, List.filterMap_cons] at hlen
            cases hf : f y with
            | none =>
                rw [hf] at hlen
                exact hlen
            | some _ =>
                rw [hf] at hlen
                exact Nat.succ.inj hlen
          rcases ih htail htails with ⟨hsame, hmiddle, hrest⟩
          exact ⟨by rw [hhead, hsame], hmiddle, hrest⟩

section Behind

variable {client : Client} {alpha beta gamma : Type}
variable {request : Request} {result : PostResult} {before tail : Log}

theorem mutation_post (hreads : request.reads = false) :
    mutation ⟨WsmanOp.post request, result⟩ = some (request, result) := by
  simp [mutation, hreads]

theorem mutations_behind {earlier : Nat} (result : PostResult) (tail : Log)
    (hreads : request.reads = false)
    (hcount : (mutations before).length = earlier) :
    earlier < (mutations
      (before ++ ⟨WsmanOp.post request, result⟩ :: tail)).length := by
  rw [mutations_append, List.length_append, hcount, mutations,
    List.filterMap_cons, mutation_post hreads, List.length_cons]
  lia

/-- A change that the firmware has accepted returns. -/
theorem settle_accepted {operation : String}
    {judge : Element -> WsmanScript alpha} (hjudge : Judges request judge)
    (haccepted : Accepted client (request, result)) :
    exists a, (settle client operation raiseAmt result >>= judge) =
      Script.returned a := by
  rcases haccepted with ⟨other, response, body, hresult, hbody, haccepts⟩
  have hresponse : result = PostResult.response response := hresult
  have hsame : (handleResponse client operation response).toOption =
      some body := by
    rw [handleResponse_operation operation other, hbody]
    rfl
  rw [hresponse, settle]
  cases hfound : handleResponse client operation response with
  | error e =>
      rw [hfound] at hsame
      cases hsame
  | ok found =>
      rw [hfound] at hsame
      cases hsame
      rcases hjudge body with ⟨hrejects, _⟩ | ⟨_, a, ha⟩
      · exact absurd haccepts hrejects
      · exact ⟨a, ha⟩

theorem after_first {first : WsmanScript alpha} {requests : List Request}
    {f : alpha -> WsmanScript beta} {log : Log} {y : WsmanScript beta}
    (hfirst : Issues client first requests)
    (h : Script.After (first >>= f) log y)
    (hmore : requests.length < (mutations log).length) :
    exists begun last a, log = begun ++ last ∧
      Script.After first begun (Script.returned a) ∧
      Script.After (f a) last y ∧
      (mutations begun).length = requests.length := by
  rcases Script.after_bind h with
    ⟨x', hx, _⟩ | ⟨begun, last, a, hlog, hbegun, hlast⟩
  · have hle := (hfirst _ _ hx).1.order.length_le
    rw [List.length_map] at hle
    lia
  · refine ⟨begun, last, a, hlog, hbegun, hlast, ?_⟩
    rw [← ((hfirst _ _ hbegun).2 a rfl).order, List.length_map]

theorem after_reading {first : WsmanScript alpha} {f : alpha -> WsmanScript beta}
    {log : Log} {y : WsmanScript beta} (hfirst : Script.Uses Reading first)
    (h : Script.After (first >>= f) log y)
    (hmore : 0 < (mutations log).length) :
    exists begun last a, log = begun ++ last ∧ mutations begun = [] ∧
      Script.After (f a) last y ∧ 0 < (mutations last).length := by
  rcases Script.after_bind h with
    ⟨x', hx, _⟩ | ⟨begun, last, a, hlog, hbegun, hlast⟩
  · rw [mutations_reading (Script.after_uses hfirst hx)] at hmore
    cases hmore
  · have hquiet := mutations_reading (Script.after_uses hfirst hbegun)
    rw [hlog, mutations_append, hquiet] at hmore
    exact ⟨begun, last, a, hlog, hquiet, hlast, hmore⟩

/-- When a change was accepted, the script goes on from its answer. -/
theorem after_accepted {x : WsmanScript beta} {changed : Request}
    {rest : beta -> WsmanScript gamma} {y : WsmanScript gamma}
    {begun last : Log} (hx : Changes client x changed)
    (h : Script.After (x >>= rest) last y)
    (hlog : before ++ ⟨WsmanOp.post request, result⟩ :: tail = begun ++ last)
    (hreads : request.reads = false)
    (hcount : (mutations begun).length = (mutations before).length)
    (haccepted : Accepted client (request, result)) :
    exists b, Script.After (rest b) tail y := by
  have hpost : mutation ⟨WsmanOp.post request, result⟩ =
      some (request, result) := mutation_post hreads
  rcases hx with ⟨hchanged, operation, judge, hcall, hjudge⟩
  rw [hcall, Script.bind_assoc] at h
  rcases Script.after_call h with ⟨hnil, _⟩ | ⟨answer, behind, hbehind, hsettled⟩
  · rw [hnil, List.append_nil] at hlog
    rw [← hlog, mutations_append, List.length_append, mutations, mutations,
      List.filterMap_cons, hpost, List.length_cons] at hcount
    lia
  · rw [hbehind] at hlog
    have hother : mutation ⟨WsmanOp.post changed, answer⟩ =
        some (changed, answer) := mutation_post hchanged
    rcases split_unique (f := mutation) hlog (by rw [hpost]; rfl)
        (by rw [hother]; rfl) hcount.symm with
      ⟨_, hsame, htail⟩
    cases hsame
    rcases settle_accepted hjudge haccepted with ⟨b, hb⟩
    have hafter : Script.After
        ((settle client operation raiseAmt result >>= judge) >>= rest)
        behind y := by
      rw [Script.bind_assoc]
      exact hsettled
    rw [hb] at hafter
    rw [htail]
    exact ⟨b, hafter⟩

theorem after_first_accepted {x : WsmanScript beta} {changed : Request}
    {rest : beta -> WsmanScript gamma} {y : WsmanScript gamma}
    {start behind begun last : Log} (hx : Changes client x changed)
    (h : Script.After (x >>= rest) last y)
    (hlog : before ++ ⟨WsmanOp.post request, result⟩ :: tail =
      start ++ behind)
    (hstart : mutations start = []) (hbehind : behind = begun ++ last)
    (hbegun : mutations begun = []) (hreads : request.reads = false)
    (hcount : (mutations before).length = 0)
    (haccepted : Accepted client (request, result)) :
    exists b, Script.After (rest b) tail y := by
  rw [hbehind, ← List.append_assoc] at hlog
  refine after_accepted hx h hlog hreads ?_ haccepted
  rw [mutations_append, hstart, hbegun, hcount]
  rfl

/-!
## Modules
-/

/-- The module has ended, and the firmware has accepted the change of it that
is behind as many others. -/
def AcceptedThen (client : Client) (module : WsmanScript (ModuleEnd alpha))
    (earlier : Nat) (tail : Log) (ending : ModuleEnd alpha) : Prop :=
  exists before request result,
    Script.After module (before ++ ⟨WsmanOp.post request, result⟩ :: tail)
        (Script.returned ending) ∧
      request.reads = false ∧ (mutations before).length = earlier ∧
      Accepted client (request, result)

/-- A module that has failed tells that the change may have taken effect. -/
def NoPlainFailure (ending : ModuleEnd alpha) : Prop :=
  forall error, ending = Except.error error -> error.indeterminate = true

/-- A script has ended with a result or with a failure of the collection. -/
inductive EndsAs : WsmanScript alpha -> ModuleEnd alpha -> Prop where
  | returned (a : alpha) : EndsAs (Script.returned a) (Except.ok a)
  | raised (error : AmtError) :
      EndsAs (Script.raised (Failure.amt error)) (Except.error error)

theorem EndsAs.ended {y : WsmanScript alpha} {ending : ModuleEnd alpha}
    (h : EndsAs y ending) : y.ended = true := by
  cases h <;> rfl

theorem EndsAs.plain_iff {y : WsmanScript alpha} {ending : ModuleEnd alpha}
    (h : EndsAs y ending) :
    NoPlainFailure ending ↔
      forall error, y = Script.raised (Failure.amt error) ->
        error.indeterminate = true := by
  cases h with
  | returned a =>
      exact iff_of_true (fun _ hend => by cases hend)
        (fun _ hy => by cases hy)
  | raised error =>
      constructor
      · intro hall found hy
        cases hy
        exact hall error rfl
      · intro hall found hend
        cases hend
        exact hall error rfl

theorem after_caught {x : WsmanScript alpha} {log : Log}
    {ending : ModuleEnd alpha}
    (h : Script.After (caught x) log (Script.returned ending)) :
    exists y, Script.After x log y ∧ EndsAs y ending := by
  rcases Script.after_handle_ended h rfl with
    ⟨value, hvalue, hending⟩ | ⟨first, rest, e, hlog, he, hrest⟩
  · rcases Script.after_bind_returned hvalue with
      ⟨first, rest, a, hlog, ha, hrest⟩
    rcases Script.after_returned hrest with ⟨hnil, hreturned⟩
    cases hreturned
    cases hending
    rw [hlog, hnil, List.append_nil]
    exact ⟨_, ha, EndsAs.returned a⟩
  · have hraised : Script.After x first (Script.raised e) := by
      rcases Script.after_bind_ended he rfl with
        ⟨e', hx, hsame⟩ | ⟨_, last, a, _, _, hlast⟩
      · cases hsame
        exact hx
      · cases (Script.after_returned hlast).2
    cases e with
    | amt error =>
        rcases Script.after_returned hrest with ⟨hnil, hreturned⟩
        cases hreturned
        rw [hlog, hnil, List.append_nil]
        exact ⟨_, hraised, EndsAs.raised error⟩
    | other e => cases (Script.after_raised hrest).2
    | waiting => cases (Script.after_raised hrest).2

end Behind
end Wsman
end IntelAmt
