import Mathlib.Algebra.BigOperators.Group.Finset.Piecewise
import IntelAmt.AmtInfo.Facts
import IntelAmt.Foundation.Layers
import IntelAmt.Wsman.Paging

/-!
# Round trips

What the facts cost: the table that says how many requests each subset takes,
and the requests that are sent.
-/

namespace IntelAmt
namespace AmtInfo

open Foundation Wsman Models Hardware

def roundTripsBySubset : Subset -> Nat
  | Subset.config => 10
  | Subset.system => 2
  | Subset.processor => 4
  | Subset.memory => 2
  | Subset.storage => 2

/-- `round_trip_estimate`. -/
def roundTripEstimate (subsets : Finset Subset) : Nat :=
  subsets.sum roundTripsBySubset

/-- A read of a class with the client, where a failure of the collection is
handed on. -/
def wireRead (client : Client) (pulls : Nat) :
    (o : FactsRead) -> WsmanScript (FactsAnswer o)
  | FactsRead.get resourceClass selectors =>
      caught (get client resourceClass selectors)
  | FactsRead.enumerate resourceClass =>
      caught (enumerate client pulls resourceClass)

/-- `get_facts` down to the posts. -/
def gatherFacts (client : Client) (pulls : Nat) (subsets : Finset Subset) :
    WsmanScript AmtFacts :=
  Script.lowered (wireRead client pulls) (getFacts subsets)

/-- An instance that has properties, and a version if it is that of a
`CIM_BIOSElement`. -/
structure Usable (uri : String) (container : Instance) : Prop where
  nonempty : container ≠ []
  version : resourceUri "CIM_BIOSElement" = Except.ok uri ->
    (biosVersionOf container).isSome = true

/-- A Get succeeds with a usable instance, and an Enumerate is answered with a
context and then with one page. -/
structure BestCase (request : Request) (result : PostResult) : Prop where
  get : request.action = actionGet -> exists response body,
    result = PostResult.response response ∧ Answers response body ∧
      findByLocalName body "Fault" = none ∧
      Usable request.resourceUri (singleInstance body)
  opening : request.action = actionEnumerate ->
    exists delivered : Delivered, exists context,
      result = PostResult.response delivered.response ∧
        delivered.page = Page.opening context ∧ context ≠ ""
  page : request.action = actionPull -> exists delivered : Delivered,
    result = PostResult.response delivered.response ∧
      delivered.page.next = none ∧
      forall element, element ∈ delivered.page.instances -> Plain element

abbrev Replies : Type := Nat -> (o : WsmanOp) -> WsmanAnswer o

/-- An endpoint that is always at its best. -/
def Replies.AtBest (replies : Replies) : Prop :=
  forall position request,
    BestCase request (replies position (WsmanOp.post request))

/-!
## Single reads
-/

section Reads

variable {client : Client} {replies : Replies} {pulls : Nat}
variable {resourceClass uri : String}

theorem play_answered {request : Request} {operation : String}
    {retryable : Bool} {position : Nat} {response : Response} {body : Element}
    (hresult : replies position (WsmanOp.post request) =
      PostResult.response response)
    (h : handleResponse client operation response = Except.ok body) :
    Script.play replies position
        (execute client request operation retryable) =
      (Except.ok body, position + 1) := by
  have hpost : forall retry : AmtError -> WsmanScript Element,
      Script.play replies position
          (Script.call (WsmanOp.post request) fun result =>
            settle client operation retry result) =
        (Except.ok body, position + 1) := by
    intro retry
    rw [Script.play, hresult, settle, h]
    rfl
  rw [execute]
  cases (if retryable then client.maxRetries.toNat else 0) with
  | zero => exact hpost raiseAmt
  | succ left => exact hpost fun _ => postUpTo client request operation left

theorem get_takes (hbest : replies.AtBest)
    (huri : resourceUri resourceClass = Except.ok uri)
    (selectors : List (String × String)) :
    Script.Takes replies 1 (Usable uri)
      (get client resourceClass selectors) := by
  intro position
  rcases (hbest position (getRequest uri selectors)).get rfl with
    ⟨response, body, hresult, hanswers, hfault, husable⟩
  refine ⟨singleInstance body, ?_, husable⟩
  unfold Wsman.get
  rw [huri]
  exact Script.play_bind_ok (play_answered hresult
    (handleResponse_answers ("Get " ++ resourceClass) hanswers hfault))

theorem enumerate_takes (hbest : replies.AtBest)
    (huri : resourceUri resourceClass = Except.ok uri) :
    Script.Takes replies 2 (fun _ => True)
      (enumerate client (pulls + 1) resourceClass) := by
  intro position
  rcases (hbest position (enumerateRequest uri [])).opening rfl with
    ⟨opening, context, hresult, hopening, hcontext⟩
  rcases (hbest (position + 1) (pullRequest uri context)).page rfl with
    ⟨last, hlater, hlast, hplain⟩
  have hnone : forall element,
      element ∈ opening.page.instances -> Plain element := by
    rw [hopening]
    exact fun _ hmem => absurd hmem List.not_mem_nil
  have hfirst : contextOf
      (findByLocalName opening.body "EnumerationContext") = some context := by
    rw [opening.carried.context hnone, hopening]
    exact Option.filter_some_pos (decide_eq_true hcontext)
  have hopened : Script.play replies position
      (execute client (enumerateRequest uri [])
        ("Enumerate " ++ resourceClass) true) =
      (Except.ok opening.body, position + 1) :=
    play_answered hresult (opening.handled client _ hnone)
  have hpulled : Script.play replies (position + 1)
      (execute client (pullRequest uri context) ("Pull " ++ resourceClass)
        true) =
      (Except.ok last.body, position + 1 + 1) :=
    play_answered hlater (last.handled client _ hplain)
  refine ⟨[] ++ pageItems last.body, ?_, trivial⟩
  rw [enumerate, huri]
  refine (Script.play_bind_ok hopened).trans ?_
  rw [hfirst, pullFrom]
  refine (Script.play_bind_ok hpulled).trans ?_
  rw [last.carried.nextContext hplain, hlast, pullFrom]
  rfl

end Reads

/-!
## Facts
-/

/-- A read of facts returns after so many requests. -/
def Costs (client : Client) (replies : Replies) (pulls n : Nat)
    {alpha : Type} (Q : alpha -> Prop) (x : FactsScript alpha) : Prop :=
  Script.Takes replies n Q (Script.lowered (wireRead client pulls) x)

section Costs

variable {client : Client} {replies : Replies} {pulls m n : Nat}
variable {alpha beta : Type} {Q : alpha -> Prop} {R : beta -> Prop}
variable {resourceClass uri : String}

theorem costs_pure {a : alpha} (h : Q a) :
    Costs client replies pulls 0 Q (pure a) :=
  Script.takes_pure h

theorem costs_bind {x : FactsScript alpha} {f : alpha -> FactsScript beta}
    (hx : Costs client replies pulls m Q x)
    (hf : forall a, Q a -> Costs client replies pulls n R (f a)) :
    Costs client replies pulls (m + n) R (x >>= f) := by
  rw [Costs, Script.lowered_bind]
  exact Script.takes_bind hx hf

theorem costs_ask {o : FactsRead} {Q : FactsAnswer o -> Prop}
    (h : Script.Takes replies n Q (wireRead client pulls o)) :
    Costs client replies pulls n Q (Script.ask o) := by
  have hlowered : Script.lowered (wireRead client pulls) (Script.ask o) =
      wireRead client pulls o := Script.bind_pure _
  rw [Costs, hlowered]
  exact h

theorem costs_get (hbest : replies.AtBest)
    (huri : resourceUri resourceClass = Except.ok uri)
    (selectors : List (String × String)) :
    Costs client replies pulls 1
      (fun answer => exists container, answer = Except.ok container ∧
        Usable uri container)
      (Script.ask (FactsRead.get resourceClass selectors)) := by
  refine costs_ask (o := FactsRead.get resourceClass selectors) ?_
  apply Script.takes_handle
  apply Script.takes_bind (n := 0) (get_takes hbest huri selectors)
  intro container husable
  exact Script.takes_pure ⟨container, rfl, husable⟩

theorem costs_enumerate (hbest : replies.AtBest)
    (huri : resourceUri resourceClass = Except.ok uri) :
    Costs client replies (pulls + 1) 2
      (fun answer => exists items, answer = Except.ok items)
      (Script.ask (FactsRead.enumerate resourceClass)) := by
  refine costs_ask (o := FactsRead.enumerate resourceClass) ?_
  apply Script.takes_handle
  apply Script.takes_bind (n := 0) (enumerate_takes hbest huri)
  intro items _
  exact Script.takes_pure ⟨items, rfl⟩

theorem getOptional_costs (hbest : replies.AtBest)
    (huri : resourceUri resourceClass = Except.ok uri)
    (selectors : List (String × String)) :
    Costs client replies pulls 1
      (fun found => exists container, found = some container ∧
        Usable uri container)
      (getOptional resourceClass selectors) := by
  apply costs_bind (n := 0) (costs_get hbest huri selectors)
  rintro _ ⟨container, rfl, husable⟩
  exact costs_pure ⟨container, rfl, husable⟩

theorem enumerateOptional_costs (hbest : replies.AtBest)
    (huri : resourceUri resourceClass = Except.ok uri) :
    Costs client replies (pulls + 1) 2 (fun _ => True)
      (enumerateOptional resourceClass) := by
  apply costs_bind (n := 0) (costs_enumerate hbest huri)
  rintro _ ⟨items, rfl⟩
  exact costs_pure trivial

theorem getBiosVersion_costs (hbest : replies.AtBest) :
    Costs client replies pulls 1 (fun _ => True) getBiosVersion := by
  have huri : resourceUri "CIM_BIOSElement" = Except.ok
      ("http://schemas.dmtf.org/wbem/wscim/1/cim-schema/2/" ++
        "CIM_BIOSElement") := rfl
  apply costs_bind (n := 0) (getOptional_costs hbest huri [])
  rintro _ ⟨container, rfl, husable⟩
  rcases Option.isSome_iff_exists.mp (husable.version huri) with
    ⟨version, hversion⟩
  rw [Option.getD_some, hversion]
  exact costs_pure trivial

theorem inventory_uri (resourceClass : InventoryClass) :
    exists uri, resourceUri resourceClass.name = Except.ok uri := by
  cases resourceClass <;> exact ⟨_, rfl⟩

theorem readSingle_costs (hbest : replies.AtBest)
    (resourceClass : InventoryClass) :
    Costs client replies pulls 1 (fun _ => True) (readSingle resourceClass) := by
  rcases inventory_uri resourceClass with ⟨uri, huri⟩
  have hgot : Costs client replies pulls 1
      (fun got : Option Instance × Option ErrorClass =>
        exists container, got.1 = some container ∧ Usable uri container)
      (getWithErrorClass resourceClass.name) := by
    apply costs_bind (n := 0) (costs_get hbest huri [])
    rintro _ ⟨container, rfl, husable⟩
    exact costs_pure ⟨container, rfl, husable⟩
  apply costs_bind (n := 0) hgot
  rintro ⟨_, _⟩ ⟨container, rfl, husable⟩
  have hfound : AmtInfo.nonempty (some container) = some container := by
    apply Option.filter_some_pos
    rw [Bool.not_eq_true', List.isEmpty_eq_false_iff]
    exact husable.nonempty
  dsimp only
  rw [hfound]
  exact costs_pure trivial

theorem readMany_costs (hbest : replies.AtBest)
    (factory : Instance -> alpha) (resourceClass : InventoryClass) :
    Costs client replies (pulls + 1) 2 (fun _ => True)
      (readMany factory resourceClass) := by
  rcases inventory_uri resourceClass with ⟨uri, huri⟩
  have hfound : Costs client replies (pulls + 1) 2
      (fun found : Option (List Value) × Option ErrorClass =>
        found.2 = none)
      (enumerateWithErrorClass resourceClass.name) := by
    apply costs_bind (n := 0) (costs_enumerate hbest huri)
    rintro _ ⟨items, rfl⟩
    exact costs_pure rfl
  apply costs_bind (n := 0) hfound
  rintro ⟨instances, _⟩ rfl
  exact costs_pure trivial

theorem readIf_costs {wanted : Prop} [Decidable wanted]
    {read : FactsScript alpha}
    (h : Costs client replies pulls n (fun _ => True) read) :
    Costs client replies pulls (if wanted then n else 0) (fun _ => True)
      (readIf wanted read) := by
  by_cases hwanted : wanted
  · rw [if_pos hwanted, decide_eq_true hwanted]
    exact costs_bind (n := 0) h fun _ _ => costs_pure trivial
  · rw [if_neg hwanted, decide_eq_false hwanted]
    exact costs_pure trivial

end Costs

/-!
## The estimate
-/

/-- The requests of the inventory. -/
def hardwareCost (subsets : Finset Subset) : Nat :=
  (if Subset.system ∈ subsets then 2 else 0) +
    ((if Subset.processor ∈ subsets then 4 else 0) +
      ((if Subset.memory ∈ subsets then 2 else 0) +
        if Subset.storage ∈ subsets then 2 else 0))

theorem mem_validSubsets (subset : Subset) : subset ∈ validSubsets := by
  cases subset <;> decide

theorem roundTripEstimate_eq {subsets : Finset Subset}
    (hconfig : Subset.config ∈ subsets) :
    roundTripEstimate subsets = 10 + hardwareCost subsets := by
  have hinter : validSubsets ∩ subsets = subsets :=
    Finset.inter_eq_right.mpr fun subset _ => mem_validSubsets subset
  rw [roundTripEstimate, ← hinter, ← Finset.sum_ite_mem, hardwareCost, hinter,
    validSubsets, Finset.sum_insert (by decide), Finset.sum_insert (by decide),
    Finset.sum_insert (by decide), Finset.sum_insert (by decide),
    Finset.sum_singleton, if_pos hconfig]
  rfl

theorem hardwareCost_of_no_group {subsets : Finset Subset}
    (h : requestedFactGroups subsets = ∅) : hardwareCost subsets = 0 := by
  have hnone : forall subset, factGroupsBySubset subset ≠ ∅ ->
      subset ∉ subsets := by
    intro subset hgroups hmem
    apply hgroups
    apply Finset.subset_empty.mp
    rw [← h]
    exact Finset.subset_biUnion_of_mem factGroupsBySubset hmem
  rw [hardwareCost, if_neg (hnone Subset.system (by decide)),
    if_neg (hnone Subset.processor (by decide)),
    if_neg (hnone Subset.memory (by decide)),
    if_neg (hnone Subset.storage (by decide))]

section Estimate

variable {client : Client} {replies : Replies} {pulls : Nat}

theorem getHardwareFacts_costs (hbest : replies.AtBest)
    (subsets : Finset Subset) :
    Costs client replies (pulls + 1) (hardwareCost subsets) (fun _ => True)
      (getHardwareFacts subsets) := by
  by_cases hgroups : requestedFactGroups subsets = ∅
  · rw [hardwareCost_of_no_group hgroups, getHardwareFacts,
      if_pos hgroups]
    exact costs_pure trivial
  · have hsystem : Costs client replies (pulls + 1) 2 (fun _ => True)
        readSystem :=
      costs_bind (readSingle_costs hbest _) fun _ _ =>
        costs_bind (n := 0) (readSingle_costs hbest _) fun _ _ =>
          costs_pure trivial
    have hprocessor : Costs client replies (pulls + 1) 4 (fun _ => True)
        readProcessor :=
      costs_bind (readMany_costs hbest _ _) fun _ _ =>
        costs_bind (n := 0) (readMany_costs hbest _ _) fun _ _ =>
          costs_pure trivial
    rw [getHardwareFacts, if_neg hgroups, hardwareCost]
    apply costs_bind (readIf_costs hsystem)
    intro system _
    apply costs_bind (readIf_costs hprocessor)
    intro processor _
    apply costs_bind (readIf_costs (readMany_costs hbest _ _))
    intro memory _
    apply costs_bind (n := 0) (readIf_costs (readMany_costs hbest _ _))
    exact fun _ _ => costs_pure trivial

theorem getFacts_costs (hbest : replies.AtBest) (subsets : Finset Subset) :
    Costs client replies (pulls + 1)
      (1 + (1 + (1 + (1 + (1 + (2 + (1 + (1 + (1 + (1 +
        hardwareCost subsets))))))))))
      (fun _ => True) (getFacts subsets) := by
  have hget : forall {resourceClass uri : String},
      resourceUri resourceClass = Except.ok uri -> forall selectors,
        Costs client replies (pulls + 1) 1 (fun _ => True)
          (getOptional resourceClass selectors) := by
    intro resourceClass uri huri selectors position
    rcases getOptional_costs hbest huri selectors position with
      ⟨found, hplay, _⟩
    exact ⟨found, hplay, trivial⟩
  apply costs_bind (hget rfl [])
  intro general _
  apply costs_bind (hget rfl [])
  intro setup _
  apply costs_bind (hget rfl [])
  intro powerAssoc _
  apply costs_bind (hget rfl [])
  intro bootCaps _
  apply costs_bind (hget rfl [])
  intro redirection _
  have hversion : Costs client replies (pulls + 1) 2 (fun _ => True)
      getAmtVersion :=
    costs_bind (n := 0) (enumerateOptional_costs hbest rfl) fun _ _ =>
      costs_pure trivial
  have hread : forall {alpha : Type} {resourceClass uri : String}
      (selectors : List (String × String))
      (f : Option Instance -> Option alpha),
      resourceUri resourceClass = Except.ok uri ->
        Costs client replies (pulls + 1) 1 (fun _ => True) (do
          let container ← getOptional resourceClass selectors
          pure (f container)) := by
    intro alpha resourceClass uri selectors f huri
    exact costs_bind (n := 0) (hget huri selectors) fun _ _ =>
      costs_pure trivial
  apply costs_bind hversion
  intro version _
  apply costs_bind (hread [] _ rfl)
  intro uuid _
  apply costs_bind (hread ethernetPort0Selector _ rfl)
  intro network _
  apply costs_bind (hread managedSystemSelector _ rfl)
  intro systemState _
  apply costs_bind (getBiosVersion_costs hbest)
  intro biosVersion _
  apply costs_bind (n := 0) (getHardwareFacts_costs hbest subsets)
  exact fun _ _ => costs_pure trivial

end Estimate

/-- The facts take as many requests as the estimate says. -/
def AsEstimated (client : Client) (replies : Replies) (pulls : Nat)
    (subsets : Finset Subset) : Prop :=
  exists facts, Script.play replies 0 (gatherFacts client pulls subsets) =
    (Except.ok facts, roundTripEstimate subsets)

theorem gatherFacts_posts (client : Client) (pulls : Nat)
    (subsets : Finset Subset) :
    Script.Uses ReadingPost (gatherFacts client pulls subsets) := by
  apply Script.uses_lowered
  intro o
  cases o with
  | get resourceClass selectors =>
      apply Script.uses_handle
      · exact Script.uses_bind (posts_get client _ _) fun _ => trivial
      · intro e
        cases e <;> trivial
  | enumerate resourceClass =>
      apply Script.uses_handle
      · exact Script.uses_bind (posts_enumerate client _ _ _) fun _ => trivial
      · intro e
        cases e <;> trivial

/-- At its best an endpoint is asked once more than estimated. -/
theorem getFacts_costs_one_more {replies : Replies}
    (hbest : replies.AtBest) (client : Client) (pulls : Nat)
    (gatherSubset : List String) :
    let subsets := resolveGatherSubset gatherSubset
    Script.Uses ReadingPost (gatherFacts client (pulls + 1) subsets) ∧
      (exists facts,
        Script.play replies 0 (gatherFacts client (pulls + 1) subsets) =
          (Except.ok facts, roundTripEstimate subsets + 1)) ∧
      ¬ AsEstimated client replies (pulls + 1) subsets := by
  intro subsets
  have hconfig : Subset.config ∈ subsets :=
    minimalSubset_resolved gatherSubset (by decide)
  rcases @getFacts_costs client replies pulls hbest subsets 0 with
    ⟨facts, hplay, _⟩
  have hsum : 0 + (1 + (1 + (1 + (1 + (1 + (2 + (1 + (1 + (1 + (1 +
      hardwareCost subsets)))))))))) = roundTripEstimate subsets + 1 := by
    rw [roundTripEstimate_eq hconfig]
    lia
  have hcount : Script.play replies 0 (gatherFacts client (pulls + 1) subsets) =
      (Except.ok facts, roundTripEstimate subsets + 1) := by
    rw [← hsum]
    exact hplay
  refine ⟨gatherFacts_posts client (pulls + 1) subsets, ⟨facts, hcount⟩, ?_⟩
  rintro ⟨others, hestimated⟩
  rw [hcount] at hestimated
  have hsame := congrArg Prod.snd hestimated
  exact Nat.succ_ne_self _ hsame

/-- The instance that a Get is answered with here. -/
def versionBody : Element where
  tag := qualified soapNs "Body"
  children :=
    [{ tag := "Instance"
       children := [{ tag := "Version", text := some "1" }] }]

/-- An instance with a version, an opening page or a last page. -/
def bestReplies : Replies
  | _, WsmanOp.post request =>
      PostResult.response
        (if request.action = actionEnumerate then
          (Page.opening "1").delivered.response
        else if request.action = actionPull then
          (Page.delivered ⟨some [], none, true⟩).response
        else enveloped versionBody)
  | _, WsmanOp.sleep _ => ()
  | _, WsmanOp.connect _ _ => true

theorem bestReplies_atBest : bestReplies.AtBest := by
  have hget_enumerate : actionGet ≠ actionEnumerate := by decide +kernel
  have hget_pull : actionGet ≠ actionPull := by decide +kernel
  have hpull_enumerate : actionPull ≠ actionEnumerate := by decide +kernel
  intro position request
  refine ⟨?_, ?_, ?_⟩
  · intro haction
    have hinstance : singleInstance versionBody =
        [("Version", Value.text "1")] := by
      have hname : localName "Version" = "Version" := by decide +kernel
      have htext : strip "1" = "1" := by decide +kernel
      rw [singleInstance_eq rfl, membersOf, membersOf, hname, elementToValue,
        Option.getD_some, htext]
      rfl
    refine ⟨enveloped versionBody, versionBody, ?_, answers_enveloped rfl,
      by decide +kernel, ?_, ?_⟩
    · rw [bestReplies, haction, if_neg hget_enumerate, if_neg hget_pull]
    · rw [hinstance]
      exact List.cons_ne_nil _ _
    · intro _
      rw [hinstance]
      decide +kernel
  · intro haction
    refine ⟨(Page.opening "1").delivered, "1", ?_, rfl, by decide⟩
    rw [bestReplies, if_pos haction]
  · intro haction
    refine ⟨Page.delivered ⟨some [], none, true⟩, ?_, rfl, ?_⟩
    · rw [bestReplies, haction, if_neg hpull_enumerate, if_pos rfl]
    · exact fun _ hmem => absurd hmem List.not_mem_nil

theorem getFacts_costs_one_more_config :
    let client : Client := { endpoint := "h:16993" }
    let subsets := resolveGatherSubset ["config"]
    Script.Uses ReadingPost (gatherFacts client 1 subsets) ∧
      (exists facts, Script.play bestReplies 0 (gatherFacts client 1 subsets) =
        (Except.ok facts, roundTripEstimate subsets + 1)) ∧
      ¬ AsEstimated client bestReplies 1 subsets :=
  getFacts_costs_one_more bestReplies_atBest { endpoint := "h:16993" } 0
    ["config"]

/-- Eleven requests for the configuration, where the table says ten. -/
theorem eleven_requests :
    bestReplies.AtBest ∧
      ¬ AsEstimated { endpoint := "h:16993" } bestReplies 1
        (resolveGatherSubset ["config"]) := by
  refine ⟨bestReplies_atBest, ?_⟩
  rintro ⟨others, hestimated⟩
  rcases @getFacts_costs { endpoint := "h:16993" } bestReplies 0
    bestReplies_atBest (resolveGatherSubset ["config"]) 0 with
    ⟨facts, hplay, _⟩
  have hcount := congrArg Prod.snd (hestimated.symm.trans hplay)
  dsimp only at hcount
  revert hcount
  decide +kernel

end AmtInfo
end IntelAmt
