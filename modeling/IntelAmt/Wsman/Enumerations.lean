import IntelAmt.Wsman.ReadBack

/-!
# How long an enumeration goes on

An enumeration pulls as long as the endpoint hands it contexts.  With answers
to all posts fixed, a call has ended if it has ended for some number of
rounds that it is followed.
-/

namespace IntelAmt
namespace Wsman

open Foundation

/-- The call that is followed for some number of rounds comes to its end. -/
def Finishes {alpha : Type} (answers : Nat -> (o : WsmanOp) -> WsmanAnswer o)
    (x : Nat -> WsmanScript alpha) : Prop :=
  exists rounds,
    (Script.play answers 0 (x rounds)).1 ≠ Except.error Failure.waiting

def answersOf (results : Nat -> PostResult) (position : Nat) :
    (o : WsmanOp) -> WsmanAnswer o
  | WsmanOp.post _ => results position
  | WsmanOp.sleep _ => ()
  | WsmanOp.connect _ _ => true

/-- An endpoint that answers every post with a well-formed response. -/
structure Endpoint (client : Client) where
  responses : Nat -> Response
  bodies : Nat -> Element
  wellFormed : forall n operation,
    handleResponse client operation (responses n) = Except.ok (bodies n)

def Endpoint.answers {client : Client} (endpoint : Endpoint client) :
    Nat -> (o : WsmanOp) -> WsmanAnswer o :=
  answersOf fun n => PostResult.response (endpoint.responses n)

/-- The answer to the Enumerate request has no context, or the one to some
Pull ends the sequence or has no context. -/
def Endpoint.Ending {client : Client} (endpoint : Endpoint client) : Prop :=
  contextOf (findByLocalName (endpoint.bodies 0) "EnumerationContext") =
      none ∨
    exists n, nextContext (endpoint.bodies (n + 1)) = none

section Endpoints

variable {client : Client} (endpoint : Endpoint client)
variable {resourceClass uri : String}

theorem play_execute (request : Request) (operation : String)
    (retryable : Bool) (position : Nat) :
    Script.play endpoint.answers position
        (execute client request operation retryable) =
      (Except.ok (endpoint.bodies position), position + 1) := by
  have hpost : forall left,
      Script.play endpoint.answers position
          (postUpTo client request operation left) =
        (Except.ok (endpoint.bodies position), position + 1) := by
    intro left
    have hsettle : forall retry : AmtError -> WsmanScript Element,
        settle client operation retry
            (PostResult.response (endpoint.responses position)) =
          Script.returned (endpoint.bodies position) := by
      intro retry
      rw [settle, endpoint.wellFormed position operation]
      rfl
    cases left with
    | zero =>
        change Script.play endpoint.answers (position + 1)
          (settle client operation raiseAmt
            (PostResult.response (endpoint.responses position))) = _
        rw [hsettle]
        rfl
    | succ left =>
        change Script.play endpoint.answers (position + 1)
          (settle client operation
            (fun _ => postUpTo client request operation left)
            (PostResult.response (endpoint.responses position))) = _
        rw [hsettle]
        rfl
  exact hpost _

theorem play_pullFrom (pulls : Nat) (context : String) (items : List Value)
    (position : Nat) :
    Script.play endpoint.answers position
        (pullFrom client resourceClass uri (pulls + 1) (some context) items) =
      Script.play endpoint.answers (position + 1)
        (pullFrom client resourceClass uri pulls
          (nextContext (endpoint.bodies position))
          (items ++ pageItems (endpoint.bodies position))) := by
  rw [pullFrom]
  exact Script.play_bind_ok
    (play_execute endpoint (pullRequest uri context) _ true position)

theorem pullFrom_finishes (resourceClass uri : String) (n : Nat)
    (context : Option String) (items : List Value) (position : Nat)
    (h : context = none ∨ nextContext (endpoint.bodies (position + n)) = none) :
    exists pulls found later,
      Script.play endpoint.answers position
          (pullFrom client resourceClass uri pulls context items) =
        (Except.ok found, later) := by
  induction n generalizing context items position with
  | zero =>
      cases context with
      | none => exact ⟨0, items, position, rfl⟩
      | some context =>
          have hnone : nextContext (endpoint.bodies position) = none := by
            rcases h with h | h
            · cases h
            · exact h
          refine ⟨1, items ++ pageItems (endpoint.bodies position),
            position + 1, ?_⟩
          rw [play_pullFrom, hnone]
          rfl
  | succ n ih =>
      cases context with
      | none => exact ⟨0, items, position, rfl⟩
      | some context =>
          have hlater :
              nextContext (endpoint.bodies (position + 1 + n)) = none := by
            rcases h with h | h
            · cases h
            · rw [Nat.add_assoc, Nat.add_comm 1 n]
              exact h
          rcases ih (nextContext (endpoint.bodies position))
              (items ++ pageItems (endpoint.bodies position)) (position + 1)
              (Or.inr hlater) with
            ⟨pulls, found, later, hplay⟩
          refine ⟨pulls + 1, found, later, ?_⟩
          rw [play_pullFrom]
          exact hplay

/-- As long as there are contexts there is another Pull. -/
theorem pullFrom_waits (h : forall n, nextContext (endpoint.bodies (n + 1)) ≠ none)
    (pulls : Nat) (context : String) (items : List Value) (position : Nat) :
    (Script.play endpoint.answers (position + 1)
      (pullFrom client resourceClass uri pulls (some context) items)).1 =
        Except.error Failure.waiting := by
  induction pulls generalizing context items position with
  | zero => rfl
  | succ pulls ih =>
      rw [play_pullFrom]
      cases hnext : nextContext (endpoint.bodies (position + 1)) with
      | none => exact absurd hnext (h position)
      | some next => exact ih next _ (position + 1)

theorem play_enumerate {selectors : List (String × String)}
    (huri : resourceUri resourceClass = Except.ok uri) (pulls position : Nat) :
    Script.play endpoint.answers position
        (enumerate client pulls resourceClass selectors) =
      Script.play endpoint.answers (position + 1)
        (pullFrom client resourceClass uri pulls
          (contextOf
            (findByLocalName (endpoint.bodies position) "EnumerationContext"))
          []) := by
  rw [enumerate, huri]
  exact Script.play_bind_ok
    (x := execute client (enumerateRequest uri selectors) _ true)
    (play_execute endpoint (enumerateRequest uri selectors) _ true position)

theorem enumerate_waits {selectors : List (String × String)}
    (huri : resourceUri resourceClass = Except.ok uri)
    (h : ¬ endpoint.Ending) :
    ¬ Finishes endpoint.answers
      (fun pulls => enumerate client pulls resourceClass selectors) := by
  intro hfinishes
  rcases hfinishes with ⟨pulls, hended⟩
  rw [play_enumerate endpoint huri] at hended
  cases hcontext : contextOf
      (findByLocalName (endpoint.bodies 0) "EnumerationContext") with
  | none => exact h (Or.inl hcontext)
  | some context =>
      rw [hcontext] at hended
      apply hended
      apply pullFrom_waits
      intro n hnone
      exact h (Or.inr ⟨n, hnone⟩)

/-- With well-formed responses an enumeration ends exactly when one of them
ends it, or when the class is not one that can be enumerated at all. -/
theorem enumerate_finishes_iff (selectors : List (String × String)) :
    Finishes endpoint.answers
        (fun pulls => enumerate client pulls resourceClass selectors) ↔
      endpoint.Ending ∨ resourceUri resourceClass =
        Except.error OtherError.value := by
  cases huri : resourceUri resourceClass with
  | error e =>
      have he : e = OtherError.value := by
        rw [resourceUri] at huri
        split at huri
        · cases huri
          rfl
        · cases huri
      rw [he]
      apply iff_of_true
      · refine ⟨0, ?_⟩
        dsimp only
        rw [enumerate, huri]
        intro h
        cases h
      · exact Or.inr rfl
  | ok uri =>
      constructor
      · intro hfinishes
        by_cases hending : endpoint.Ending
        · exact Or.inl hending
        · exact absurd hfinishes (enumerate_waits endpoint huri hending)
      · intro hcases
        rcases hcases with hending | hbad
        · have hpulls : exists n,
              contextOf (findByLocalName (endpoint.bodies 0)
                  "EnumerationContext") = none ∨
                nextContext (endpoint.bodies (1 + n)) = none := by
            rcases hending with hnone | ⟨n, hnone⟩
            · exact ⟨0, Or.inl hnone⟩
            · rw [Nat.add_comm] at hnone
              exact ⟨n, Or.inr hnone⟩
          rcases hpulls with ⟨n, hn⟩
          rcases pullFrom_finishes endpoint resourceClass uri n _ [] 1 hn with
            ⟨pulls, found, later, hplay⟩
          refine ⟨pulls, ?_⟩
          dsimp only
          rw [play_enumerate endpoint huri, hplay]
          intro h
          cases h
        · cases hbad

end Endpoints

def enveloped (body : Element) : Response where
  statusCode := 200
  text := ""
  document := Except.ok
    { tag := qualified soapNs "Envelope", children := [body] }

def contextPage (context : String) : Element where
  tag := qualified soapNs "Body"
  children :=
    [{ tag := qualified enumerationNs "EnumerationContext"
       text := some context }]

def sameContext (client : Client) : Endpoint client where
  responses _ := enveloped (contextPage "7")
  bodies _ := contextPage "7"
  wellFormed _ _ := rfl

theorem sameContext_waits :
    ¬ Finishes (sameContext { endpoint := "h:16993" }).answers
      (fun pulls => enumerate { endpoint := "h:16993" } pulls
        "CIM_BootSourceSetting") := by
  have huri : resourceUri "CIM_BootSourceSetting" = Except.ok
      ("http://schemas.dmtf.org/wbem/wscim/1/cim-schema/2/" ++
        "CIM_BootSourceSetting") := rfl
  have hcontext : contextOf
      (findByLocalName (contextPage "7") "EnumerationContext") ≠ none := by
    decide +kernel
  have hnext : nextContext (contextPage "7") ≠ none := by decide +kernel
  apply enumerate_waits _ huri
  intro hending
  rcases hending with hnone | ⟨_, hnone⟩
  · exact hcontext hnone
  · exact hnext hnone

end Wsman
end IntelAmt
