import IntelAmt.Foundation.Transcript

/-!
# Rehearsals

A script that rehearses another one goes the same way with quiet operations
only.  It stops where the other one is about to do something that is not
quiet, and announces that in what it returns.
-/

namespace IntelAmt
namespace Foundation
namespace Script

variable {op : Type} {answer : op -> Type} {error alpha beta : Type}
variable {quiet : op -> Prop} {announces : alpha -> Prop}

/-- Whatever the script finishes with, it announces, and it has asked for an
operation that is not quiet. -/
def Commits (quiet : op -> Prop) (announces finishes : alpha -> Prop)
    (x : Script op answer error alpha) : Prop :=
  forall log a, After x log (returned a) -> finishes a ->
    announces a ∧ exists exchange, exchange ∈ log ∧ ¬ quiet exchange.1

/-- `Rehearses check real`: how the rehearsal `check` and the script `real`
go on under the same answers. -/
inductive Rehearses (quiet : op -> Prop) (announces finishes : alpha -> Prop) :
    Script op answer error alpha -> Script op answer error alpha -> Prop where
  | ended {x : Script op answer error alpha} (hended : x.ended = true)
      (hsilent : forall a, x = returned a -> ¬ announces a) :
      Rehearses quiet announces finishes x x
  | announced {a : alpha} {x : Script op answer error alpha}
      (hannounces : announces a) (hended : x.ended = false)
      (hcommits : Commits quiet announces finishes x) :
      Rehearses quiet announces finishes (returned a) x
  | call {o : op} {next others : answer o -> Script op answer error alpha}
      (hquiet : quiet o)
      (h : forall a, Rehearses quiet announces finishes (next a) (others a)) :
      Rehearses quiet announces finishes (Script.call o next)
        (Script.call o others)

variable {finishes : alpha -> Prop}
variable {check real x y : Script op answer error alpha}
variable {log : List (Exchange answer)}

theorem returns_after {Q : alpha -> Prop} (h : After x log y)
    (hx : Returns Q x) : Returns Q y := by
  induction h with
  | here _ => exact hx
  | call _ ih => exact ih (hx _)

/-!
## Commitments
-/

theorem commits_raised (e : error) :
    Commits quiet announces finishes
      (raised e : Script op answer error alpha) := by
  intro log a h
  cases (after_raised h).2

theorem commits_call {o : op} {next : answer o -> Script op answer error alpha}
    (h : forall a, Commits quiet announces finishes (next a)) :
    Commits quiet announces finishes (Script.call o next) := by
  intro log b hafter hfinishes
  rcases after_call hafter with ⟨_, hreturned⟩ | ⟨a, rest, hlog, hrest⟩
  · cases hreturned
  · rcases h a rest b hrest hfinishes with ⟨hannounces, exchange, hmem, hloud⟩
    rw [hlog]
    exact ⟨hannounces, exchange, List.mem_cons_of_mem _ hmem, hloud⟩

theorem commits_behind {x : Script op answer error beta}
    {f : beta -> Script op answer error alpha}
    (h : forall b, Commits quiet announces finishes (f b)) :
    Commits quiet announces finishes (x >>= f) := by
  induction x with
  | returned b => exact h b
  | raised e => exact commits_raised e
  | call o next ih => exact commits_call ih

/-- A script that asks for something that is not quiet has committed what
follows, when all of it announces. -/
theorem commits_front {x : Script op answer error beta}
    {f : beta -> Script op answer error alpha}
    (hx : forall log b, After x log (returned b) ->
      exists exchange, exchange ∈ log ∧ ¬ quiet exchange.1)
    (hf : forall b, Returns announces (f b)) :
    Commits quiet announces finishes (x >>= f) := by
  intro log a h _
  rcases after_bind_returned h with ⟨first, rest, b, hlog, hfirst, hrest⟩
  rcases hx first b hfirst with ⟨exchange, hmem, hloud⟩
  rw [hlog]
  exact ⟨returns_after hrest (hf b), exchange,
    List.mem_append_left rest hmem, hloud⟩

/-!
## Sequences
-/

theorem rehearses_raised (e : error) :
    Rehearses quiet announces finishes
      (raised e : Script op answer error alpha) (raised e) :=
  Rehearses.ended rfl fun _ h => by cases h

theorem rehearses_returned {a : alpha} (h : ¬ announces a) :
    Rehearses quiet announces finishes
      (returned a : Script op answer error alpha) (returned a) :=
  Rehearses.ended rfl fun _ hb => by
    cases hb
    exact h

theorem rehearses_bind {x : Script op answer error beta}
    {f g : beta -> Script op answer error alpha} (hx : Uses quiet x)
    (h : forall b, Rehearses quiet announces finishes (f b) (g b)) :
    Rehearses quiet announces finishes (x >>= f) (x >>= g) := by
  induction x with
  | returned b => exact h b
  | raised e => exact rehearses_raised e
  | call o next ih => exact Rehearses.call hx.1 fun a => ih a (hx.2 a)

theorem rehearses_self (hx : Uses quiet x)
    (hsilent : Returns (fun a => ¬ announces a) x) :
    Rehearses quiet announces finishes x x := by
  induction x with
  | returned a => exact rehearses_returned hsilent
  | raised e => exact rehearses_raised e
  | call o next ih =>
      exact Rehearses.call hx.1 fun a => ih a (hx.2 a) (hsilent a)

/-!
## What a rehearsal tells
-/

/-- The rehearsal asks for quiet operations only, and the script itself can
be where the rehearsal is. -/
theorem Rehearses.along (h : Rehearses quiet announces finishes check real)
    (hafter : After check log y) :
    (forall exchange, exchange ∈ log -> quiet exchange.1) ∧
      exists z, After real log z ∧ Rehearses quiet announces finishes y z := by
  induction hafter generalizing real with
  | here _ => exact ⟨(fun _ hmem => nomatch hmem), real, After.here real, h⟩
  | call _ ih =>
      cases h with
      | ended hended _ => cases hended
      | call hquiet h =>
          rcases ih (h _) with ⟨hlog, z, hz, hrest⟩
          refine ⟨?_, z, After.call hz, hrest⟩
          intro exchange hmem
          rcases List.mem_cons.mp hmem with heq | hmem
          · rw [heq]
            exact hquiet
          · exact hlog exchange hmem

/-- A run of the script itself has gone where the rehearsal goes, as far as
the rehearsal goes. -/
theorem Rehearses.back (h : Rehearses quiet announces finishes check real)
    (hafter : After real log y) :
    (exists z, After check log z ∧ Rehearses quiet announces finishes z y) ∨
      exists first rest a, log = first ++ rest ∧
        After check first (returned a) ∧ announces a := by
  induction hafter generalizing check with
  | here _ => exact Or.inl ⟨check, After.here check, h⟩
  | call hrest ih =>
      cases h with
      | ended hended _ => cases hended
      | announced hannounces _ _ =>
          exact Or.inr ⟨[], _, _, rfl, After.here _, hannounces⟩
      | call _ h =>
          rcases ih (h _) with ⟨z, hz, hfollows⟩ | ⟨first, rest, a, hlog, ha⟩
          · exact Or.inl ⟨z, After.call hz, hfollows⟩
          · refine Or.inr ⟨_ :: first, rest, a, ?_, After.call ha.1, ha.2⟩
            rw [hlog]
            rfl

/-!
## Results that are handed on
-/

theorem Rehearses.mapped {announced' finishes' : beta -> Prop}
    {f : alpha -> beta} (hannounces : forall a, announced' (f a) ↔ announces a)
    (hfinishes : forall a, finishes' (f a) -> finishes a)
    (h : Rehearses quiet announces finishes check real) :
    Rehearses quiet announced' finishes' (check >>= fun a => returned (f a))
      (real >>= fun a => returned (f a)) := by
  induction h with
  | @ended x hended hsilent =>
      cases x with
      | returned a =>
          exact rehearses_returned fun hb =>
            hsilent a rfl ((hannounces a).mp hb)
      | raised e => exact rehearses_raised e
      | call o next => cases hended
  | @announced a x ha hended hcommits =>
      refine Rehearses.announced ((hannounces a).mpr ha) ?_ ?_
      · cases x with
        | returned b => cases hended
        | raised e => cases hended
        | call o next => rfl
      · intro log b hafter hfinished
        rcases after_bind_returned hafter with
          ⟨first, rest, c, hlog, hc, hrest⟩
        rcases after_returned hrest with ⟨hnil, hreturned⟩
        cases hreturned
        rw [hnil, List.append_nil] at hlog
        rw [hlog]
        rcases hcommits first c hc (hfinishes c hfinished) with
          ⟨hannounced, hloud⟩
        exact ⟨(hannounces c).mpr hannounced, hloud⟩
  | call hquiet _ ih => exact Rehearses.call hquiet ih

theorem Rehearses.handled {handler : error -> Script op answer error alpha}
    (hhandler : forall e, (handler e).ended = true ∧
      forall a, handler e = returned a -> ¬ announces a ∧ ¬ finishes a)
    (h : Rehearses quiet announces finishes check real) :
    Rehearses quiet announces finishes (check.handle handler)
      (real.handle handler) := by
  induction h with
  | @ended x hended hsilent =>
      cases x with
      | returned a => exact rehearses_returned (hsilent a rfl)
      | raised e =>
          exact Rehearses.ended (hhandler e).1
            fun a ha => ((hhandler e).2 a ha).1
      | call o next => cases hended
  | @announced a x ha hended hcommits =>
      refine Rehearses.announced ha ?_ ?_
      · cases x with
        | returned b => cases hended
        | raised e => cases hended
        | call o next => rfl
      · intro log b hafter hfinished
        rcases after_handle_ended hafter rfl with
          ⟨c, hc, hb⟩ | ⟨first, rest, e, _, _, hrest⟩
        · cases hb
          exact hcommits log b hc hfinished
        · have hsame := (after_ended (hhandler e).1 hrest).2
          exact absurd hfinished ((hhandler e).2 b hsame.symm).2
  | call hquiet _ ih => exact Rehearses.call hquiet ih

end Script
end Foundation
end IntelAmt
