/-!
# Stateful computations that may raise

A computation reads and replaces a state and either returns a value or raises.
The state survives a raise: what was done before it is not undone, as in the
object-oriented code this is meant for.

The second half is about loops.  A loop runs on explicit fuel; when a measure
of the state goes down in every pass that comes back to the loop test, the
fuel never runs out and the loop satisfies its own unfolding equation.
-/

namespace IntelAmt
namespace Foundation

structure Exec (error state alpha : Type) where
  run : state -> Except error alpha × state

namespace Exec

variable {error state alpha beta : Type}

instance : Monad (Exec error state) where
  pure a := ⟨fun s => (Except.ok a, s)⟩
  bind x f := ⟨fun s =>
    match x.run s with
    | (Except.ok a, s') => (f a).run s'
    | (Except.error e, s') => (Except.error e, s')⟩

def raise (e : error) : Exec error state alpha :=
  ⟨fun s => (Except.error e, s)⟩

def reads (f : state -> alpha) : Exec error state alpha :=
  ⟨fun s => (Except.ok (f s), s)⟩

def update (f : state -> state) : Exec error state Unit :=
  ⟨fun s => (Except.ok (), f s)⟩

@[simp] theorem run_pure (a : alpha) (s : state) :
    (pure a : Exec error state alpha).run s = (Except.ok a, s) := rfl

theorem run_bind (x : Exec error state alpha)
    (f : alpha -> Exec error state beta) (s : state) :
    (x >>= f).run s =
      match x.run s with
      | (Except.ok a, s') => (f a).run s'
      | (Except.error e, s') => (Except.error e, s') := rfl

@[simp] theorem run_raise (e : error) (s : state) :
    (raise e : Exec error state alpha).run s = (Except.error e, s) := rfl

@[simp] theorem run_reads (f : state -> alpha) (s : state) :
    (reads f : Exec error state alpha).run s = (Except.ok (f s), s) := rfl

@[simp] theorem run_update (f : state -> state) (s : state) :
    (update f : Exec error state Unit).run s = (Except.ok (), f s) := rfl

theorem run_bind_of_ok {x : Exec error state alpha}
    {f : alpha -> Exec error state beta} {s s' : state} {a : alpha}
    (h : x.run s = (Except.ok a, s')) :
    (x >>= f).run s = (f a).run s' := by
  rw [run_bind, h]

theorem run_bind_of_error {x : Exec error state alpha}
    {f : alpha -> Exec error state beta} {s s' : state} {e : error}
    (h : x.run s = (Except.error e, s')) :
    (x >>= f).run s = (Except.error e, s') := by
  rw [run_bind, h]

@[simp] theorem run_pure_bind (a : alpha)
    (f : alpha -> Exec error state beta) (s : state) :
    ((pure a : Exec error state alpha) >>= f).run s = (f a).run s := rfl

@[simp] theorem run_raise_bind (e : error)
    (f : alpha -> Exec error state beta) (s : state) :
    ((raise e : Exec error state alpha) >>= f).run s =
      (Except.error e, s) := rfl

@[simp] theorem run_reads_bind (g : state -> alpha)
    (f : alpha -> Exec error state beta) (s : state) :
    (reads g >>= f).run s = (f (g s)).run s := rfl

@[simp] theorem run_update_bind (g : state -> state)
    (f : Unit -> Exec error state beta) (s : state) :
    (update g >>= f).run s = (f ()).run (g s) := rfl

/-- Run a computation, and a handler in its place from where it raises. -/
def handle (x : Exec error state alpha)
    (handler : error -> Exec error state alpha) : Exec error state alpha :=
  ⟨fun s =>
    match x.run s with
    | (Except.ok a, s') => (Except.ok a, s')
    | (Except.error e, s') => (handler e).run s'⟩

/-!
## Triples

Started where `P` holds, a computation returns a value where `Q` holds of it,
or raises where `E` holds.
-/

def Ensures (P : state -> Prop) (x : Exec error state alpha)
    (Q : alpha -> state -> Prop) (E : state -> Prop) : Prop :=
  forall s, P s ->
    match x.run s with
    | (Except.ok a, s') => Q a s'
    | (Except.error _, s') => E s'

section Triples

variable {P : state -> Prop} {E : state -> Prop}

theorem ensures_pure {Q : alpha -> state -> Prop} {a : alpha}
    (h : forall s, P s -> Q a s) :
    Ensures P (pure a : Exec error state alpha) Q E := h

theorem ensures_raise {Q : alpha -> state -> Prop} {e : error}
    (h : forall s, P s -> E s) :
    Ensures P (raise e : Exec error state alpha) Q E := h

theorem ensures_reads {Q : alpha -> state -> Prop} {f : state -> alpha}
    (h : forall s, P s -> Q (f s) s) :
    Ensures P (reads f : Exec error state alpha) Q E := h

theorem ensures_update {Q : Unit -> state -> Prop} {f : state -> state}
    (h : forall s, P s -> Q () (f s)) :
    Ensures P (update f : Exec error state Unit) Q E := h

theorem ensures_bind {Q : alpha -> state -> Prop}
    {R : beta -> state -> Prop} {x : Exec error state alpha}
    {f : alpha -> Exec error state beta} (hx : Ensures P x Q E)
    (hf : forall a, Ensures (Q a) (f a) R E) : Ensures P (x >>= f) R E := by
  intro s hs
  have hfirst := hx s hs
  rw [run_bind]
  rcases hrun : x.run s with ⟨result, s'⟩
  rw [hrun] at hfirst
  cases result with
  | ok a => exact hf a s' hfirst
  | error e => exact hfirst

theorem ensures_from {R : state -> Prop} {Q : alpha -> state -> Prop}
    {x : Exec error state alpha} (hx : Ensures R x Q E)
    (h : forall s, P s -> R s) : Ensures P x Q E :=
  fun s hs => hx s (h s hs)

theorem ensures_handle {Q : alpha -> state -> Prop} {E' : state -> Prop}
    {x : Exec error state alpha} {handler : error -> Exec error state alpha}
    (hx : Ensures P x Q E) (hhandler : forall e, Ensures E (handler e) Q E') :
    Ensures P (handle x handler) Q E' := by
  intro s hs
  have hfirst := hx s hs
  unfold handle
  rcases hrun : x.run s with ⟨result, s'⟩
  rw [hrun] at hfirst
  cases result with
  | ok a => simpa only [hrun] using hfirst
  | error e =>
      simp only [hrun]
      exact hhandler e s' hfirst

end Triples

/-!
## Loops

A pass of a loop body either comes back to the loop test or leaves the
function that the loop stands in.
-/

inductive Flow where
  | next
  | done
deriving DecidableEq, Repr

/-- A while loop on fuel.  When the fuel is used up and the test still holds,
the loop raises `stuck`, which no loop with a measure does. -/
def loop (stuck : error) (test : state -> Bool)
    (body : Exec error state Flow) : Nat -> state -> Except error Unit × state
  | 0, s => if test s then (Except.error stuck, s) else (Except.ok (), s)
  | fuel + 1, s =>
      if test s then
        match body.run s with
        | (Except.ok Flow.next, s') => loop stuck test body fuel s'
        | (Except.ok Flow.done, s') => (Except.ok (), s')
        | (Except.error e, s') => (Except.error e, s')
      else (Except.ok (), s)

/-- The loop whose fuel is what `measure` says at its start. -/
def whileLoop (stuck : error) (measure : state -> Nat) (test : state -> Bool)
    (body : Exec error state Flow) : Exec error state Unit :=
  ⟨fun s => loop stuck test body (measure s) s⟩

section Measured

variable {stuck : error} {measure : state -> Nat} {test : state -> Bool}
variable {body : Exec error state Flow}

/-- The measure is positive while the test holds, and it goes down in every
pass that comes back to the test. -/
structure Decreases (measure : state -> Nat) (test : state -> Bool)
    (body : Exec error state Flow) : Prop where
  positive : forall s, test s = true -> 0 < measure s
  lower : forall s s', test s = true ->
    body.run s = (Except.ok Flow.next, s') -> measure s' < measure s

/-- Any two amounts of fuel that cover the measure give the same run. -/
theorem loop_fuel_congr (hdec : Decreases measure test body) :
    forall (fuel fuel' : Nat) (s : state),
      measure s ≤ fuel -> measure s ≤ fuel' ->
      loop stuck test body fuel s = loop stuck test body fuel' s := by
  intro fuel
  induction fuel with
  | zero =>
      intro fuel' s hle hle'
      have hfalse : test s = false := by
        cases htest : test s with
        | false => rfl
        | true =>
            have := hdec.positive s htest
            lia
      cases fuel' <;> simp [loop, hfalse]
  | succ fuel ih =>
      intro fuel' s hle hle'
      cases htest : test s with
      | false => cases fuel' <;> simp [loop, htest]
      | true =>
          have hpos := hdec.positive s htest
          cases fuel' with
          | zero => lia
          | succ fuel' =>
              simp only [loop, htest, if_true]
              rcases hbody : body.run s with ⟨result, s'⟩
              rcases result with e | flow
              · rfl
              · cases flow with
                | done => rfl
                | next =>
                    have hlt := hdec.lower s s' htest hbody
                    exact ih fuel' s' (by lia) (by lia)

/-- The unfolding equation of a loop with a measure. -/
theorem run_whileLoop (hdec : Decreases measure test body) (s : state) :
    (whileLoop stuck measure test body).run s =
      if test s then
        match body.run s with
        | (Except.ok Flow.next, s') =>
            (whileLoop stuck measure test body).run s'
        | (Except.ok Flow.done, s') => (Except.ok (), s')
        | (Except.error e, s') => (Except.error e, s')
      else (Except.ok (), s) := by
  show loop stuck test body (measure s) s = _
  rw [loop_fuel_congr hdec (measure s) (measure s + 1) s (by lia) (by lia)]
  cases htest : test s with
  | false => simp [loop, htest]
  | true =>
      simp only [loop, htest, if_true]
      rcases hbody : body.run s with ⟨result, s'⟩
      rcases result with e | flow
      · rfl
      · cases flow with
        | done => rfl
        | next =>
            have hlt := hdec.lower s s' htest hbody
            exact loop_fuel_congr hdec (measure s) (measure s') s'
              (by lia) (by lia)

end Measured
end Exec
end Foundation
end IntelAmt
