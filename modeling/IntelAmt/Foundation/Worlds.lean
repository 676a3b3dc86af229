import IntelAmt.Foundation.Script

/-!
# Scripts in a world

A world answers every operation and may change by it; a script that is carried
out there ends with a result and leaves a world behind.
-/

namespace IntelAmt
namespace Foundation
namespace Script

variable {op : Type} {answer : op -> Type} {error alpha beta world : Type}

def carry (perform : world -> (o : op) -> answer o × world) : world ->
    Script op answer error alpha -> Except error alpha × world
  | w, returned a => (Except.ok a, w)
  | w, raised e => (Except.error e, w)
  | w, call o next => carry perform (perform w o).2 (next (perform w o).1)

variable {perform : world -> (o : op) -> answer o × world}
variable {x : Script op answer error alpha} {w w' : world}

theorem carry_bind_ok {f : alpha -> Script op answer error beta} {a : alpha}
    (h : carry perform w x = (Except.ok a, w')) :
    carry perform w (x >>= f) = carry perform w' (f a) := by
  induction x generalizing w with
  | returned b =>
      cases h
      rfl
  | raised e => cases h
  | call o next ih => exact ih _ h

theorem carry_bind_error {f : alpha -> Script op answer error beta}
    {e : error} (h : carry perform w x = (Except.error e, w')) :
    carry perform w (x >>= f) = (Except.error e, w') := by
  induction x generalizing w with
  | returned b => cases h
  | raised e =>
      cases h
      rfl
  | call o next ih => exact ih _ h

theorem carry_handle {handler : error -> Script op answer error alpha}
    (h : forall e w, (carry perform w (handler e)).2 = w) :
    (carry perform w (x.handle handler)).2 = (carry perform w x).2 := by
  induction x generalizing w with
  | returned a => rfl
  | raised e => exact h e w
  | call o next ih => exact ih _

theorem carry_same {allowed : op -> Prop}
    (hperform : forall w o, allowed o -> (perform w o).2 = w)
    (hx : Uses allowed x) : (carry perform w x).2 = w := by
  induction x generalizing w with
  | returned a => rfl
  | raised e => rfl
  | call o next ih =>
      rw [carry, hperform w o hx.1]
      exact ih _ (hx.2 _)

/-!
## Surroundings that do not change
-/

/-- What comes of a script whose operations are always answered alike. -/
def answered (answers : (o : op) -> answer o) :
    Script op answer error alpha -> Except error alpha
  | returned a => Except.ok a
  | raised e => Except.error e
  | call o next => answered answers (next (answers o))

section Answered

variable {answers others : (o : op) -> answer o}

theorem answered_bind_ok {f : alpha -> Script op answer error beta} {a : alpha}
    (h : answered answers x = Except.ok a) :
    answered answers (x >>= f) = answered answers (f a) := by
  induction x with
  | returned b =>
      cases h
      rfl
  | raised e => cases h
  | call o next ih => exact ih _ h

theorem answered_bind_split {f : alpha -> Script op answer error beta}
    {b : beta} (h : answered answers (x >>= f) = Except.ok b) :
    exists a, answered answers x = Except.ok a ∧
      answered answers (f a) = Except.ok b := by
  induction x with
  | returned a => exact ⟨a, rfl, h⟩
  | raised e => cases h
  | call o next ih => exact ih _ h

/-- Nothing but the answers to its own operations shows in a script. -/
theorem answered_congr {allowed : op -> Prop} (hx : Uses allowed x)
    (h : forall o, allowed o -> answers o = others o) :
    answered answers x = answered others x := by
  induction x with
  | returned a => rfl
  | raised e => rfl
  | call o next ih =>
      rw [answered, answered, ← h o hx.1]
      exact ih _ (hx.2 _)

end Answered

/-!
## Operations that are scripts
-/

/-- A script whose operations are carried out by other scripts. -/
def through {op' : Type} {answer' : op' -> Type}
    (perform : (o : op) -> Script op' answer' error (answer o)) :
    Script op answer error alpha -> Script op' answer' error alpha
  | returned a => returned a
  | raised e => raised e
  | call o next => (perform o).bind fun a => through perform (next a)

end Script
end Foundation
end IntelAmt
