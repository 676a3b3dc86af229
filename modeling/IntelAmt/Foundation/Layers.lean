import IntelAmt.Foundation.Script

/-!
# Scripts of scripts

An operation of one script may be a whole script of a lower level.  What a
script costs is then the number of operations that are carried out below.
-/

namespace IntelAmt
namespace Foundation
namespace Script

variable {high low : Type} {answer : high -> Type} {reply : low -> Type}
variable {error alpha beta : Type}

/-- Every operation is carried out by a script of the lower level. -/
def lowered (perform : (o : high) -> Script low reply error (answer o)) :
    Script high answer error alpha -> Script low reply error alpha
  | returned a => returned a
  | raised e => raised e
  | call o next => perform o >>= fun a => lowered perform (next a)

variable {perform : (o : high) -> Script low reply error (answer o)}

theorem lowered_bind (x : Script high answer error alpha)
    (f : alpha -> Script high answer error beta) :
    lowered perform (x >>= f) =
      lowered perform x >>= fun a => lowered perform (f a) := by
  induction x with
  | returned a => rfl
  | raised e => rfl
  | call o next ih =>
      have hleft : lowered perform (call o next >>= f) =
          perform o >>= fun a => lowered perform (next a >>= f) := rfl
      have hright : lowered perform (call o next) =
          perform o >>= fun a => lowered perform (next a) := rfl
      rw [hleft, hright, bind_assoc]
      exact congrArg _ (funext ih)

theorem uses_lowered {allowed : low -> Prop}
    (h : forall o, Uses allowed (perform o))
    (x : Script high answer error alpha) :
    Uses allowed (lowered perform x) := by
  induction x with
  | returned a => trivial
  | raised e => trivial
  | call o next ih => exact uses_bind (h o) ih

/-- Wherever it is begun, the script returns after so many operations. -/
def Takes (replies : Nat -> (o : low) -> reply o) (n : Nat)
    (Q : alpha -> Prop) (x : Script low reply error alpha) : Prop :=
  forall position, exists a,
    play replies position x = (Except.ok a, position + n) ∧ Q a

section Taking

variable {replies : Nat -> (o : low) -> reply o}
variable {x : Script low reply error alpha}
variable {f : alpha -> Script low reply error beta} {m n : Nat}
variable {Q : alpha -> Prop} {R : beta -> Prop}

theorem takes_pure {a : alpha} (h : Q a) :
    Takes replies 0 Q (pure a : Script low reply error alpha) :=
  fun _ => ⟨a, rfl, h⟩

theorem takes_bind (hx : Takes replies m Q x)
    (hf : forall a, Q a -> Takes replies n R (f a)) :
    Takes replies (m + n) R (x >>= f) := by
  intro position
  rcases hx position with ⟨a, hplay, ha⟩
  rcases hf a ha (position + m) with ⟨b, hlater, hb⟩
  refine ⟨b, ?_, hb⟩
  rw [play_bind_ok hplay, hlater, Nat.add_assoc]

theorem takes_handle {handler : error -> Script low reply error alpha}
    (hx : Takes replies n Q x) : Takes replies n Q (x.handle handler) := by
  intro position
  rcases hx position with ⟨a, hplay, ha⟩
  exact ⟨a, play_handle_ok hplay, ha⟩

end Taking
end Script
end Foundation
end IntelAmt
