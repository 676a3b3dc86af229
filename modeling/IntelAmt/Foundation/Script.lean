import Mathlib.Logic.Relation

/-!
# Scripts

A script is a computation that asks its surroundings for one operation after
the other and goes on with what they answer.  It fixes the order of the
operations and what is made of the answers, and leaves open who answers: the
same script can be played against a list of answers, or it can be run in a
world that other processes change between any two of its operations.
-/

namespace IntelAmt
namespace Foundation

inductive Script (op : Type) (answer : op -> Type) (error alpha : Type) where
  | returned (a : alpha)
  | raised (e : error)
  | call (o : op) (next : answer o -> Script op answer error alpha)

namespace Script

variable {op : Type} {answer : op -> Type} {error alpha beta : Type}

def bind (x : Script op answer error alpha)
    (f : alpha -> Script op answer error beta) :
    Script op answer error beta :=
  match x with
  | returned a => f a
  | raised e => raised e
  | call o next => call o fun a => (next a).bind f

instance : Monad (Script op answer error) where
  pure := returned
  bind := bind

def ask (o : op) : Script op answer error (answer o) :=
  call o returned

/-- `try x except handler`. -/
def handle (x : Script op answer error alpha)
    (handler : error -> Script op answer error alpha) :
    Script op answer error alpha :=
  match x with
  | returned a => returned a
  | raised e => handler e
  | call o next => call o fun a => (next a).handle handler

/-- `try x finally last`. -/
def ensuring (x : Script op answer error alpha)
    (last : Script op answer error Unit) : Script op answer error alpha :=
  match x with
  | returned a => last.bind fun _ => returned a
  | raised e => last.bind fun _ => raised e
  | call o next => call o fun a => (next a).ensuring last

def ended : Script op answer error alpha -> Bool
  | returned _ => true
  | raised _ => true
  | call _ _ => false

/-- What the script has returned. -/
def result : Script op answer error alpha -> Option alpha
  | returned a => some a
  | _ => none

theorem eq_returned_of_result {x : Script op answer error alpha} {a : alpha}
    (h : x.result = some a) : x = returned a := by
  cases x with
  | returned b =>
      cases h
      rfl
  | raised e => cases h
  | call o next => cases h

@[simp] theorem pure_eq (a : alpha) :
    (pure a : Script op answer error alpha) = returned a := rfl

@[simp] theorem returned_bind (a : alpha)
    (f : alpha -> Script op answer error beta) :
    (returned a : Script op answer error alpha) >>= f = f a := rfl

@[simp] theorem raised_bind (e : error)
    (f : alpha -> Script op answer error beta) :
    (raised e : Script op answer error alpha) >>= f = raised e := rfl

@[simp] theorem call_bind (o : op)
    (next : answer o -> Script op answer error alpha)
    (f : alpha -> Script op answer error beta) :
    call o next >>= f = call o fun a => next a >>= f := rfl

@[simp] theorem ask_bind (o : op)
    (f : answer o -> Script op answer error beta) :
    (ask o : Script op answer error (answer o)) >>= f = call o f := rfl

theorem bind_assoc {gamma : Type} (x : Script op answer error alpha)
    (f : alpha -> Script op answer error beta)
    (g : beta -> Script op answer error gamma) :
    x >>= f >>= g = x >>= fun a => f a >>= g := by
  induction x with
  | returned a => rfl
  | raised e => rfl
  | call o next ih =>
      rw [call_bind, call_bind, call_bind]
      congr 1
      funext a
      exact ih a

theorem bind_pure (x : Script op answer error alpha) :
    (x >>= fun a => pure a) = x := by
  induction x with
  | returned a => rfl
  | raised e => rfl
  | call o next ih =>
      rw [call_bind]
      congr 1
      funext a
      exact ih a

/-- The script asks for allowed operations only. -/
def Uses (allowed : op -> Prop) : Script op answer error alpha -> Prop
  | returned _ => True
  | raised _ => True
  | call o next => allowed o ∧ forall a, Uses allowed (next a)

theorem uses_ask {allowed : op -> Prop} {o : op} (h : allowed o) :
    Uses allowed (ask o : Script op answer error (answer o)) :=
  ⟨h, fun _ => trivial⟩

theorem uses_bind {allowed : op -> Prop}
    {x : Script op answer error alpha}
    {f : alpha -> Script op answer error beta} (hx : Uses allowed x)
    (hf : forall a, Uses allowed (f a)) : Uses allowed (x >>= f) := by
  induction x with
  | returned a => exact hf a
  | raised e => trivial
  | call o next ih => exact ⟨hx.1, fun a => ih a (hx.2 a)⟩

theorem uses_mono {allowed others : op -> Prop}
    {x : Script op answer error alpha} (hx : Uses allowed x)
    (h : forall o, allowed o -> others o) : Uses others x := by
  induction x with
  | returned a => trivial
  | raised e => trivial
  | call o next ih => exact ⟨h o hx.1, fun a => ih a (hx.2 a)⟩

theorem uses_handle {allowed : op -> Prop}
    {x : Script op answer error alpha}
    {handler : error -> Script op answer error alpha} (hx : Uses allowed x)
    (hhandler : forall e, Uses allowed (handler e)) :
    Uses allowed (x.handle handler) := by
  induction x with
  | returned a => trivial
  | raised e => exact hhandler e
  | call o next ih => exact ⟨hx.1, fun a => ih a (hx.2 a)⟩

/-- Some answers lead the script to the operation. -/
def Asks (o : op) : Script op answer error alpha -> Prop
  | returned _ => False
  | raised _ => False
  | call first next => o = first ∨ exists a, Asks o (next a)

theorem Uses.asks {allowed : op -> Prop} {x : Script op answer error alpha}
    (hx : Uses allowed x) {o : op} (h : Asks o x) : allowed o := by
  induction x with
  | returned a => exact h.elim
  | raised e => exact h.elim
  | call first next ih =>
      rcases h with rfl | ⟨a, h⟩
      · exact hx.1
      · exact ih a (hx.2 a) h

theorem asks_bind {o : op} {x : Script op answer error alpha}
    {f : alpha -> Script op answer error beta} (h : Asks o x) :
    Asks o (x >>= f) := by
  induction x with
  | returned a => exact h.elim
  | raised e => exact h.elim
  | call first next ih =>
      rcases h with rfl | ⟨a, h⟩
      · exact Or.inl rfl
      · exact Or.inr ⟨a, ih a h⟩

theorem asks_handle {o : op} {x : Script op answer error alpha}
    {handler : error -> Script op answer error alpha} (h : Asks o x) :
    Asks o (x.handle handler) := by
  induction x with
  | returned a => exact h.elim
  | raised e => exact h.elim
  | call first next ih =>
      rcases h with rfl | ⟨a, h⟩
      · exact Or.inl rfl
      · exact Or.inr ⟨a, ih a h⟩

/-- Whatever is answered, what the script returns satisfies `Q`. -/
def Returns (Q : alpha -> Prop) : Script op answer error alpha -> Prop
  | returned a => Q a
  | raised _ => True
  | call _ next => forall a, Returns Q (next a)

theorem returns_trivial (x : Script op answer error alpha) :
    Returns (fun _ => True) x := by
  induction x with
  | returned a => trivial
  | raised e => trivial
  | call o next ih => exact ih

theorem returns_mono {Q R : alpha -> Prop}
    {x : Script op answer error alpha} (hx : Returns Q x)
    (h : forall a, Q a -> R a) : Returns R x := by
  induction x with
  | returned a => exact h a hx
  | raised e => trivial
  | call o next ih => exact fun a => ih a (hx a)

theorem returns_bind {Q : alpha -> Prop} {R : beta -> Prop}
    {x : Script op answer error alpha}
    {f : alpha -> Script op answer error beta} (hx : Returns Q x)
    (hf : forall a, Q a -> Returns R (f a)) : Returns R (x >>= f) := by
  induction x with
  | returned a => exact hf a hx
  | raised e => trivial
  | call o next ih => exact fun a => ih a (hx a)

/-- Whatever of the possible answers are given, the script returns what
satisfies `Q` or raises what satisfies `E`. -/
def Assuming (possible : (o : op) -> answer o -> Prop) (Q : alpha -> Prop)
    (E : error -> Prop) : Script op answer error alpha -> Prop
  | returned a => Q a
  | raised e => E e
  | call o next => forall a, possible o a -> Assuming possible Q E (next a)

theorem assuming_bind_iff {possible : (o : op) -> answer o -> Prop}
    {R : beta -> Prop} {E : error -> Prop}
    {x : Script op answer error alpha}
    {f : alpha -> Script op answer error beta} :
    Assuming possible R E (x >>= f) ↔
      Assuming possible (fun a => Assuming possible R E (f a)) E x := by
  induction x with
  | returned a => exact Iff.rfl
  | raised e => exact Iff.rfl
  | call o next ih =>
      exact forall_congr' fun a => imp_congr_right fun _ => ih a

theorem assuming_mono {possible : (o : op) -> answer o -> Prop}
    {Q R : alpha -> Prop} {E : error -> Prop}
    {x : Script op answer error alpha} (hx : Assuming possible Q E x)
    (h : forall a, Q a -> R a) : Assuming possible R E x := by
  induction x with
  | returned a => exact h a hx
  | raised e => exact hx
  | call o next ih => exact fun a ha => ih a (hx a ha)

/-!
## Playing a script

The answers are fixed beforehand, one for each operation at each position.
-/

def play (answers : Nat -> (o : op) -> answer o) : Nat ->
    Script op answer error alpha -> Except error alpha × Nat
  | position, returned a => (Except.ok a, position)
  | position, raised e => (Except.error e, position)
  | position, call o next =>
      play answers (position + 1) (next (answers position o))

section Playing

variable {answers : Nat -> (o : op) -> answer o}

theorem play_bind_ok {x : Script op answer error alpha}
    {f : alpha -> Script op answer error beta} {position later : Nat}
    {a : alpha} (h : play answers position x = (Except.ok a, later)) :
    play answers position (x >>= f) = play answers later (f a) := by
  induction x generalizing position with
  | returned b =>
      cases h
      rfl
  | raised e => cases h
  | call o next ih => exact ih _ h

theorem play_bind_error {x : Script op answer error alpha}
    {f : alpha -> Script op answer error beta} {position later : Nat}
    {e : error} (h : play answers position x = (Except.error e, later)) :
    play answers position (x >>= f) = (Except.error e, later) := by
  induction x generalizing position with
  | returned b => cases h
  | raised e =>
      cases h
      rfl
  | call o next ih => exact ih _ h

theorem play_bind_split {x : Script op answer error alpha}
    {f : alpha -> Script op answer error beta} {position last : Nat}
    {b : beta} (h : play answers position (x >>= f) = (Except.ok b, last)) :
    exists a later, play answers position x = (Except.ok a, later) ∧
      play answers later (f a) = (Except.ok b, last) := by
  rcases hx : play answers position x with ⟨result, later⟩
  cases result with
  | ok a =>
      rw [play_bind_ok hx] at h
      exact ⟨a, later, rfl, h⟩
  | error e =>
      rw [play_bind_error hx] at h
      cases h

theorem play_handle_ok {x : Script op answer error alpha}
    {handler : error -> Script op answer error alpha} {position later : Nat}
    {a : alpha} (h : play answers position x = (Except.ok a, later)) :
    play answers position (x.handle handler) = (Except.ok a, later) := by
  induction x generalizing position with
  | returned b => exact h
  | raised e => cases h
  | call o next ih => exact ih _ h

theorem play_handle_error {x : Script op answer error alpha}
    {handler : error -> Script op answer error alpha} {position later : Nat}
    {e : error} (h : play answers position x = (Except.error e, later)) :
    play answers position (x.handle handler) =
      play answers later (handler e) := by
  induction x generalizing position with
  | returned b => cases h
  | raised e =>
      cases h
      rfl
  | call o next ih => exact ih _ h

theorem returns_play {Q : alpha -> Prop} {x : Script op answer error alpha}
    (hx : Returns Q x) {position later : Nat} {a : alpha}
    (h : play answers position x = (Except.ok a, later)) : Q a := by
  induction x generalizing position with
  | returned b =>
      cases h
      exact hx
  | raised e => cases h
  | call o next ih => exact ih _ (hx _) h

end Playing
end Script

/-!
## Machines

A machine says how the world may answer an operation, and what happens in the
world while no operation is under way.
-/

structure Machine (op : Type) (answer : op -> Type) (world : Type) where
  perform : world -> (o : op) -> answer o -> world -> Prop
  background : world -> world -> Prop

namespace Machine

open Relation

variable {op : Type} {answer : op -> Type} {world error alpha beta : Type}

/-- The worlds that the background alone can lead to. -/
def Later (M : Machine op answer world) : world -> world -> Prop :=
  ReflTransGen M.background

/-- An assertion that the background cannot falsify. -/
def Steady (M : Machine op answer world) (P : world -> Prop) : Prop :=
  forall w w', M.background w w' -> P w -> P w'

/-- The machine that performs only what is allowed. -/
def restrict (M : Machine op answer world) (allowed : world -> op -> Prop) :
    Machine op answer world where
  perform w o a w' := allowed w o ∧ M.perform w o a w'
  background := M.background

theorem Steady.later {M : Machine op answer world} {P : world -> Prop}
    (h : M.Steady P) {w w' : world} (hlater : M.Later w w') (hw : P w) :
    P w' := by
  induction hlater with
  | refl => exact hw
  | tail _ hstep ih => exact h _ _ hstep ih

/-- One step of a script in a world: an operation of the script, or something
that happens beside it. -/
inductive Step (M : Machine op answer world) :
    Script op answer error alpha × world ->
      Script op answer error alpha × world -> Prop where
  | background {x : Script op answer error alpha} {w w' : world}
      (h : M.background w w') : Step M (x, w) (x, w')
  | perform {o : op} {next : answer o -> Script op answer error alpha}
      {w w' : world} {a : answer o} (h : M.perform w o a w') :
      Step M (Script.call o next, w) (next a, w')

/-- Scripts out of `scripts`, one after the other, from the world `start`;
`yields` tells where one may give way to the next. -/
inductive Serial (M : Machine op answer world)
    (yields : Script op answer error alpha -> world -> Prop)
    (scripts : Script op answer error alpha -> Prop) (start : world) :
    Script op answer error alpha × world -> Prop where
  | begins {x : Script op answer error alpha} (hx : scripts x) :
      Serial M yields scripts start (x, start)
  | step {c c' : Script op answer error alpha × world}
      (h : Serial M yields scripts start c) (hstep : M.Step c c') :
      Serial M yields scripts start c'
  | next {x y : Script op answer error alpha} {w : world}
      (h : Serial M yields scripts start (x, w)) (hover : yields x w)
      (hy : scripts y) : Serial M yields scripts start (y, w)

/-- A script gives way when it has come to its end. -/
def AtEnd (x : Script op answer error alpha) (_ : world) : Prop :=
  x.ended = true

/-!
## Triples

Whatever the background does, each operation that the script asks for finds
the world where `G` allows it, and the script ends where `Q` or `E` holds.
-/

def Safe (M : Machine op answer world) (G : world -> op -> Prop)
    (Q : alpha -> world -> Prop) (E : error -> world -> Prop) :
    Script op answer error alpha -> world -> Prop
  | Script.returned a, w => forall w', M.Later w w' -> Q a w'
  | Script.raised e, w => forall w', M.Later w w' -> E e w'
  | Script.call o next, w => forall w', M.Later w w' ->
      G w' o ∧ forall a w'', M.perform w' o a w'' -> Safe M G Q E (next a) w''

def Triple (M : Machine op answer world) (G : world -> op -> Prop)
    (P : world -> Prop) (x : Script op answer error alpha)
    (Q : alpha -> world -> Prop) (E : error -> world -> Prop) : Prop :=
  forall w, P w -> M.Safe G Q E x w

section Triples

variable {M : Machine op answer world} {G : world -> op -> Prop}
variable {P : world -> Prop} {E : error -> world -> Prop}

theorem safe_later {Q : alpha -> world -> Prop}
    {x : Script op answer error alpha} {w w' : world}
    (h : M.Safe G Q E x w) (hlater : M.Later w w') : M.Safe G Q E x w' := by
  cases x with
  | returned a => exact fun v hv => h v (hlater.trans hv)
  | raised e => exact fun v hv => h v (hlater.trans hv)
  | call o next => exact fun v hv => h v (hlater.trans hv)

theorem safe_mono {G' : world -> op -> Prop} {Q Q' : alpha -> world -> Prop}
    {E' : error -> world -> Prop} (hG : forall w o, G w o -> G' w o)
    (hQ : forall a w, Q a w -> Q' a w) (hE : forall e w, E e w -> E' e w)
    {x : Script op answer error alpha} :
    forall {w}, M.Safe G Q E x w -> M.Safe G' Q' E' x w := by
  induction x with
  | returned a => exact fun h w' hlater => hQ a w' (h w' hlater)
  | raised e => exact fun h w' hlater => hE e w' (h w' hlater)
  | call o next ih =>
      intro w h w' hlater
      rcases h w' hlater with ⟨hguard, hnext⟩
      exact ⟨hG w' o hguard, fun a w'' hperform => ih a (hnext a w'' hperform)⟩

theorem safe_bind {Q : alpha -> world -> Prop} {R : beta -> world -> Prop}
    {x : Script op answer error alpha}
    {f : alpha -> Script op answer error beta}
    (hf : forall a, M.Triple G (Q a) (f a) R E) :
    forall w, M.Safe G Q E x w -> M.Safe G R E (x >>= f) w := by
  induction x with
  | returned a =>
      intro w h
      exact hf a w (h w ReflTransGen.refl)
  | raised e =>
      intro w h
      exact h
  | call o next ih =>
      intro w h w' hlater
      rcases h w' hlater with ⟨hguard, hnext⟩
      exact ⟨hguard, fun a w'' hperform => ih a w'' (hnext a w'' hperform)⟩

theorem triple_returned {Q : alpha -> world -> Prop} {a : alpha}
    (hsteady : M.Steady P) (h : forall w, P w -> Q a w) :
    M.Triple G P (Script.returned a : Script op answer error alpha) Q E :=
  fun _ hw _ hlater => h _ (hsteady.later hlater hw)

theorem triple_raised {Q : alpha -> world -> Prop} {e : error}
    (hsteady : M.Steady P) (h : forall w, P w -> E e w) :
    M.Triple G P (Script.raised e : Script op answer error alpha) Q E :=
  fun _ hw _ hlater => h _ (hsteady.later hlater hw)

theorem triple_call {Q : alpha -> world -> Prop} {o : op}
    {R : answer o -> world -> Prop}
    {next : answer o -> Script op answer error alpha}
    (hsteady : M.Steady P) (hguard : forall w, P w -> G w o)
    (hperform : forall w a w', P w -> M.perform w o a w' -> R a w')
    (hnext : forall a, M.Triple G (R a) (next a) Q E) :
    M.Triple G P (Script.call o next) Q E := by
  intro w hw w' hlater
  have hw' := hsteady.later hlater hw
  refine ⟨hguard w' hw', ?_⟩
  intro a w'' h
  exact hnext a w'' (hperform w' a w'' hw' h)

theorem triple_bind {Q : alpha -> world -> Prop} {R : beta -> world -> Prop}
    {x : Script op answer error alpha}
    {f : alpha -> Script op answer error beta} (hx : M.Triple G P x Q E)
    (hf : forall a, M.Triple G (Q a) (f a) R E) :
    M.Triple G P (x >>= f) R E :=
  fun w hw => safe_bind hf w (hx w hw)

theorem safe_handle {Q : alpha -> world -> Prop} {E' : error -> world -> Prop}
    {x : Script op answer error alpha}
    {handler : error -> Script op answer error alpha}
    (hhandler : forall e, M.Triple G (E e) (handler e) Q E') :
    forall w, M.Safe G Q E x w -> M.Safe G Q E' (x.handle handler) w := by
  induction x with
  | returned a =>
      intro w h
      exact h
  | raised e =>
      intro w h
      exact hhandler e w (h w ReflTransGen.refl)
  | call o next ih =>
      intro w h w' hlater
      rcases h w' hlater with ⟨hguard, hnext⟩
      exact ⟨hguard, fun a w'' hperform => ih a w'' (hnext a w'' hperform)⟩

theorem triple_handle {Q : alpha -> world -> Prop}
    {E' : error -> world -> Prop} {x : Script op answer error alpha}
    {handler : error -> Script op answer error alpha}
    (hx : M.Triple G P x Q E)
    (hhandler : forall e, M.Triple G (E e) (handler e) Q E') :
    M.Triple G P (x.handle handler) Q E' :=
  fun w hw => safe_handle hhandler w (hx w hw)

theorem safe_ensuring {Q Q' : alpha -> world -> Prop}
    {E' : error -> world -> Prop} {x : Script op answer error alpha}
    {last : Script op answer error Unit}
    (hlast : forall a, M.Triple G (Q a)
      (last >>= fun _ => Script.returned a) Q' E')
    (hraised : forall e, M.Triple G (E e)
      (last >>= fun _ => Script.raised e) Q' E') :
    forall w, M.Safe G Q E x w -> M.Safe G Q' E' (x.ensuring last) w := by
  induction x with
  | returned a =>
      intro w h
      exact hlast a w (h w ReflTransGen.refl)
  | raised e =>
      intro w h
      exact hraised e w (h w ReflTransGen.refl)
  | call o next ih =>
      intro w h w' hlater
      rcases h w' hlater with ⟨hguard, hnext⟩
      exact ⟨hguard, fun a w'' hperform => ih a w'' (hnext a w'' hperform)⟩

theorem triple_ensuring {Q Q' : alpha -> world -> Prop}
    {E' : error -> world -> Prop} {x : Script op answer error alpha}
    {last : Script op answer error Unit} (hx : M.Triple G P x Q E)
    (hlast : forall a, M.Triple G (Q a)
      (last >>= fun _ => Script.returned a) Q' E')
    (hraised : forall e, M.Triple G (E e)
      (last >>= fun _ => Script.raised e) Q' E') :
    M.Triple G P (x.ensuring last) Q' E' :=
  fun w hw => safe_ensuring hlast hraised w (hx w hw)

theorem triple_of_uses {quiet : op -> Prop}
    {x : Script op answer error alpha} (hx : Script.Uses quiet x)
    (hsteady : M.Steady P)
    (hguard : forall w o, P w -> quiet o -> G w o)
    (hquiet : forall w o a w', quiet o -> M.perform w o a w' -> w' = w) :
    M.Triple G P x (fun _ => P) (fun _ => P) := by
  induction x with
  | returned a => exact triple_returned hsteady fun _ hw => hw
  | raised e => exact triple_raised hsteady fun _ hw => hw
  | call o next ih =>
      apply triple_call hsteady (fun w hw => hguard w o hw hx.1)
      · intro w a w' hw hperform
        rw [hquiet w o a w' hx.1 hperform]
        exact hw
      · exact fun a => ih a (hx.2 a)

theorem triple_returns {Q : alpha -> world -> Prop} {R : alpha -> Prop}
    {x : Script op answer error alpha} (hx : M.Triple G P x Q E)
    (hreturns : Script.Returns R x) :
    M.Triple G P x (fun a w => Q a w ∧ R a) E := by
  intro w hw
  have hsafe := hx w hw
  clear hx hw
  induction x generalizing w with
  | returned a => exact fun w' hlater => ⟨hsafe w' hlater, hreturns⟩
  | raised e => exact hsafe
  | call o next ih =>
      intro w' hlater
      rcases hsafe w' hlater with ⟨hguard, hnext⟩
      exact ⟨hguard, fun a w'' hperform =>
        ih a (hreturns a) w'' (hnext a w'' hperform)⟩

end Triples

section Runs

variable {M : Machine op answer world} {G : world -> op -> Prop}

theorem safe_step {Q : alpha -> world -> Prop} {E : error -> world -> Prop}
    {c c' : Script op answer error alpha × world}
    (h : M.Safe G Q E c.1 c.2) (hstep : M.Step c c') :
    M.Safe G Q E c'.1 c'.2 := by
  cases hstep with
  | background hback => exact safe_later h (ReflTransGen.single hback)
  | perform hperform => exact (h _ ReflTransGen.refl).2 _ _ hperform

/-- When every script is safe from an invariant, and the invariant holds
where one script gives way to the next, every script of a run is safe. -/
theorem serial_safe {I : world -> Prop} {Q : alpha -> world -> Prop}
    {E : error -> world -> Prop}
    {yields : Script op answer error alpha -> world -> Prop}
    {scripts : Script op answer error alpha -> Prop} {start : world}
    (hstart : I start)
    (hscripts : forall x, scripts x -> M.Triple G I x Q E)
    (hover : forall x w, yields x w -> M.Safe G Q E x w -> I w)
    {c : Script op answer error alpha × world}
    (h : M.Serial yields scripts start c) : M.Safe G Q E c.1 c.2 := by
  induction h with
  | begins hx => exact hscripts _ hx start hstart
  | step _ hstep ih => exact safe_step ih hstep
  | @next x y w _ hgives hy ih => exact hscripts y hy w (hover x w hgives ih)

theorem safe_guarded {Q : alpha -> world -> Prop}
    {E : error -> world -> Prop} {o : op}
    {next : answer o -> Script op answer error alpha} {w : world}
    (h : M.Safe G Q E (Script.call o next) w) : G w o :=
  (h w ReflTransGen.refl).1

/-- What every allowed operation keeps holds all along a run of safe
scripts. -/
theorem serial_keeps {J : world -> Prop} {Q : alpha -> world -> Prop}
    {E : error -> world -> Prop}
    {yields : Script op answer error alpha -> world -> Prop}
    {scripts : Script op answer error alpha -> Prop} {start : world}
    (hstart : J start) (hback : M.Steady J)
    (hperform : forall w o a w', J w -> G w o -> M.perform w o a w' -> J w')
    (hsafe : forall c, M.Serial yields scripts start c ->
      M.Safe G Q E c.1 c.2)
    {c : Script op answer error alpha × world}
    (h : M.Serial yields scripts start c) : J c.2 := by
  induction h with
  | begins _ => exact hstart
  | next _ _ _ ih => exact ih
  | step hserial hstep ih =>
      cases hstep with
      | background h => exact hback _ _ h ih
      | perform h =>
          exact hperform _ _ _ _ ih (safe_guarded (hsafe _ hserial)) h

theorem safe_atEnd {I : world -> Prop}
    {x : Script op answer error alpha} {w : world} (hend : AtEnd x w)
    (h : M.Safe G (fun _ => I) (fun _ => I) x w) : I w := by
  cases x with
  | returned a => exact h w ReflTransGen.refl
  | raised e => exact h w ReflTransGen.refl
  | call o next => cases hend

/-- A script that asks for nothing unless the invariant holds can be cut off
anywhere. -/
theorem safe_anywhere {I : world -> Prop}
    (hguard : forall w o, G w o -> I w)
    {x : Script op answer error alpha} {w : world}
    (h : M.Safe G (fun _ => I) (fun _ => I) x w) : I w := by
  cases x with
  | returned a => exact h w ReflTransGen.refl
  | raised e => exact h w ReflTransGen.refl
  | call o next => exact hguard w o (h w ReflTransGen.refl).1

end Runs

/-!
## Finding a run
-/

section Finding

variable {M : Machine op answer world}

/-- A run of a script from one world to another. -/
def Reaches (M : Machine op answer world) :
    Script op answer error alpha × world ->
      Script op answer error alpha × world -> Prop :=
  ReflTransGen M.Step

theorem safe_reaches {G : world -> op -> Prop} {Q : alpha -> world -> Prop}
    {E : error -> world -> Prop}
    {c c' : Script op answer error alpha × world}
    (h : M.Safe G Q E c.1 c.2) (hreaches : M.Reaches c c') :
    M.Safe G Q E c'.1 c'.2 := by
  induction hreaches with
  | refl => exact h
  | tail _ hstep ih => exact safe_step ih hstep

theorem reaches_call {o : op} {a : answer o} {w w' : world}
    {next : answer o -> Script op answer error alpha}
    {c : Script op answer error alpha × world} (h : M.perform w o a w')
    (hnext : M.Reaches (next a, w') c) :
    M.Reaches (Script.call o next, w) c :=
  ReflTransGen.head (Step.perform h) hnext

theorem reaches_background {x : Script op answer error alpha} {w w' : world}
    {c : Script op answer error alpha × world} (h : M.background w w')
    (hnext : M.Reaches (x, w') c) : M.Reaches (x, w) c :=
  ReflTransGen.head (Step.background h) hnext

theorem reaches_lift
    {f : Script op answer error alpha -> Script op answer error beta}
    (hf : forall (o : op) (next : answer o -> Script op answer error alpha),
      f (Script.call o next) = Script.call o fun a => f (next a))
    {x y : Script op answer error alpha} {w w' : world}
    (h : M.Reaches (x, w) (y, w')) : M.Reaches (f x, w) (f y, w') := by
  have hlift : forall c c' : Script op answer error alpha × world,
      M.Step c c' -> M.Step (f c.1, c.2) (f c'.1, c'.2) := by
    intro c c' hstep
    cases hstep with
    | background hback => exact Step.background hback
    | perform hperform =>
        rw [hf]
        exact Step.perform hperform
  exact ReflTransGen.lift
    (fun c : Script op answer error alpha × world => (f c.1, c.2)) hlift _ _ h

theorem reaches_bind {x y : Script op answer error alpha}
    {f : alpha -> Script op answer error beta} {w w' : world}
    (h : M.Reaches (x, w) (y, w')) : M.Reaches (x >>= f, w) (y >>= f, w') :=
  reaches_lift (f := fun x => x >>= f) (fun _ _ => rfl) h

theorem reaches_then {x : Script op answer error alpha} {a : alpha}
    {f : alpha -> Script op answer error beta} {w w' : world}
    {c : Script op answer error beta × world}
    (h : M.Reaches (x, w) (Script.returned a, w'))
    (hnext : M.Reaches (f a, w') c) : M.Reaches (x >>= f, w) c :=
  ReflTransGen.trans (reaches_bind (f := f) h) hnext

theorem reaches_handle {x y z : Script op answer error alpha}
    {handler : error -> Script op answer error alpha} {w w' : world}
    (h : M.Reaches (x, w) (y, w')) (hz : y.handle handler = z) :
    M.Reaches (x.handle handler, w) (z, w') := by
  rw [← hz]
  exact reaches_lift (f := fun x => x.handle handler) (fun _ _ => rfl) h

theorem reaches_ensuring {x y : Script op answer error alpha}
    {last : Script op answer error Unit} {w w' : world}
    (h : M.Reaches (x, w) (y, w')) :
    M.Reaches (x.ensuring last, w) (y.ensuring last, w') :=
  reaches_lift (f := fun x => x.ensuring last) (fun _ _ => rfl) h

/-- A script followed for some operations, with one answer for each. -/
def follow (act : world -> (o : op) -> answer o × world) : Nat ->
    Script op answer error alpha × world ->
      Script op answer error alpha × world
  | steps + 1, (Script.call o next, w) =>
      follow act steps (next (act w o).1, (act w o).2)
  | _, c => c

theorem reaches_follow {act : world -> (o : op) -> answer o × world}
    (hact : forall w o, M.perform w o (act w o).1 (act w o).2)
    (steps : Nat) (c : Script op answer error alpha × world) :
    M.Reaches c (follow act steps c) := by
  induction steps generalizing c with
  | zero => exact ReflTransGen.refl
  | succ steps ih =>
      rcases c with ⟨x, w⟩
      cases x with
      | returned a => exact ReflTransGen.refl
      | raised e => exact ReflTransGen.refl
      | call o next => exact reaches_call (hact w o) (ih _)

theorem serial_reaches
    {yields : Script op answer error alpha -> world -> Prop}
    {scripts : Script op answer error alpha -> Prop} {start : world}
    {c c' : Script op answer error alpha × world}
    (h : M.Serial yields scripts start c) (hreaches : M.Reaches c c') :
    M.Serial yields scripts start c' := by
  induction hreaches with
  | refl => exact h
  | tail _ hstep ih => exact Serial.step ih hstep

end Finding
end Machine
end Foundation
end IntelAmt
