import IntelAmt.Foundation.Script

/-!
# Transcripts

What a script has asked for and been answered so far, and how it goes on.
Every pattern of answers is a transcript; one that is longer goes on from
where the shorter one has left off.
-/

namespace IntelAmt
namespace Foundation

variable {op : Type} {answer : op -> Type} {error alpha beta : Type}

/-- An operation and its answer. -/
abbrev Exchange (answer : op -> Type) : Type := (o : op) × answer o

namespace Script

/-- How a script goes on behind a transcript. -/
inductive After : Script op answer error alpha -> List (Exchange answer) ->
    Script op answer error alpha -> Prop where
  | here (x : Script op answer error alpha) : After x [] x
  | call {o : op} {next : answer o -> Script op answer error alpha}
      {a : answer o} {log : List (Exchange answer)}
      {y : Script op answer error alpha} (h : After (next a) log y) :
      After (Script.call o next) (⟨o, a⟩ :: log) y

variable {x y z : Script op answer error alpha}
variable {log : List (Exchange answer)}

theorem after_returned {a : alpha}
    (h : After (returned a : Script op answer error alpha) log y) :
    log = [] ∧ y = returned a := by
  cases h
  exact ⟨rfl, rfl⟩

theorem after_raised {e : error}
    (h : After (raised e : Script op answer error alpha) log y) :
    log = [] ∧ y = raised e := by
  cases h
  exact ⟨rfl, rfl⟩

theorem after_ended (hx : x.ended = true) (h : After x log y) :
    log = [] ∧ y = x := by
  cases h with
  | here _ => exact ⟨rfl, rfl⟩
  | call _ => cases hx

theorem after_call {o : op} {next : answer o -> Script op answer error alpha}
    (h : After (Script.call o next) log y) :
    (log = [] ∧ y = Script.call o next) ∨ exists a rest,
      log = ⟨o, a⟩ :: rest ∧ After (next a) rest y := by
  cases h with
  | here _ => exact Or.inl ⟨rfl, rfl⟩
  | call h => exact Or.inr ⟨_, _, rfl, h⟩

theorem after_append {first rest : List (Exchange answer)}
    (hfirst : After x first y) (hrest : After y rest z) :
    After x (first ++ rest) z := by
  induction hfirst with
  | here _ => exact hrest
  | call _ ih => exact After.call (ih hrest)

/-- A transcript leads to one place. -/
theorem after_split {first rest : List (Exchange answer)}
    (hfirst : After x first y) (h : After x (first ++ rest) z) :
    After y rest z := by
  induction hfirst with
  | here _ => exact h
  | call _ ih =>
      cases h with
      | call h => exact ih h

theorem after_shorter {first rest : List (Exchange answer)}
    (h : After x (first ++ rest) z) :
    exists y, After x first y ∧ After y rest z := by
  induction first generalizing x with
  | nil => exact ⟨x, After.here _, h⟩
  | cons exchange first ih =>
      cases h with
      | call h =>
          rcases ih h with ⟨y, hfirst, hrest⟩
          exact ⟨y, After.call hfirst, hrest⟩

theorem after_then {f : alpha -> Script op answer error beta} {a : alpha}
    (h : After x log (returned a)) : After (x >>= f) log (f a) := by
  generalize hy : (returned a : Script op answer error alpha) = y at h
  induction h with
  | here _ =>
      rw [← hy]
      exact After.here _
  | call _ ih => exact After.call (ih hy)

theorem after_bind_left {f : alpha -> Script op answer error beta}
    (h : After x log y) : After (x >>= f) log (y >>= f) := by
  induction h with
  | here _ => exact After.here _
  | call _ ih => exact After.call ih

/-- A transcript of a sequence is inside of its first part, or goes on into
its second one. -/
theorem after_bind {f : alpha -> Script op answer error beta}
    {u : Script op answer error beta} (h : After (x >>= f) log u) :
    (exists x', After x log x' ∧ u = x' >>= f) ∨
      exists first rest a, log = first ++ rest ∧
        After x first (returned a) ∧ After (f a) rest u := by
  induction x generalizing log with
  | returned a => exact Or.inr ⟨[], log, a, rfl, After.here _, h⟩
  | raised e =>
      rcases after_raised h with ⟨hlog, hu⟩
      apply Or.inl
      rw [hlog]
      exact ⟨raised e, After.here _, hu⟩
  | call o next ih =>
      rcases after_call h with ⟨hlog, hu⟩ | ⟨a, rest, hlog, hrest⟩
      · apply Or.inl
        rw [hlog]
        exact ⟨call o next, After.here _, hu⟩
      · rw [hlog]
        rcases ih a hrest with ⟨x', hx, hu⟩ | ⟨first, last, b, hsplit, hx, hf⟩
        · exact Or.inl ⟨x', After.call hx, hu⟩
        · apply Or.inr
          refine ⟨⟨o, a⟩ :: first, last, b, ?_, After.call hx, hf⟩
          rw [hsplit]
          rfl

theorem after_bind_returned {f : alpha -> Script op answer error beta}
    {b : beta} (h : After (x >>= f) log (returned b)) :
    exists first rest a, log = first ++ rest ∧
      After x first (returned a) ∧ After (f a) rest (returned b) := by
  rcases after_bind h with ⟨x', hx, hb⟩ | hsplit
  · cases x' with
    | returned a =>
        rw [returned_bind] at hb
        refine ⟨log, [], a, (List.append_nil log).symm, hx, ?_⟩
        rw [← hb]
        exact After.here _
    | raised e => cases hb
    | call o next => cases hb
  · exact hsplit

theorem after_bind_ended {f : alpha -> Script op answer error beta}
    {u : Script op answer error beta} (h : After (x >>= f) log u)
    (hended : u.ended = true) :
    (exists e, After x log (raised e) ∧ u = raised e) ∨
      exists first rest a, log = first ++ rest ∧
        After x first (returned a) ∧ After (f a) rest u := by
  rcases after_bind h with ⟨x', hx, hu⟩ | hsplit
  · cases x' with
    | returned a =>
        rw [returned_bind] at hu
        refine Or.inr ⟨log, [], a, (List.append_nil log).symm, hx, ?_⟩
        rw [← hu]
        exact After.here _
    | raised e => exact Or.inl ⟨e, hx, hu⟩
    | call o next =>
        rw [hu] at hended
        cases hended
  · exact Or.inr hsplit

theorem after_handle_ended {handler : error -> Script op answer error alpha}
    {u : Script op answer error alpha} (h : After (x.handle handler) log u)
    (hended : u.ended = true) :
    (exists a, After x log (returned a) ∧ u = returned a) ∨
      exists first rest e, log = first ++ rest ∧
        After x first (raised e) ∧ After (handler e) rest u := by
  induction x generalizing log with
  | returned a =>
      rcases after_returned h with ⟨hlog, hu⟩
      rw [hlog]
      exact Or.inl ⟨a, After.here _, hu⟩
  | raised e => exact Or.inr ⟨[], log, e, rfl, After.here _, h⟩
  | call o next ih =>
      rcases after_call h with ⟨_, hu⟩ | ⟨a, rest, hlog, hrest⟩
      · rw [hu] at hended
        cases hended
      · rw [hlog]
        rcases ih a hrest with
          ⟨b, hx, hu⟩ | ⟨first, last, e, hsplit, hx, hhandler⟩
        · exact Or.inl ⟨b, After.call hx, hu⟩
        · refine Or.inr ⟨⟨o, a⟩ :: first, last, e, ?_, After.call hx, hhandler⟩
          rw [hsplit]
          rfl

theorem after_handled {handler : error -> Script op answer error alpha}
    {e : error} (h : After x log (raised e)) :
    After (x.handle handler) log (handler e) := by
  generalize hy : (raised e : Script op answer error alpha) = y at h
  induction h with
  | here x =>
      rw [← hy]
      exact After.here _
  | call _ ih => exact After.call (ih hy)

/-- Whatever is answered, the script raises nothing but `E`. -/
def Raises (E : error -> Prop) : Script op answer error alpha -> Prop
  | returned _ => True
  | raised e => E e
  | call _ next => forall a, Raises E (next a)

theorem raises_bind {E : error -> Prop}
    {f : alpha -> Script op answer error beta} (hx : Raises E x)
    (hf : forall a, Raises E (f a)) : Raises E (x >>= f) := by
  induction x with
  | returned a => exact hf a
  | raised e => exact hx
  | call o next ih => exact fun a => ih a (hx a)

theorem raises_handle {E : error -> Prop}
    {handler : error -> Script op answer error alpha}
    (hhandler : forall e, Raises E (handler e)) :
    Raises E (x.handle handler) := by
  induction x with
  | returned a => trivial
  | raised e => exact hhandler e
  | call o next ih => exact fun a => ih a

theorem raises_after {E : error -> Prop} (h : After x log y)
    (hx : Raises E x) : Raises E y := by
  induction h with
  | here _ => exact hx
  | call _ ih => exact ih (hx _)

theorem assuming_after {possible : (o : op) -> answer o -> Prop}
    {Q : alpha -> Prop} {E : error -> Prop} (hx : Assuming possible Q E x)
    (h : After x log y)
    (hlog : forall exchange, exchange ∈ log ->
      possible exchange.1 exchange.2) : Assuming possible Q E y := by
  induction h with
  | here _ => exact hx
  | call _ ih =>
      exact ih (hx _ (hlog _ List.mem_cons_self)) fun exchange hmem =>
        hlog exchange (List.mem_cons_of_mem _ hmem)

/-- What a script asks for is what it uses. -/
theorem after_uses {allowed : op -> Prop} (hx : Uses allowed x)
    (h : After x log y) :
    forall exchange, exchange ∈ log -> allowed exchange.1 := by
  induction h with
  | here _ => exact fun exchange hmem => nomatch hmem
  | call _ ih =>
      intro exchange hmem
      rcases List.mem_cons.mp hmem with heq | hmem
      · rw [heq]
        exact hx.1
      · exact ih (hx.2 _) exchange hmem

/-- The script asks for no more than `n` counted operations. -/
def AsksAtMost (counted : op -> Bool) : Nat ->
    Script op answer error alpha -> Prop
  | _, returned _ => True
  | _, raised _ => True
  | n, call o next => exists m, (counted o).toNat + m ≤ n ∧
      forall a, AsksAtMost counted m (next a)

theorem asksAtMost_mono {counted : op -> Bool} {m n : Nat} (hle : m ≤ n)
    (hx : AsksAtMost counted m x) : AsksAtMost counted n x := by
  cases x with
  | returned a => trivial
  | raised e => trivial
  | call o next =>
      rcases hx with ⟨k, hk, hnext⟩
      exact ⟨k, Nat.le_trans hk hle, hnext⟩

theorem asksAtMost_bind {counted : op -> Bool} {m n : Nat}
    {f : alpha -> Script op answer error beta}
    (hx : AsksAtMost counted m x)
    (hf : forall a, AsksAtMost counted n (f a)) :
    AsksAtMost counted (m + n) (x >>= f) := by
  induction x generalizing m with
  | returned a => exact asksAtMost_mono (Nat.le_add_left n m) (hf a)
  | raised e => trivial
  | call o next ih =>
      rcases hx with ⟨k, hk, hnext⟩
      exact ⟨k + n, by lia, fun a => ih a (hnext a)⟩

theorem asksAtMost_of_uses {counted : op -> Bool}
    (hx : Uses (fun o => counted o = false) x) : AsksAtMost counted 0 x := by
  induction x with
  | returned a => trivial
  | raised e => trivial
  | call o next ih =>
      refine ⟨0, ?_, fun a => ih a (hx.2 a)⟩
      rw [hx.1]
      exact Nat.le_refl 0

theorem after_asksAtMost_zero {counted : op -> Bool}
    (hx : AsksAtMost counted 0 x) (h : After x log y) :
    forall exchange, exchange ∈ log -> counted exchange.1 = false := by
  induction h with
  | here _ => exact fun exchange hmem => nomatch hmem
  | @call o next a log y _ ih =>
      rcases hx with ⟨m, hm, hnext⟩
      have hzero : m = 0 := by lia
      intro exchange hmem
      rcases List.mem_cons.mp hmem with heq | hmem
      · rw [heq]
        cases hcounted : counted o with
        | false => rfl
        | true =>
            rw [hcounted] at hm
            change 1 + m ≤ 0 at hm
            lia
      · rw [hzero] at hnext
        exact ih (hnext a) exchange hmem

theorem after_asksAtMost_one {counted : op -> Bool}
    (hx : AsksAtMost counted 1 x) (h : After x log y) :
    (forall exchange, exchange ∈ log -> counted exchange.1 = false) ∨
      exists before exchange after, log = before ++ exchange :: after ∧
        counted exchange.1 = true ∧
        (forall other, other ∈ before -> counted other.1 = false) ∧
        forall other, other ∈ after -> counted other.1 = false := by
  induction h with
  | here _ => exact Or.inl fun exchange hmem => nomatch hmem
  | @call o next a log y hafter ih =>
      rcases hx with ⟨m, hm, hnext⟩
      cases hcounted : counted o with
      | true =>
          rw [hcounted] at hm
          have hzero : m = 0 := by
            change 1 + m ≤ 1 at hm
            lia
          rw [hzero] at hnext
          exact Or.inr ⟨[], ⟨o, a⟩, log, rfl, hcounted,
            (fun other hmem => nomatch hmem),
            after_asksAtMost_zero (hnext a) hafter⟩
      | false =>
          have hone : m ≤ 1 := by lia
          rcases ih (asksAtMost_mono hone (hnext a)) with
            hnone | ⟨before, exchange, after, hlog, hthis, hbefore, hrest⟩
          · refine Or.inl fun other hmem => ?_
            rcases List.mem_cons.mp hmem with heq | hmem
            · rw [heq]
              exact hcounted
            · exact hnone other hmem
          · refine Or.inr ⟨⟨o, a⟩ :: before, exchange, after, ?_, hthis, ?_,
              hrest⟩
            · rw [hlog]
              rfl
            · intro other hmem
              rcases List.mem_cons.mp hmem with heq | hmem
              · rw [heq]
                exact hcounted
              · exact hbefore other hmem

/-- The transcript of some operations, with an answer for each operation at
each position, and what is left of the script. -/
def recorded (answers : Nat -> (o : op) -> answer o) : Nat -> Nat ->
    Script op answer error alpha ->
      List (Exchange answer) × Script op answer error alpha
  | steps + 1, position, call o next =>
      let rest := recorded answers steps (position + 1)
        (next (answers position o))
      (⟨o, answers position o⟩ :: rest.1, rest.2)
  | _, _, x => ([], x)

theorem after_recorded (answers : Nat -> (o : op) -> answer o)
    (steps position : Nat) (x : Script op answer error alpha) :
    After x (recorded answers steps position x).1
      (recorded answers steps position x).2 := by
  induction steps generalizing x position with
  | zero => exact After.here x
  | succ steps ih =>
      cases x with
      | returned a => exact After.here _
      | raised e => exact After.here _
      | call o next => exact After.call (ih _ _)

theorem mem_recorded {answers : Nat -> (o : op) -> answer o}
    {steps position : Nat} {x : Script op answer error alpha}
    {exchange : Exchange answer}
    (h : exchange ∈ (recorded answers steps position x).1) :
    exists k, exchange = ⟨exchange.1, answers k exchange.1⟩ := by
  induction steps generalizing x position with
  | zero => cases h
  | succ steps ih =>
      cases x with
      | returned a => cases h
      | raised e => cases h
      | call o next =>
          rcases List.mem_cons.mp h with heq | hmem
          · rw [heq]
            exact ⟨position, rfl⟩
          · exact ih hmem

end Script
end Foundation
end IntelAmt
