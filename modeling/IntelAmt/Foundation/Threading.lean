import Mathlib.Data.List.Forall2

/-!
# Threading a state through a list

A walk over a list that hands a state from one item to the next and makes
something of every item.
-/

namespace IntelAmt
namespace Foundation

variable {state alpha beta : Type}

def thread (step : state -> alpha -> state × beta) :
    state -> List alpha -> state × List beta
  | s, [] => (s, [])
  | s, item :: items =>
      let result := step s item
      let later := thread step result.1 items
      (later.1, result.2 :: later.2)

theorem thread_cons (step : state -> alpha -> state × beta) (s : state)
    (item : alpha) (items : List alpha) :
    thread step s (item :: items) =
      ((thread step (step s item).1 items).1,
        (step s item).2 :: (thread step (step s item).1 items).2) :=
  rfl

theorem thread_append (step : state -> alpha -> state × beta) (s : state)
    (front back : List alpha) :
    thread step s (front ++ back) =
      ((thread step (thread step s front).1 back).1,
        (thread step s front).2 ++
          (thread step (thread step s front).1 back).2) := by
  induction front generalizing s with
  | nil => rfl
  | cons item front ih =>
      rw [List.cons_append, thread_cons, thread_cons, ih]
      rfl

/-- An invariant on the state and on what is left of the list, and what holds of
every item from its step on. -/
structure Threads (step : state -> alpha -> state × beta)
    (inv : state -> List alpha -> Prop) (leads : state -> state -> Prop)
    (holds : state -> alpha -> beta -> Prop) : Prop where
  refl (s : state) : leads s s
  trans {first second third : state} :
    leads first second -> leads second third -> leads first third
  keeps {s : state} {item : alpha} {items : List alpha} :
    inv s (item :: items) -> inv (step s item).1 items
  moves {s : state} {item : alpha} {items : List alpha} :
    inv s (item :: items) -> leads s (step s item).1
  does {s last : state} {item : alpha} {items : List alpha} :
    inv s (item :: items) -> leads (step s item).1 last ->
      holds last item (step s item).2

namespace Threads

variable {step : state -> alpha -> state × beta}
variable {inv : state -> List alpha -> Prop} {leads : state -> state -> Prop}
variable {holds : state -> alpha -> beta -> Prop}

/-- By induction on the list: what holds of an item at its own step still holds
at the end of the walk. -/
theorem walk (h : Threads step inv leads holds) {s : state}
    {items : List alpha} (hinv : inv s items) :
    leads s (thread step s items).1 ∧
      List.Forall₂ (holds (thread step s items).1) items
        (thread step s items).2 := by
  induction items generalizing s with
  | nil => exact ⟨h.refl s, List.Forall₂.nil⟩
  | cons item items ih =>
      rcases ih (h.keeps hinv) with ⟨hleads, hrest⟩
      rw [thread_cons]
      exact ⟨h.trans (h.moves hinv) hleads,
        List.Forall₂.cons (h.does hinv hleads) hrest⟩

end Threads

theorem forall₂_iff_forall {holds : alpha -> beta -> Prop}
    {own : alpha -> Prop} {items : List alpha} {made : List beta}
    (h : List.Forall₂ (fun item result => holds item result ↔ own item) items
      made) :
    List.Forall₂ holds items made ↔ forall item, item ∈ items -> own item := by
  induction h with
  | nil =>
      exact iff_of_true List.Forall₂.nil
        fun _ hmem => absurd hmem List.not_mem_nil
  | cons hone _ ih =>
      rw [List.forall₂_cons, List.forall_mem_cons, hone, ih]

theorem forall_iff_forall {own : alpha -> Prop} {others : beta -> Prop}
    {items : List alpha} {made : List beta}
    (h : List.Forall₂ (fun item result => others result ↔ own item) items
      made) :
    (forall result, result ∈ made -> others result) ↔
      forall item, item ∈ items -> own item := by
  induction h with
  | nil =>
      exact iff_of_true (fun _ hmem => absurd hmem List.not_mem_nil)
        fun _ hmem => absurd hmem List.not_mem_nil
  | cons hone _ ih => rw [List.forall_mem_cons, List.forall_mem_cons, hone, ih]

end Foundation
end IntelAmt
