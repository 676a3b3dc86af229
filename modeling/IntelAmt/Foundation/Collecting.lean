import Mathlib.Data.List.Induction
import IntelAmt.Foundation.Bytes

/-!
# Collecting a declared number of items

A collector waits for `n` items that come in chunks of any size.  It is complete
with the chunk that brings the last of them; a chunk that holds more than is
missing is dropped as a whole and closes the collector.
-/

namespace IntelAmt
namespace Foundation

variable {alpha beta : Type}

inductive Collector (alpha : Type) where
  | gathering (items : List alpha)
  | complete (items : List alpha)
  | overrun (items : List alpha)

namespace Collector

/-- What has been collected. -/
def items : Collector alpha -> List alpha
  | gathering items => items
  | complete items => items
  | overrun items => items

/-- One more chunk for a collector of `n` items. -/
def feed (n : Nat) : Collector alpha -> List alpha -> Collector alpha
  | gathering items, chunk =>
      if n < items.length + chunk.length then overrun items
      else if items.length + chunk.length < n then gathering (items ++ chunk)
      else complete (items ++ chunk)
  | c, _ => c

end Collector

def collect (n : Nat) (chunks : List (List alpha)) : Collector alpha :=
  chunks.foldl (Collector.feed n) (Collector.gathering [])

section Feeding

variable {n : Nat} {items chunk : List alpha}

theorem feed_more (h : items.length + chunk.length < n) :
    (Collector.gathering items).feed n chunk =
      Collector.gathering (items ++ chunk) := by
  rw [Collector.feed, if_neg (by lia), if_pos h]

theorem feed_last (h : items.length + chunk.length = n) :
    (Collector.gathering items).feed n chunk =
      Collector.complete (items ++ chunk) := by
  rw [Collector.feed, if_neg (by lia), if_neg (by lia)]

theorem feed_over (h : n < items.length + chunk.length) :
    (Collector.gathering items).feed n chunk = Collector.overrun items := by
  rw [Collector.feed, if_pos h]

end Feeding

@[simp] theorem collect_snoc (n : Nat) (chunks : List (List alpha))
    (chunk : List alpha) :
    collect n (chunks ++ [chunk]) = (collect n chunks).feed n chunk := by
  simp [collect]

theorem collect_gathering {n : Nat} {chunks : List (List alpha)}
    (h : chunks.flatten.length < n) :
    collect n chunks = Collector.gathering chunks.flatten := by
  induction chunks using List.reverseRecOn with
  | nil => rfl
  | append_singleton chunks chunk ih =>
      have hflatten : (chunks ++ [chunk]).flatten =
          chunks.flatten ++ chunk := by simp
      rw [hflatten, List.length_append] at h
      rw [collect_snoc, ih (by lia), feed_more h, hflatten]

theorem collect_append_of_closed {n : Nat} {before : List (List alpha)}
    (h : forall items, collect n before ≠ Collector.gathering items)
    (after : List (List alpha)) :
    collect n (before ++ after) = collect n before := by
  induction after using List.reverseRecOn with
  | nil => rw [List.append_nil]
  | append_singleton after chunk ih =>
      rw [← List.append_assoc, collect_snoc, ih]
      cases hc : collect n before with
      | gathering items => exact absurd hc (h items)
      | complete items => rfl
      | overrun items => rfl

theorem collect_complete {n : Nat} {before : List (List alpha)}
    {chunk : List alpha} (hless : before.flatten.length < n)
    (hlast : before.flatten.length + chunk.length = n)
    (after : List (List alpha)) :
    collect n (before ++ chunk :: after) =
      Collector.complete (before.flatten ++ chunk) := by
  have hclosed : collect n (before ++ [chunk]) =
      Collector.complete (before.flatten ++ chunk) := by
    rw [collect_snoc, collect_gathering hless, feed_last hlast]
  rw [List.append_cons, collect_append_of_closed (by simp [hclosed]), hclosed]

/-- The chunk that brings too many. -/
theorem collect_overrun {n : Nat} {before : List (List alpha)}
    {chunk : List alpha} (hless : before.flatten.length < n)
    (hover : n < before.flatten.length + chunk.length)
    (after : List (List alpha)) :
    collect n (before ++ chunk :: after) =
      Collector.overrun before.flatten := by
  have hclosed : collect n (before ++ [chunk]) =
      Collector.overrun before.flatten := by
    rw [collect_snoc, collect_gathering hless, feed_over hover]
  rw [List.append_cons, collect_append_of_closed (by simp [hclosed]), hclosed]

/-- Where a sequence of chunks first reaches a positive number of items. -/
theorem exists_reaching {n : Nat} (hpos : 0 < n) (f : beta -> List alpha)
    {xs : List beta} (h : n ≤ (xs.flatMap f).length) :
    exists before x after, xs = before ++ x :: after ∧
      (before.flatMap f).length < n ∧
      n ≤ (before.flatMap f).length + (f x).length := by
  induction xs using List.reverseRecOn with
  | nil => simp at h; lia
  | append_singleton xs x ih =>
      by_cases hearlier : n ≤ (xs.flatMap f).length
      · rcases ih hearlier with ⟨before, y, after, rfl, hless, hreach⟩
        exact ⟨before, y, after ++ [x], by simp, hless, hreach⟩
      · refine ⟨xs, x, [], rfl, by lia, ?_⟩
        simpa using h

end Foundation
end IntelAmt
