import Mathlib.Data.List.Infix

/-!
# Exact reads

A reader that always knows how many bytes it needs next, and works on them
when it has exactly as many.  It is handed a stream byte by byte, so it does
not matter how the stream is cut.
-/

namespace IntelAmt
namespace Foundation

variable {byte state : Type}

/-- A state that needs no bytes reads no more. -/
structure ExactReader (byte state : Type) where
  needs : state -> Nat
  take : state -> List byte -> state

/-- Where a reader stands: what it has collected of the bytes it needs. -/
structure ExactRead (byte state : Type) where
  state : state
  collected : List byte := []
deriving DecidableEq, Repr

namespace ExactReader

variable (reader : ExactReader byte state)

def next (r : ExactRead byte state) (b : byte) : ExactRead byte state :=
  if reader.needs r.state ≤ r.collected.length then r
  else if r.collected.length + 1 < reader.needs r.state then
    { r with collected := r.collected ++ [b] }
  else { state := reader.take r.state (r.collected ++ [b]) }

def receive (r : ExactRead byte state) (bytes : List byte) :
    ExactRead byte state :=
  bytes.foldl reader.next r

@[simp] theorem receive_nil (r : ExactRead byte state) :
    reader.receive r [] = r := rfl

theorem receive_cons (r : ExactRead byte state) (b : byte)
    (bytes : List byte) :
    reader.receive r (b :: bytes) = reader.receive (reader.next r b) bytes :=
  rfl

theorem receive_append (r : ExactRead byte state) (bytes more : List byte) :
    reader.receive r (bytes ++ more) =
      reader.receive (reader.receive r bytes) more :=
  List.foldl_append

theorem receive_rest {s : state} {collected bytes : List byte}
    (hmissing : collected.length < reader.needs s)
    (h : collected.length + bytes.length = reader.needs s) :
    reader.receive { state := s, collected := collected } bytes =
      { state := reader.take s (collected ++ bytes) } := by
  induction bytes generalizing collected with
  | nil =>
      rw [List.length_nil] at h
      lia
  | cons b bytes ih =>
      rw [List.length_cons] at h
      rw [receive_cons, next, if_neg (by simp only; lia)]
      by_cases hmore : collected.length + 1 < reader.needs s
      · rw [if_pos hmore, ih (by simpa using hmore) (by simp; lia)]
        simp
      · have hlast : bytes = [] := List.length_eq_zero_iff.mp (by lia)
        rw [if_neg hmore, hlast, receive_nil]

theorem receive_exact {s : state} {bytes : List byte}
    (hpos : 0 < reader.needs s) (h : bytes.length = reader.needs s) :
    reader.receive { state := s } bytes = { state := reader.take s bytes } := by
  have hrest : reader.receive { state := s, collected := [] } bytes =
      { state := reader.take s ([] ++ bytes) } :=
    reader.receive_rest hpos (by simpa using h)
  simpa using hrest

theorem receive_two {s : state} {bytes more : List byte}
    (hpos : 0 < reader.needs s) (h : bytes.length = reader.needs s) :
    reader.receive { state := s } (bytes ++ more) =
      reader.receive { state := reader.take s bytes } more := by
  rw [receive_append, reader.receive_exact hpos h]

theorem receive_keeps {P : state -> Prop}
    (htake : forall s bytes, P s -> P (reader.take s bytes))
    (r : ExactRead byte state) (bytes : List byte) (h : P r.state) :
    P (reader.receive r bytes).state := by
  induction bytes generalizing r with
  | nil => exact h
  | cons b bytes ih =>
      rw [receive_cons]
      apply ih
      rw [next]
      split
      · exact h
      · split
        · exact h
        · exact htake _ _ h

end ExactReader
end Foundation
end IntelAmt
