import Mathlib.Algebra.Ring.Int.Defs
import Mathlib.Algebra.Ring.Nat

/-!
# Byte strings

Fixed-width little-endian and big-endian integers, slices, and the update of a
byte string in place.  A byte string is a list of bytes; slices past its end
are cut short, as in the language the modelled code is written in.
-/

namespace IntelAmt
namespace Foundation

abbrev Bytes := List UInt8

/-!
## Integers of a fixed width
-/

def packLE : Nat -> Nat -> Bytes
  | 0, _ => []
  | width + 1, n => UInt8.ofNat (n % 256) :: packLE width (n / 256)

def leNat : Bytes -> Nat
  | [] => 0
  | b :: rest => b.toNat + 256 * leNat rest

def packBE (width n : Nat) : Bytes := (packLE width n).reverse

def beNat (bytes : Bytes) : Nat := leNat bytes.reverse

@[simp] theorem packLE_length (width n : Nat) :
    (packLE width n).length = width := by
  induction width generalizing n with
  | zero => rfl
  | succ width ih => simp [packLE, ih]

@[simp] theorem packBE_length (width n : Nat) :
    (packBE width n).length = width := by
  simp [packBE]

theorem leNat_packLE (width n : Nat) :
    leNat (packLE width n) = n % 256 ^ width := by
  induction width generalizing n with
  | zero => simp [packLE, leNat, Nat.mod_one]
  | succ width ih =>
      have hbyte : (UInt8.ofNat (n % 256)).toNat = n % 256 := by
        simp
      rw [packLE, leNat, ih, hbyte, Nat.pow_succ, Nat.mul_comm (256 ^ width),
        Nat.mod_mul]

theorem leNat_packLE_of_lt {width n : Nat} (h : n < 256 ^ width) :
    leNat (packLE width n) = n := by
  rw [leNat_packLE, Nat.mod_eq_of_lt h]

theorem packLE_leNat (bytes : Bytes) :
    packLE bytes.length (leNat bytes) = bytes := by
  induction bytes with
  | nil => rfl
  | cons b rest ih =>
      have hb : b.toNat < 256 := b.toNat_lt
      have hmod : (b.toNat + 256 * leNat rest) % 256 = b.toNat := by lia
      have hdiv : (b.toNat + 256 * leNat rest) / 256 = leNat rest := by lia
      rw [List.length_cons, leNat, packLE, hmod, hdiv, ih, UInt8.ofNat_toNat]

theorem leNat_lt (bytes : Bytes) : leNat bytes < 256 ^ bytes.length := by
  induction bytes with
  | nil => simp [leNat]
  | cons b rest ih =>
      have hb : b.toNat < 256 := b.toNat_lt
      simp only [leNat, List.length_cons, Nat.pow_succ]
      lia

/-!
## Slices
-/

def slice (bytes : Bytes) (offset length : Nat) : Bytes :=
  (bytes.drop offset).take length

theorem slice_length (bytes : Bytes) (offset length : Nat) :
    (slice bytes offset length).length =
      min length (bytes.length - offset) := by
  simp [slice]

theorem slice_length_le (bytes : Bytes) (offset length : Nat) :
    (slice bytes offset length).length ≤ length := by
  rw [slice_length]
  exact Nat.min_le_left _ _

theorem slice_length_of_le {bytes : Bytes} {offset length : Nat}
    (h : offset + length ≤ bytes.length) :
    (slice bytes offset length).length = length := by
  rw [slice_length]
  lia

theorem slice_append (bytes : Bytes) (offset n m : Nat) :
    slice bytes offset n ++ slice bytes (offset + n) m =
      slice bytes offset (n + m) := by
  simp [slice, List.take_add, List.drop_drop]

theorem getD_append_left {bytes more : Bytes} {k : Nat}
    (h : k < bytes.length) : (bytes ++ more).getD k 0 = bytes.getD k 0 := by
  simp [List.getD, List.getElem?_append_left h]

theorem slice_append_left {bytes more : Bytes} {offset length : Nat}
    (h : offset + length ≤ bytes.length) :
    slice (bytes ++ more) offset length = slice bytes offset length := by
  simp only [slice]
  rw [List.drop_append_of_le_length (by lia),
    List.take_append_of_le_length (by simp; lia)]

theorem getD_take {n k : Nat} (h : k < n) (bytes : Bytes) :
    (bytes.take n).getD k 0 = bytes.getD k 0 := by
  simp [List.getD, h]

theorem slice_take {n offset length : Nat} (h : offset + length ≤ n)
    (bytes : Bytes) :
    slice (bytes.take n) offset length = slice bytes offset length := by
  have hmin : min length (n - offset) = length := by lia
  rw [slice, slice, List.drop_take, List.take_take, hmin]

/-!
## Writing in place

`splice file offset data` is the file after `data` has been written at
`offset`.  A gap between the end of the file and the offset reads as zeros.
-/

def splice (file : Bytes) (offset : Nat) (data : Bytes) : Bytes :=
  file.take offset ++ List.replicate (offset - file.length) 0 ++ data ++
    file.drop (offset + data.length)

theorem splice_of_le {file data : Bytes} {offset : Nat}
    (h : offset ≤ file.length) :
    splice file offset data =
      file.take offset ++ (data ++ file.drop (offset + data.length)) := by
  have hgap : offset - file.length = 0 := by lia
  simp only [splice, hgap, List.replicate_zero, List.append_nil,
    List.append_assoc]

theorem splice_length_of_le {file data : Bytes} {offset : Nat}
    (h : offset + data.length ≤ file.length) :
    (splice file offset data).length = file.length := by
  simp [splice]
  lia

theorem getElem?_splice_inside {file data : Bytes} {offset k : Nat}
    (hfit : offset + data.length ≤ file.length)
    (hlo : offset ≤ k) (hhi : k < offset + data.length) :
    (splice file offset data)[k]? = data[k - offset]? := by
  have hfront : (file.take offset).length = offset :=
    List.length_take_of_le (by lia)
  rw [splice_of_le (by lia), List.getElem?_append_right (by lia), hfront,
    List.getElem?_append_left (by lia)]

theorem getElem?_splice_outside {file data : Bytes} {offset k : Nat}
    (hfit : offset + data.length ≤ file.length)
    (hout : k < offset ∨ offset + data.length ≤ k) :
    (splice file offset data)[k]? = file[k]? := by
  have hfront : (file.take offset).length = offset :=
    List.length_take_of_le (by lia)
  rw [splice_of_le (by lia)]
  rcases hout with hbefore | hafter
  · rw [List.getElem?_append_left (by lia), List.getElem?_take]
    simp [hbefore]
  · rw [List.getElem?_append_right (by lia), hfront,
      List.getElem?_append_right (by lia), List.getElem?_drop]
    congr 1
    lia

end Foundation
end IntelAmt
