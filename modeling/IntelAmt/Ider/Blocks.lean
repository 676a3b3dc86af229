import IntelAmt.Foundation.BlockDevice
import IntelAmt.Ider.WriteAssembly

/-!
# Files as rows of blocks

An image addresses its file by bytes, and a host addresses a device by blocks.
A range of blocks is one slice of the file, and writing it is one splice.
-/

namespace IntelAmt
namespace Ider

open Foundation

def blockAt (size : Nat) (file : Bytes) (k : Nat) : Bytes :=
  slice file (k * size) size

theorem slice_blocks (size : Nat) (file : Bytes) (first length : Nat) :
    slice file (first * size) (length * size) =
      ((List.range' first length).map (blockAt size file)).flatten := by
  induction length generalizing first with
  | zero => simp [slice]
  | succ length ih =>
      rw [List.range'_succ, List.map_cons, List.flatten_cons, ← ih,
        Nat.add_mul, Nat.one_mul, Nat.add_mul, Nat.one_mul,
        Nat.add_comm (length * size), ← slice_append]
      rfl

theorem getElem?_slice {file : Bytes} {offset length j : Nat}
    (h : j < length) : (slice file offset length)[j]? = file[offset + j]? := by
  rw [slice, List.getElem?_take_of_lt h, List.getElem?_drop]

theorem slice_splice_outside {file data : Bytes} {offset start length : Nat}
    (hfit : offset + data.length ≤ file.length)
    (h : start + length ≤ offset ∨ offset + data.length ≤ start) :
    slice (splice file offset data) start length = slice file start length := by
  apply List.ext_getElem?
  intro j
  by_cases hj : j < length
  · rw [getElem?_slice hj, getElem?_slice hj,
      getElem?_splice_outside hfit (by lia)]
  · have hnone : forall bytes : Bytes,
        (slice bytes start length)[j]? = none := fun bytes =>
      List.getElem?_eq_none
        (Nat.le_trans (slice_length_le _ _ _) (Nat.not_lt.mp hj))
    rw [hnone, hnone]

theorem blockAt_splice_one {file block : Bytes} {size first : Nat}
    (hsize : block.length = size)
    (hfit : (first + 1) * size ≤ file.length) (k : Nat) :
    blockAt size (splice file (first * size) block) k =
      if k = first then block else blockAt size file k := by
  have hroom : first * size + block.length ≤ file.length := by
    rw [hsize, ← Nat.succ_mul]
    exact hfit
  split
  · rename_i heq
    subst heq
    have hback := slice_splice hroom
    rw [hsize] at hback
    exact hback
  · rename_i hne
    apply slice_splice_outside hroom
    rw [hsize]
    rcases Nat.lt_or_gt_of_ne hne with hbefore | hbehind
    · left
      rw [← Nat.succ_mul]
      exact Nat.mul_le_mul_right size hbefore
    · right
      rw [← Nat.succ_mul]
      exact Nat.mul_le_mul_right size hbehind

theorem blockAt_splice {size : Nat} (blocks : List Bytes) {file : Bytes}
    {first : Nat} (hsize : forall block, block ∈ blocks -> block.length = size)
    (hfit : (first + blocks.length) * size ≤ file.length) (k : Nat) :
    blockAt size (splice file (first * size) blocks.flatten) k =
      if first ≤ k then blocks[k - first]?.getD (blockAt size file k)
      else blockAt size file k := by
  induction blocks generalizing file first with
  | nil =>
      rw [List.length_nil, Nat.add_zero] at hfit
      rw [List.flatten_nil, splice_nil hfit]
      simp
  | cons block blocks ih =>
      have hblock := hsize block List.mem_cons_self
      have hrest : forall other, other ∈ blocks -> other.length = size :=
        fun other hmem => hsize other (List.mem_cons_of_mem _ hmem)
      have hflat : blocks.flatten.length = blocks.length * size := by
        rw [List.length_flatten, List.map_congr_left hrest]
        simp
      rw [List.length_cons, ← Nat.add_assoc, Nat.add_right_comm] at hfit
      have hone : (first + 1) * size ≤ file.length :=
        Nat.le_trans (Nat.mul_le_mul_right size (by lia)) hfit
      have hlength : (splice file (first * size) block).length =
          file.length := by
        apply splice_length_of_le
        rw [hblock, ← Nat.succ_mul]
        exact hone
      have hboth : first * size + block.length + blocks.flatten.length ≤
          file.length := by
        rw [hblock, hflat, ← Nat.succ_mul, ← Nat.add_mul]
        exact hfit
      rw [List.flatten_cons, ← splice_splice hboth, hblock, ← Nat.succ_mul,
        ih hrest (by rw [hlength]; exact hfit), blockAt_splice_one hblock hone]
      rcases Nat.lt_trichotomy k first with hbefore | heq | hbehind
      · rw [if_neg (by lia), if_neg (by lia), if_neg (by lia)]
      · subst heq
        rw [if_neg (Nat.not_succ_le_self k), if_pos rfl,
          if_pos (Nat.le_refl k), Nat.sub_self]
        rfl
      · have hindex : k - first = (k - (first + 1)) + 1 := by lia
        rw [if_pos (Nat.succ_le_of_lt hbehind), if_pos (Nat.le_of_lt hbehind),
          if_neg (Nat.ne_of_gt hbehind), hindex, List.getElem?_cons_succ]

/-- The file holds the blocks of the device. -/
structure Holds (size : Nat) (file : Bytes) (d : BlockDevice Bytes) :
    Prop where
  covers : d.count * size ≤ file.length
  content : forall k, k < d.count -> d.content k = blockAt size file k

namespace Holds

variable {size : Nat} {file : Bytes} {d : BlockDevice Bytes}

theorem read (h : Holds size file d) {first length : Nat}
    (hrange : first + length ≤ d.count) :
    slice file (first * size) (length * size) =
      (d.range first length).flatten := by
  rw [slice_blocks, BlockDevice.range]
  congr 1
  apply List.map_congr_left
  intro k hk
  rw [List.mem_range'_1] at hk
  exact (h.content k (by lia)).symm

theorem write (h : Holds size file d) {first : Nat} {blocks : List Bytes}
    (hsize : forall block, block ∈ blocks -> block.length = size)
    (hrange : first + blocks.length ≤ d.count) :
    Holds size (splice file (first * size) blocks.flatten)
      (d.overwrite first blocks) := by
  have hfit : (first + blocks.length) * size ≤ file.length :=
    Nat.le_trans (Nat.mul_le_mul_right size hrange) h.covers
  have hflat : blocks.flatten.length = blocks.length * size := by
    rw [List.length_flatten, List.map_congr_left hsize]
    simp
  refine ⟨?_, ?_⟩
  · rw [splice_length_of_le (by rw [hflat, ← Nat.add_mul]; exact hfit)]
    exact h.covers
  · intro k hk
    rw [blockAt_splice blocks hsize hfit, BlockDevice.overwrite]
    simp only [h.content k hk]

end Holds
end Ider
end IntelAmt
