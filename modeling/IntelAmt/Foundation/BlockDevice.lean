import Mathlib.Data.List.Basic

/-!
# Block devices

A block device is a row of numbered blocks that are read and written in ranges.
A range that does not lie on the device is turned away as a whole, and so is a
write to a device that is not writable.
-/

namespace IntelAmt
namespace Foundation

variable {block : Type}

/-- What is behind the last of the `count` blocks does not matter. -/
structure BlockDevice (block : Type) where
  count : Nat
  writable : Bool
  content : Nat -> block

inductive Access (block : Type) where
  | read (first length : Nat)
  | write (first : Nat) (blocks : List block)
deriving DecidableEq, Repr

/-- How an access ends; `nothing` is the end of one to an empty range, and
`absent` of one to no device at all. -/
inductive AccessResult (block : Type) where
  | blocks (blocks : List block)
  | stored
  | nothing
  | outOfRange
  | readOnly
  | absent
deriving DecidableEq, Repr

namespace BlockDevice

def range (d : BlockDevice block) (first length : Nat) : List block :=
  (List.range' first length).map d.content

def overwrite (d : BlockDevice block) (first : Nat) (blocks : List block) :
    BlockDevice block :=
  { d with
    content := fun k =>
      if first ≤ k then blocks[k - first]?.getD (d.content k)
      else d.content k }

def perform (d : BlockDevice block) :
    Access block -> AccessResult block × BlockDevice block
  | Access.read first length =>
      if d.count < first + length then (AccessResult.outOfRange, d)
      else if length = 0 then (AccessResult.nothing, d)
      else (AccessResult.blocks (d.range first length), d)
  | Access.write first blocks =>
      if d.count < first + blocks.length then (AccessResult.outOfRange, d)
      else if blocks.length = 0 then (AccessResult.nothing, d)
      else if d.writable = false then (AccessResult.readOnly, d)
      else (AccessResult.stored, d.overwrite first blocks)

variable {d : BlockDevice block}

end BlockDevice
end Foundation
end IntelAmt
