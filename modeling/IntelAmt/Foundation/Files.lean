import Mathlib.Logic.Function.Basic
import IntelAmt.Foundation.Bytes

/-!
# Files with names

A name leads to a file, and a file outlives its name as long as a handle is
open.  The files are numbered; numbers from `next` on are free.  Creation,
renaming and removal of a name are atomic, writing is not.
-/

namespace IntelAmt
namespace Foundation

structure Handle where
  inode : Nat
  offset : Nat
deriving DecidableEq, Repr

structure Files (name : Type) where
  contents : Nat -> Bytes
  next : Nat
  entry : name -> Option Nat

namespace Files

variable {name : Type} [DecidableEq name]

/-- Create a file under a name that must not exist: `O_CREAT | O_EXCL`. -/
def openExclusive (n : name) (files : Files name) :
    Option (Handle × Files name) :=
  match files.entry n with
  | some _ => none
  | none =>
      some ({ inode := files.next, offset := 0 },
        { contents := Function.update files.contents files.next []
          next := files.next + 1
          entry := Function.update files.entry n (some files.next) })

/-- Create a file or cut the one that there is: `O_CREAT | O_TRUNC`. -/
def openTruncate (n : name) (files : Files name) : Handle × Files name :=
  match files.entry n with
  | some inode =>
      ({ inode := inode, offset := 0 },
        { files with contents := Function.update files.contents inode [] })
  | none =>
      ({ inode := files.next, offset := 0 },
        { contents := Function.update files.contents files.next []
          next := files.next + 1
          entry := Function.update files.entry n (some files.next) })

omit [DecidableEq name] in
def write (handle : Handle) (data : Bytes) (files : Files name) : Files name :=
  { files with
    contents := Function.update files.contents handle.inode
      (splice (files.contents handle.inode) handle.offset data) }

/-- Replace what the new name leads to. -/
def rename (old new : name) (files : Files name) : Files name :=
  { files with
    entry := Function.update (Function.update files.entry new
      (files.entry old)) old none }

def unlink (n : name) (files : Files name) : Files name :=
  { files with entry := Function.update files.entry n none }

end Files

def Handle.advance (handle : Handle) (n : Nat) : Handle :=
  { handle with offset := handle.offset + n }

/-!
## What the operations leave alone
-/

namespace Files

variable {name : Type} {files : Files name}

theorem write_contents_of_ne {handle : Handle} {data : Bytes} {inode : Nat}
    (h : inode ≠ handle.inode) :
    (files.write handle data).contents inode = files.contents inode :=
  Function.update_of_ne h _ _

theorem write_contents_of_end {handle : Handle} {data : Bytes}
    (h : handle.offset = (files.contents handle.inode).length) :
    (files.write handle data).contents handle.inode =
      files.contents handle.inode ++ data := by
  show Function.update _ _ _ _ = _
  rw [Function.update_self, h]
  simp [splice]

variable [DecidableEq name]

/-- A new file, under a name that led nowhere. -/
structure Created (n : name) (files files' : Files name) (inode : Nat) :
    Prop where
  number : inode = files.next
  next : files'.next = files.next + 1
  self : files'.entry n = some inode
  others : forall m, m ≠ n -> files'.entry m = files.entry m
  empty : files'.contents inode = []
  contents : forall i, i ≠ inode -> files'.contents i = files.contents i

theorem openExclusive_eq_none {n : name} :
    files.openExclusive n = none ↔ exists inode, files.entry n = some inode := by
  unfold openExclusive
  cases files.entry n <;> simp

theorem openExclusive_created {n : name} {handle : Handle}
    {files' : Files name}
    (h : files.openExclusive n = some (handle, files')) :
    files.entry n = none ∧ handle.offset = 0 ∧
      Created n files files' handle.inode := by
  unfold openExclusive at h
  cases hentry : files.entry n with
  | some inode =>
      rw [hentry] at h
      cases h
  | none =>
      rw [hentry] at h
      cases h
      refine ⟨rfl, rfl, rfl, rfl, Function.update_self _ _ _, ?_,
        Function.update_self _ _ _, ?_⟩
      · exact fun m hm => Function.update_of_ne hm _ _
      · exact fun i hi => Function.update_of_ne hi _ _

theorem openTruncate_cases (n : name) :
    (files.openTruncate n).1.offset = 0 ∧
      (Created n files (files.openTruncate n).2
          (files.openTruncate n).1.inode ∨
        files.entry n = some (files.openTruncate n).1.inode ∧
        (files.openTruncate n).2.next = files.next ∧
        (files.openTruncate n).2.entry = files.entry ∧
        (files.openTruncate n).2.contents =
          Function.update files.contents (files.openTruncate n).1.inode
            []) := by
  unfold openTruncate
  cases hentry : files.entry n with
  | some inode => exact ⟨rfl, Or.inr ⟨rfl, rfl, rfl, rfl⟩⟩
  | none =>
      refine ⟨rfl, Or.inl ⟨rfl, rfl, Function.update_self _ _ _, ?_,
        Function.update_self _ _ _, ?_⟩⟩
      · exact fun m hm => Function.update_of_ne hm _ _
      · exact fun i hi => Function.update_of_ne hi _ _

theorem rename_new {old new : name} (h : new ≠ old) :
    (files.rename old new).entry new = files.entry old := by
  show Function.update _ _ _ _ = _
  rw [Function.update_of_ne h, Function.update_self]

theorem rename_old (old new : name) :
    (files.rename old new).entry old = none :=
  Function.update_self _ _ _

theorem unlink_self (n : name) : (files.unlink n).entry n = none :=
  Function.update_self _ _ _

theorem unlink_of_ne {n m : name} (h : m ≠ n) :
    (files.unlink n).entry m = files.entry m :=
  Function.update_of_ne h _ _

end Files
end Foundation
end IntelAmt
