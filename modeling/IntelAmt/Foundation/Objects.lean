/-!
# Objects with an identity

A heap of objects that are only ever added.  `Heap.Extends` says that every
object that was there has kept its content; it is what a procedure owes to all
others that hold references into the same heap.
-/

namespace IntelAmt
namespace Foundation

variable {alpha : Type}

structure Heap (alpha : Type) where
  cells : List alpha

/-- The identity of an object. -/
abbrev Address := Nat

namespace Heap

def get? (heap : Heap alpha) (a : Address) : Option alpha := heap.cells[a]?

/-- A new object. -/
def alloc (heap : Heap alpha) (content : alpha) : Address × Heap alpha :=
  (heap.cells.length, ⟨heap.cells ++ [content]⟩)

/-- Assign to an object in place. -/
def update (heap : Heap alpha) (a : Address) (f : alpha -> alpha) :
    Heap alpha :=
  ⟨heap.cells.modify a f⟩

/-- Every object of the first heap is in the second, unchanged. -/
def Extends (heap heap' : Heap alpha) : Prop :=
  forall a content, heap.get? a = some content -> heap'.get? a = some content

theorem Extends.refl (heap : Heap alpha) : heap.Extends heap :=
  fun _ _ h => h

theorem Extends.trans {heap heap' heap'' : Heap alpha}
    (h : heap.Extends heap') (h' : heap'.Extends heap'') :
    heap.Extends heap'' :=
  fun a content hget => h' a content (h a content hget)

@[simp] theorem get?_alloc (heap : Heap alpha) (content : alpha) :
    (heap.alloc content).2.get? (heap.alloc content).1 = some content := by
  simp [get?, alloc]

theorem alloc_extends (heap : Heap alpha) (content : alpha) :
    heap.Extends (heap.alloc content).2 := by
  intro a content' hget
  have hlt : a < heap.cells.length := (List.getElem?_eq_some_iff.mp hget).1
  rw [get?, alloc, List.getElem?_append_left hlt]
  exact hget

theorem get?_update (heap : Heap alpha) {a : Address} {content : alpha}
    (f : alpha -> alpha) (h : heap.get? a = some content) :
    (heap.update a f).get? a = some (f content) := by
  rw [get?, update, List.getElem?_modify_eq]
  exact congrArg (Option.map f) h

theorem get?_update_of_ne (heap : Heap alpha) {a b : Address}
    (f : alpha -> alpha) (h : a ≠ b) :
    (heap.update a f).get? b = heap.get? b := by
  exact List.getElem?_modify_ne f heap.cells h

theorem extends_update_new (heap : Heap alpha) (content : alpha)
    (f : alpha -> alpha) :
    heap.Extends ((heap.alloc content).2.update (heap.alloc content).1 f) := by
  intro a content' hget
  have hlt : a < heap.cells.length := (List.getElem?_eq_some_iff.mp hget).1
  have hne : (heap.alloc content).1 ≠ a := Nat.ne_of_gt hlt
  rw [get?_update_of_ne _ f hne]
  exact alloc_extends heap content a content' hget

end Heap

end Foundation
end IntelAmt
