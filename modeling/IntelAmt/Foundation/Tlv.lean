import Mathlib.Data.List.Forall2
import IntelAmt.Foundation.Bytes

/-!
# Tags, lengths and values

Encodings with tags of one byte and definite lengths: one element, and
elements one after the other.
-/

namespace IntelAmt
namespace Foundation

/-- The bytes of one element.  Its length is one byte, or it stands in the
bytes that another byte counts. -/
inductive Encoded (tag : UInt8) (content : Bytes) : Bytes -> Prop where
  | short (h : content.length < 128) :
      Encoded tag content (tag :: UInt8.ofNat content.length :: content)
  | long (count : Nat) (hpos : 0 < count) (hcount : count < 127)
      (h : content.length < 256 ^ count) :
      Encoded tag content
        (tag :: UInt8.ofNat (128 + count) ::
          (packBE count content.length ++ content))

def Element (field : UInt8 × Bytes) (bytes : Bytes) : Prop :=
  Encoded field.1 field.2 bytes

/-- An element with this tag, and in it what the item is written as. -/
def Tagged {alpha : Type} (tag : UInt8) (Written : alpha -> Bytes -> Prop)
    (item : alpha) (bytes : Bytes) : Prop :=
  exists content, Written item content ∧ Encoded tag content bytes

/-- What the items are written as, one after the other. -/
inductive Sequenced {alpha : Type} (Written : alpha -> Bytes -> Prop) :
    List alpha -> Bytes -> Prop where
  | nil : Sequenced Written [] []
  | cons {item : alpha} {items : List alpha} {first rest : Bytes}
      (hfirst : Written item first) (hrest : Sequenced Written items rest) :
      Sequenced Written (item :: items) (first ++ rest)

section Sequences

variable {alpha : Type} {Written : alpha -> Bytes -> Prop}
variable {tag : UInt8} {content bytes : Bytes}

theorem Encoded.length (h : Encoded tag content bytes) : 2 ≤ bytes.length := by
  cases h with
  | short _ => simp
  | long _ _ _ _ => simp

theorem Sequenced.length_le {fields : List (UInt8 × Bytes)}
    (h : Sequenced Element fields bytes) : fields.length ≤ bytes.length := by
  induction h with
  | nil => exact Nat.le_refl 0
  | cons hfirst _ ih =>
      have htwo := Encoded.length hfirst
      rw [List.length_cons, List.length_append]
      lia

theorem Sequenced.elements {items : List alpha}
    (h : Sequenced (Tagged tag Written) items bytes) :
    exists contents, List.Forall₂ Written items contents ∧
      Sequenced Element (contents.map fun content => (tag, content)) bytes := by
  induction h with
  | nil => exact ⟨[], List.Forall₂.nil, Sequenced.nil⟩
  | cons hfirst _ ih =>
      rcases hfirst with ⟨content, hwritten, hencoded⟩
      rcases ih with ⟨contents, hcontents, hrest⟩
      exact ⟨content :: contents, List.Forall₂.cons hwritten hcontents,
        Sequenced.cons hencoded hrest⟩

end Sequences
end Foundation
end IntelAmt
