import IntelAmt.Foundation.Bytes
import IntelAmt.Foundation.Json

/-!
# Bytes in hexadecimal

`bytes.hex` and `bytes.fromhex`.
-/

namespace IntelAmt
namespace Foundation

def hexCharacter (n : Nat) : Char := "0123456789abcdef".toList.getD n '0'

/-- `bytes.hex`. -/
def hexOf (bytes : Bytes) : String :=
  String.ofList (bytes.flatMap fun b =>
    [hexCharacter (b.toNat / 16), hexCharacter (b.toNat % 16)])

def isAsciiSpace (c : Char) : Bool :=
  c.toNat = 32 || (9 ≤ c.toNat && c.toNat ≤ 13)

/-- `bytes.fromhex`: there may be blanks between two bytes. -/
def fromHex : List Char -> Option Bytes
  | [] => some []
  | [c] => if isAsciiSpace c then some [] else none
  | a :: b :: rest =>
      if isAsciiSpace a then fromHex (b :: rest)
      else
        match Json.hexValue a, Json.hexValue b with
        | some high, some low =>
            (fromHex rest).map fun bytes =>
              UInt8.ofNat (16 * high + low) :: bytes
        | _, _ => none

/-!
## Read back
-/

theorem hexValue_hexCharacter {n : Nat} (h : n < 16) :
    Json.hexValue (hexCharacter n) = some n := by
  have hall : forall n, n < 16 ->
      Json.hexValue (hexCharacter n) = some n := by decide
  exact hall n h

theorem isAsciiSpace_hexCharacter {n : Nat} (h : n < 16) :
    isAsciiSpace (hexCharacter n) = false := by
  have hall : forall n, n < 16 -> isAsciiSpace (hexCharacter n) = false := by
    decide
  exact hall n h

theorem fromHex_pair {a b : Char} {high low : Nat} (rest : List Char)
    (hspace : isAsciiSpace a = false) (ha : Json.hexValue a = some high)
    (hb : Json.hexValue b = some low) :
    fromHex (a :: b :: rest) =
      (fromHex rest).map fun bytes =>
        UInt8.ofNat (16 * high + low) :: bytes := by
  rw [fromHex, hspace, ha, hb]
  rfl

theorem fromHex_hexOf (bytes : Bytes) :
    fromHex (hexOf bytes).toList = some bytes := by
  rw [hexOf, String.toList_ofList]
  induction bytes with
  | nil => rfl
  | cons b rest ih =>
      have hhigh : b.toNat / 16 < 16 := by
        have hb : b.toNat < 256 := b.toNat_lt
        omega
      have hlow : b.toNat % 16 < 16 := Nat.mod_lt _ (by decide)
      have hbyte : UInt8.ofNat (16 * (b.toNat / 16) + b.toNat % 16) = b := by
        rw [Nat.div_add_mod, UInt8.ofNat_toNat]
      rw [List.flatMap_cons, List.cons_append, List.cons_append,
        List.nil_append,
        fromHex_pair _ (isAsciiSpace_hexCharacter hhigh)
          (hexValue_hexCharacter hhigh) (hexValue_hexCharacter hlow),
        ih, hbyte]
      rfl

theorem hexOf_injective {bytes more : Bytes} (h : hexOf bytes = hexOf more) :
    bytes = more := by
  have hread : fromHex (hexOf bytes).toList = some more := by
    rw [h, fromHex_hexOf]
  rw [fromHex_hexOf] at hread
  exact Option.some.inj hread

end Foundation
end IntelAmt
