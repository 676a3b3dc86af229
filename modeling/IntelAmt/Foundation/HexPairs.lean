import IntelAmt.Foundation.Hex

/-!
# Pairs of hexadecimal digits

Which texts are read as bytes, and the digits of bytes as groups of two.
-/

namespace IntelAmt
namespace Foundation

def hexPairs (bytes : Bytes) : List Char :=
  bytes.flatMap fun b =>
    [hexCharacter (b.toNat / 16), hexCharacter (b.toNat % 16)]

def isHexCharacter (c : Char) : Bool := (Json.hexValue c).isSome

/-- Pairs of digits, with blanks in front of them or behind them. -/
inductive SpacedPairs : List Char -> Prop where
  | nil : SpacedPairs []
  | space {c : Char} {rest : List Char} (hspace : isAsciiSpace c = true)
      (hrest : SpacedPairs rest) : SpacedPairs (c :: rest)
  | pair {a b : Char} {rest : List Char} (ha : isHexCharacter a = true)
      (hb : isHexCharacter b = true) (hrest : SpacedPairs rest) :
      SpacedPairs (a :: b :: rest)

/-- The pairs from the last one to the first. -/
def swapPairs : List Char -> List Char
  | a :: b :: rest => swapPairs rest ++ [a, b]
  | text => text

/-!
## Digits
-/

theorem isHexCharacter_code {c : Char} (h : isHexCharacter c = true) :
    (48 ≤ c.toNat ∧ c.toNat ≤ 57) ∨ (97 ≤ c.toNat ∧ c.toNat ≤ 102) ∨
      (65 ≤ c.toNat ∧ c.toNat ≤ 70) := by
  unfold isHexCharacter Json.hexValue at h
  split at h
  · rename_i hdigit
    rw [Char.isDigit, Bool.and_eq_true, decide_eq_true_iff,
      decide_eq_true_iff, ge_iff_le, UInt32.le_iff_toNat_le,
      UInt32.le_iff_toNat_le] at hdigit
    exact Or.inl hdigit
  · split at h
    · rename_i hlower
      rw [Char.le_def, Char.le_def, UInt32.le_iff_toNat_le,
        UInt32.le_iff_toNat_le] at hlower
      exact Or.inr (Or.inl hlower)
    · split at h
      · rename_i hupper
        rw [Char.le_def, Char.le_def, UInt32.le_iff_toNat_le,
          UInt32.le_iff_toNat_le] at hupper
        exact Or.inr (Or.inr hupper)
      · cases h

theorem isAsciiSpace_hex {c : Char} (h : isHexCharacter c = true) :
    isAsciiSpace c = false := by
  have hcode := isHexCharacter_code h
  rw [isAsciiSpace, Bool.or_eq_false_iff, Bool.and_eq_false_iff,
    decide_eq_false_iff_not, decide_eq_false_iff_not, decide_eq_false_iff_not]
  omega

theorem toUpper_hexCharacter {c : Char} {n : Nat}
    (h : Json.hexValue c = some n) : (hexCharacter n).toUpper = c.toUpper := by
  have hall : forall k, k < 103 -> ((Json.hexValue (Char.ofNat k)).all
      fun n => (hexCharacter n).toUpper = (Char.ofNat k).toUpper) = true := by
    decide +kernel
  have hhex : isHexCharacter c = true := by
    rw [isHexCharacter, h]
    rfl
  have hcode := isHexCharacter_code hhex
  have hdigit := hall c.toNat (by omega)
  rw [Char.ofNat_toNat, h, Option.all_some] at hdigit
  exact of_decide_eq_true hdigit

theorem hexValue_lt {c : Char} {n : Nat} (h : Json.hexValue c = some n) :
    n < 16 := by
  have hall : forall k, k < 103 ->
      ((Json.hexValue (Char.ofNat k)).all fun n => n < 16) = true := by
    decide +kernel
  have hhex : isHexCharacter c = true := by
    rw [isHexCharacter, h]
    rfl
  have hcode := isHexCharacter_code hhex
  have hdigit := hall c.toNat (by omega)
  rw [Char.ofNat_toNat, h, Option.all_some] at hdigit
  exact of_decide_eq_true hdigit

/-!
## Reading
-/

theorem fromHex_pair_hex {a b : Char} (rest : List Char)
    (ha : isHexCharacter a = true) (hb : isHexCharacter b = true) :
    exists high low, Json.hexValue a = some high ∧
      Json.hexValue b = some low ∧
      fromHex (a :: b :: rest) =
        (fromHex rest).map fun bytes =>
          UInt8.ofNat (16 * high + low) :: bytes := by
  rcases Option.isSome_iff_exists.mp ha with ⟨high, hhigh⟩
  rcases Option.isSome_iff_exists.mp hb with ⟨low, hlow⟩
  exact ⟨high, low, hhigh, hlow,
    fromHex_pair rest (isAsciiSpace_hex ha) hhigh hlow⟩

theorem fromHex_space {c : Char} (rest : List Char)
    (hspace : isAsciiSpace c = true) : fromHex (c :: rest) = fromHex rest := by
  cases rest with
  | nil => simp [fromHex, hspace]
  | cons b rest => rw [fromHex, if_pos hspace]

theorem fromHex_isSome_iff (text : List Char) :
    (fromHex text).isSome = true ↔ SpacedPairs text := by
  constructor
  · intro h
    fun_induction fromHex text with
    | case1 => exact SpacedPairs.nil
    | case2 c hspace => exact SpacedPairs.space hspace SpacedPairs.nil
    | case3 c hspace => cases h
    | case4 a b rest hspace ih => exact SpacedPairs.space hspace (ih h)
    | case5 a b rest hspace low high hlow hhigh ih =>
        rw [Option.isSome_map] at h
        apply SpacedPairs.pair
        · rw [isHexCharacter, hhigh]
          rfl
        · rw [isHexCharacter, hlow]
          rfl
        · exact ih h
    | case6 a b rest hspace hnot => cases h
  · intro h
    induction h with
    | nil => rfl
    | space hspace _ ih => rwa [fromHex_space _ hspace]
    | pair ha hb _ ih =>
        rcases fromHex_pair_hex _ ha hb with ⟨high, low, _, _, hread⟩
        rwa [hread, Option.isSome_map]

theorem fromHex_length {text : List Char} {raw : Bytes}
    (h : fromHex text = some raw) :
    text.countP isAsciiSpace + 2 * raw.length = text.length := by
  have hspaced := (fromHex_isSome_iff text).mp (by rw [h]; rfl)
  induction hspaced generalizing raw with
  | nil =>
      cases h
      rfl
  | space hspace _ ih =>
      rw [fromHex_space _ hspace] at h
      have hrest := ih h
      rw [List.countP_cons_of_pos hspace, List.length_cons]
      omega
  | @pair a b rest ha hb _ ih =>
      rcases fromHex_pair_hex rest ha hb with ⟨high, low, _, _, hread⟩
      rw [hread, Option.map_eq_some_iff] at h
      rcases h with ⟨bytes, hbytes, hraw⟩
      have hrest := ih hbytes
      have hfirst : ¬ isAsciiSpace a = true := by simp [isAsciiSpace_hex ha]
      have hsecond : ¬ isAsciiSpace b = true := by simp [isAsciiSpace_hex hb]
      rw [List.countP_cons_of_neg hfirst, List.countP_cons_of_neg hsecond,
        ← hraw, List.length_cons, List.length_cons, List.length_cons]
      omega

theorem fromHex_digits {text : List Char} {raw : Bytes}
    (h : fromHex text = some raw)
    (hhex : forall c, c ∈ text -> isHexCharacter c = true) :
    (hexPairs raw).map Char.toUpper = text.map Char.toUpper := by
  have hspaced := (fromHex_isSome_iff text).mp (by rw [h]; rfl)
  induction hspaced generalizing raw with
  | nil =>
      cases h
      rfl
  | @space c rest hspace _ _ =>
      rw [isAsciiSpace_hex (hhex c List.mem_cons_self)] at hspace
      cases hspace
  | @pair a b rest ha hb _ ih =>
      rcases fromHex_pair_hex rest ha hb with ⟨high, low, hhigh, hlow, hread⟩
      rw [hread, Option.map_eq_some_iff] at h
      rcases h with ⟨bytes, hbytes, hraw⟩
      have hrest := ih hbytes fun c hc => hhex c (by simp [hc])
      have hbyte : (UInt8.ofNat (16 * high + low)).toNat = 16 * high + low := by
        have hbounds := hexValue_lt hhigh
        have hother := hexValue_lt hlow
        rw [UInt8.toNat_ofNat', Nat.mod_eq_of_lt (by omega)]
      have hdiv : (16 * high + low) / 16 = high := by
        have hother := hexValue_lt hlow
        omega
      have hmod : (16 * high + low) % 16 = low := by
        have hother := hexValue_lt hlow
        omega
      rw [← hraw, hexPairs, List.flatMap_cons, hbyte, hdiv, hmod,
        List.map_append, List.map_cons, List.map_cons, List.map_nil,
        toUpper_hexCharacter hhigh, toUpper_hexCharacter hlow,
        List.map_cons, List.map_cons, ← hrest]
      rfl

theorem spacedPairs_of_hex {text : List Char} {n : Nat}
    (hlength : text.length = 2 * n)
    (hhex : forall c, c ∈ text -> isHexCharacter c = true) :
    SpacedPairs text := by
  induction n generalizing text with
  | zero =>
      rw [List.eq_nil_of_length_eq_zero hlength]
      exact SpacedPairs.nil
  | succ n ih =>
      rcases text with _ | ⟨a, _ | ⟨b, rest⟩⟩
      · cases hlength
      · rw [List.length_singleton] at hlength
        omega
      · rw [List.length_cons, List.length_cons] at hlength
        apply SpacedPairs.pair
        · exact hhex a (by simp)
        · exact hhex b (by simp)
        · exact ih (by omega) fun c hc => hhex c (by simp [hc])

theorem SpacedPairs.blank {text : List Char} (h : SpacedPairs text)
    {c : Char} (hc : c ∈ text) (hnot : isHexCharacter c = false) :
    isAsciiSpace c = true := by
  have himpossible : forall {d : Char}, isHexCharacter d = true -> c ≠ d := by
    intro d hd hsame
    rw [hsame, hd] at hnot
    cases hnot
  induction h with
  | nil => cases hc
  | space hspace _ ih =>
      rcases List.mem_cons.mp hc with heq | hrest
      · rwa [heq]
      · exact ih hrest
  | pair ha hb _ ih =>
      rcases List.mem_cons.mp hc with heq | hrest
      · exact absurd heq (himpossible ha)
      · rcases List.mem_cons.mp hrest with heq | hrest
        · exact absurd heq (himpossible hb)
        · exact ih hrest

/-!
## Groups of digits
-/

theorem toList_hexOf (bytes : Bytes) : (hexOf bytes).toList = hexPairs bytes :=
  String.toList_ofList

theorem hexPairs_append (first rest : Bytes) :
    hexPairs (first ++ rest) = hexPairs first ++ hexPairs rest :=
  List.flatMap_append

theorem hexPairs_length (bytes : Bytes) :
    (hexPairs bytes).length = 2 * bytes.length := by
  induction bytes with
  | nil => rfl
  | cons b bytes ih =>
      have hcons : hexPairs (b :: bytes) = hexPairs [b] ++ hexPairs bytes :=
        hexPairs_append [b] bytes
      rw [hcons, List.length_append, ih, List.length_cons]
      have hone : (hexPairs [b]).length = 2 := rfl
      omega

theorem hexPairs_reverse (bytes : Bytes) :
    hexPairs bytes.reverse = swapPairs (hexPairs bytes) := by
  induction bytes with
  | nil => rfl
  | cons b bytes ih =>
      rw [List.reverse_cons, hexPairs_append, ih]
      rfl

theorem swapPairs_map (f : Char -> Char) (text : List Char) :
    swapPairs (text.map f) = (swapPairs text).map f := by
  fun_induction swapPairs text with
  | case1 a b rest ih =>
      rw [List.map_cons, List.map_cons, swapPairs, ih, List.map_append]
      rfl
  | case2 text hshort =>
      rcases text with _ | ⟨a, _ | ⟨b, rest⟩⟩
      · rfl
      · rfl
      · exact absurd rfl (hshort a b rest)

theorem isHexCharacter_hexPairs {bytes : Bytes} {c : Char}
    (h : c ∈ hexPairs bytes) : isHexCharacter c = true := by
  rcases List.mem_flatMap.mp h with ⟨b, _, hc⟩
  have hb : b.toNat < 256 := b.toNat_lt
  simp only [List.mem_cons, List.not_mem_nil, or_false] at hc
  rcases hc with hc | hc
  · rw [hc, isHexCharacter, hexValue_hexCharacter (by omega)]
    rfl
  · rw [hc, isHexCharacter, hexValue_hexCharacter (by omega)]
    rfl

end Foundation
end IntelAmt
