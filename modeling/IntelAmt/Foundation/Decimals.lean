import IntelAmt.Foundation.Json.Numbers
import IntelAmt.Foundation.Text

/-!
# Decimal fields

Numbers with a fixed count of decimal digits: how such a field is written, how
it is formatted with leading zeros, and what it reads back as.
-/

namespace IntelAmt
namespace Foundation

/-- The last digits of a number, as many as the field is wide. -/
def fixedDigits : Nat -> Nat -> List Char
  | 0, _ => []
  | width + 1, n => fixedDigits width (n / 10) ++ [Nat.digitChar (n % 10)]

/-- A number with leading zeros up to a width, behind its sign. -/
def zeroPadded (width : Nat) (n : Int) : String :=
  let sign := if n < 0 then ['-'] else []
  let digits := Nat.toDigits 10 n.natAbs
  String.ofList
    (sign ++ List.replicate (width - sign.length - digits.length) '0' ++ digits)

@[simp] theorem fixedDigits_length (width n : Nat) :
    (fixedDigits width n).length = width := by
  induction width generalizing n with
  | zero => rfl
  | succ width ih => simp [fixedDigits, ih]

theorem toNat_digitChar {digit : Nat} (h : digit < 10) :
    (Nat.digitChar digit).toNat = 48 + digit := by
  have hall : forall digit, digit < 10 ->
      (Nat.digitChar digit).toNat = 48 + digit := by decide
  exact hall digit h

theorem toNat_fixedDigits {width n : Nat} {c : Char}
    (h : c ∈ fixedDigits width n) : 48 ≤ c.toNat ∧ c.toNat ≤ 57 := by
  induction width generalizing n with
  | zero => cases h
  | succ width ih =>
      rcases List.mem_append.mp h with hfirst | hlast
      · exact ih hfirst
      · have hdigit : n % 10 < 10 := Nat.mod_lt n (by lia)
        rw [List.mem_singleton.mp hlast, toNat_digitChar hdigit]
        lia

/-!
## Formatting
-/

theorem replicate_toDigits {width n : Nat} (h : n < 10 ^ (width + 1)) :
    List.replicate (width + 1 - (Nat.toDigits 10 n).length) '0' ++
      Nat.toDigits 10 n = fixedDigits (width + 1) n := by
  induction width generalizing n with
  | zero =>
      have hsmall : n < 10 := by simpa using h
      rw [Nat.toDigits_of_lt_base hsmall, fixedDigits, fixedDigits,
        Nat.mod_eq_of_lt hsmall]
      rfl
  | succ width ih =>
      rw [fixedDigits]
      rcases Nat.lt_or_ge n 10 with hsmall | hlarge
      · have hzero := ih (Nat.pow_pos (n := width + 1) (by lia : 0 < 10))
        rw [Nat.toDigits_zero] at hzero
        rw [Nat.toDigits_of_lt_base hsmall, Nat.mod_eq_of_lt hsmall,
          Nat.div_eq_of_lt hsmall, ← hzero]
        simp [← List.replicate_succ']
      · have hrest : n / 10 < 10 ^ (width + 1) := by
          rw [Nat.pow_succ] at h
          lia
        rw [Nat.toDigits_of_base_le (by lia) hlarge, ← ih hrest,
          List.length_append, List.length_singleton, List.append_assoc]
        congr 2
        lia

theorem zeroPadded_natCast {width n : Nat} (h : n < 10 ^ (width + 1)) :
    zeroPadded (width + 1) n = String.ofList (fixedDigits (width + 1) n) := by
  have hsign : ¬ (n : Int) < 0 := by lia
  rw [zeroPadded, if_neg hsign, ← replicate_toDigits h]
  rfl

/-!
## Reading
-/

section Reading

variable {points : List Nat}

theorem json_strip_digits (h : forall p, p ∈ points -> 48 ≤ p ∧ p ≤ 57) :
    Json.strip points = points := by
  apply dropEnds_none
  intro p hp
  have hbounds := h p hp
  simp only [Json.isTextSpace, decide_eq_false_iff_not]
  lia

theorem textNat_digits (hpoints : points ≠ [])
    (h : forall p, p ∈ points -> 48 ≤ p ∧ p ≤ 57) (n : Nat) :
    Json.textNat points n =
      some (points.foldl (fun n p => 10 * n + (p - 48)) n) := by
  have hdigit : forall p, 48 ≤ p ∧ p ≤ 57 -> Json.isTextDigit p = true :=
    fun p hp => decide_eq_true hp
  fun_induction Json.textNat points n with
  | case1 => exact absurd rfl hpoints
  | case2 digit n _ => rfl
  | case3 digit n hnot =>
      exact absurd (hdigit digit (h digit (by simp))) hnot
  | case4 digit rest n _ _ =>
      have hunderscore := h 95 (by simp)
      lia
  | case5 digit rest n hnot =>
      exact absurd (hdigit digit (h digit (by simp))) hnot
  | case6 digit rest n hnil _ _ ih =>
      rw [List.foldl_cons]
      apply ih
      · exact fun hrest => hnil hrest
      · exact fun p hp => h p (List.mem_cons_of_mem _ hp)
  | case7 digit rest n _ _ hnot =>
      exact absurd (hdigit digit (h digit (by simp))) hnot

theorem foldl_fixedDigits (width n start : Nat) :
    ((fixedDigits width n).map Char.toNat).foldl
        (fun n p => 10 * n + (p - 48)) start =
      start * 10 ^ width + n % 10 ^ width := by
  induction width generalizing n with
  | zero => simp [fixedDigits, Nat.mod_one]
  | succ width ih =>
      have hdigit : n % 10 < 10 := Nat.mod_lt n (by lia)
      rw [fixedDigits, List.map_append, List.foldl_append, ih, List.map_singleton,
        List.foldl_cons, List.foldl_nil, toNat_digitChar hdigit,
        Nat.pow_succ', Nat.mod_mul]
      lia

theorem textInt_fixedDigits {width n : Nat} (hpos : 0 < width)
    (hwidth : width ≤ Json.maxTextDigits) (hn : n < 10 ^ width) :
    Json.textInt ((fixedDigits width n).map Char.toNat) = some (n : Int) := by
  have hdigits : forall p, p ∈ (fixedDigits width n).map Char.toNat ->
      48 ≤ p ∧ p ≤ 57 := by
    intro p hp
    rcases List.mem_map.mp hp with ⟨c, hc, rfl⟩
    exact toNat_fixedDigits hc
  have hpoints : ((fixedDigits width n).map Char.toNat).map Json.asciiPoint =
      (fixedDigits width n).map Char.toNat := by
    conv_rhs => rw [← List.map_id ((fixedDigits width n).map Char.toNat)]
    apply List.map_congr_left
    intro p hp
    have hbounds := hdigits p hp
    rw [Json.asciiPoint, if_pos (by lia)]
    rfl
  have hcount : ¬ Json.maxTextDigits <
      ((fixedDigits width n).map Char.toNat).countP Json.isTextDigit := by
    have hle := @List.countP_le_length _ Json.isTextDigit
      ((fixedDigits width n).map Char.toNat)
    rw [List.length_map, fixedDigits_length] at hle
    lia
  have hne : (fixedDigits width n).map Char.toNat ≠ [] := by
    apply List.ne_nil_of_length_pos
    rw [List.length_map, fixedDigits_length]
    exact hpos
  rw [Json.textInt, hpoints, json_strip_digits hdigits, if_neg hcount]
  split
  · rename_i rest hsign
    have hminus := hdigits 43 (by rw [hsign]; exact List.mem_cons_self)
    lia
  · rename_i rest hsign
    have hminus := hdigits 45 (by rw [hsign]; exact List.mem_cons_self)
    lia
  · rw [textNat_digits hne hdigits, foldl_fixedDigits, Nat.zero_mul,
      Nat.zero_add, Nat.mod_eq_of_lt hn]
    rfl

end Reading
end Foundation
end IntelAmt
