import IntelAmt.Foundation.Json.Numbers
import Mathlib.Tactic.FieldSimp
import Mathlib.Tactic.Linarith
import Mathlib.Tactic.Positivity

/-!
# Integers as doubles

Rounding to a multiple of a unit stays between multiples of the unit; from this
follows which natural numbers a double takes, and which it takes unchanged.
-/

namespace IntelAmt
namespace Foundation
namespace Json

/-!
## Rounding between multiples
-/

section Rounding

variable {unit x : Rat} {k : Int}

/-- Rounding goes down, or up to the next multiple. -/
theorem roundHalfEven_cases (unit x : Rat) :
    roundHalfEven unit x = (x / unit).floor * unit ∧
        x / unit ≤ (x / unit).floor + 1 / 2 ∧
        (x / unit = (x / unit).floor + 1 / 2 -> (x / unit).floor % 2 = 0) ∨
      roundHalfEven unit x = ((x / unit).floor + 1) * unit ∧
        (x / unit).floor + 1 / 2 ≤ x / unit := by
  unfold roundHalfEven
  dsimp only
  split
  next hless => exact Or.inl ⟨rfl, by linarith, fun heq => by linarith⟩
  next hless =>
    split
    next hmore => exact Or.inr ⟨rfl, by linarith⟩
    next hmore =>
      split
      next heven => exact Or.inl ⟨rfl, by linarith, fun _ => heven⟩
      next hodd => exact Or.inr ⟨rfl, by linarith⟩

theorem roundHalfEven_le (hunit : 0 < unit) (h : x / unit < k + 1 / 2) :
    roundHalfEven unit x ≤ k * unit := by
  have hlow : ((x / unit).floor : Rat) ≤ x / unit := Int.floor_le _
  rcases roundHalfEven_cases unit x with ⟨hround, _⟩ | ⟨hround, hhalf⟩
  · have hfloor : (x / unit).floor ≤ k := by
      have hlt : ((x / unit).floor : Rat) < (k + 1 : Int) := by
        push_cast
        linarith
      exact Int.lt_add_one_iff.mp (Int.cast_lt.mp hlt)
    rw [hround]
    have hcast : ((x / unit).floor : Rat) ≤ k := Int.cast_le.mpr hfloor
    exact mul_le_mul_of_nonneg_right hcast hunit.le
  · have hfloor : (x / unit).floor + 1 ≤ k := by
      have hlt : ((x / unit).floor : Rat) < k := by linarith
      exact Int.cast_lt.mp hlt
    rw [hround]
    have hcast : (((x / unit).floor + 1 : Int) : Rat) ≤ k :=
      Int.cast_le.mpr hfloor
    push_cast at hcast
    exact mul_le_mul_of_nonneg_right hcast hunit.le

theorem le_roundHalfEven (hunit : 0 < unit) (heven : k % 2 = 0)
    (h : k - 1 / 2 ≤ x / unit) : k * unit ≤ roundHalfEven unit x := by
  have hhigh : x / unit < (x / unit).floor + 1 := Int.lt_floor_add_one _
  have hfloor : k ≤ (x / unit).floor + 1 := by
    have hlt : (k : Rat) < ((x / unit).floor + 2 : Int) := by
      push_cast
      linarith
    have hbelow := Int.cast_lt.mp hlt
    lia
  rcases roundHalfEven_cases unit x with ⟨hround, hhalf, htie⟩ | ⟨hround, _⟩
  · have hreached : k ≤ (x / unit).floor := by
      by_contra hnot
      -- then x is the half between an odd multiple and the even one
      have hk : k = (x / unit).floor + 1 := by lia
      have hcast : (k : Rat) = (x / unit).floor + 1 := by exact_mod_cast hk
      have hodd := htie (by linarith)
      lia
    rw [hround]
    have hcast : (k : Rat) ≤ (x / unit).floor := Int.cast_le.mpr hreached
    exact mul_le_mul_of_nonneg_right hcast hunit.le
  · rw [hround]
    have hcast : (k : Rat) ≤ ((x / unit).floor + 1 : Int) :=
      Int.cast_le.mpr hfloor
    push_cast at hcast
    exact mul_le_mul_of_nonneg_right hcast hunit.le

theorem roundHalfEven_multiple (hunit : 0 < unit) (k : Int) :
    roundHalfEven unit (k * unit) = k * unit := by
  have hscaled : k * unit / unit = k := mul_div_cancel_right₀ _ hunit.ne'
  rw [roundHalfEven, hscaled]
  have hfloor : ((k : Rat)).floor = k := Rat.floor_intCast k
  rw [hfloor, if_pos (by norm_num)]

end Rounding

/-!
## Natural numbers
-/

section Natural

variable {m : Nat}

theorem doubleUnit_natCast (hm : m ≠ 0) :
    doubleUnit m = (2 : Rat) ^ ((Nat.log2 m : Int) - 52) := by
  have hlog : Nat.log2 1 = 0 := by decide
  have hbelow : (2 : Rat) ^ ((Nat.log2 m : Int) - (0 : Nat)) ≤ m := by
    rw [Int.natCast_zero, sub_zero, zpow_natCast]
    exact_mod_cast Nat.log2_self_le hm
  unfold doubleUnit
  dsimp only
  rw [Rat.num_natCast, Rat.den_natCast, Int.natAbs_natCast, hlog,
    if_pos hbelow, max_eq_left (by lia)]
  congr 1

theorem doubleUnit_pos (hm : m ≠ 0) : 0 < doubleUnit m := by
  rw [doubleUnit_natCast hm]
  exact zpow_pos two_pos _

theorem doubleUnit_scaled (hm : m ≠ 0) :
    (2 : Rat) ^ 52 * doubleUnit m = 2 ^ Nat.log2 m := by
  rw [doubleUnit_natCast hm, ← zpow_natCast, ← zpow_natCast,
    ← zpow_add₀ two_ne_zero]
  congr 1
  lia

/-- A number lies between 2^52 and 2^53 of its units. -/
theorem scaled_bounds (hm : m ≠ 0) :
    (2 : Rat) ^ 52 ≤ m / doubleUnit m ∧
      m / doubleUnit m < (2 : Rat) ^ 53 := by
  have hunit := doubleUnit_pos hm
  have hscaled := doubleUnit_scaled hm
  have hlow : (2 : Rat) ^ Nat.log2 m ≤ m := by
    exact_mod_cast Nat.log2_self_le hm
  have hhigh : (m : Rat) < 2 ^ (Nat.log2 m + 1) := by
    exact_mod_cast Nat.lt_log2_self
  constructor
  · rw [le_div_iff₀ hunit, hscaled]
    exact hlow
  · rw [div_lt_iff₀ hunit, pow_succ, mul_right_comm, hscaled, ← pow_succ]
    exact hhigh

theorem roundDouble_eq_some {magnitude : Rat}
    (h : roundHalfEven (doubleUnit magnitude) magnitude < 2 ^ 1024) :
    roundDouble magnitude =
      some (roundHalfEven (doubleUnit magnitude) magnitude) := if_pos h

theorem roundDouble_natCast (h : m < 2 ^ 53) :
    roundDouble m = some (m : Rat) := by
  by_cases hm : m = 0
  · subst hm
    decide +kernel
  have hround : roundHalfEven (doubleUnit m) m = m := by
    have hlog := (Nat.log2_lt hm).mpr h
    have hmultiple : (m : Rat) =
        ((m * 2 ^ (52 - Nat.log2 m) : Nat) : Int) * doubleUnit m := by
      have hpow : (2 : Rat) ^ 52 = 2 ^ (52 - Nat.log2 m) * 2 ^ Nat.log2 m := by
        rw [← pow_add]
        congr 1
        lia
      have hone : (2 : Rat) ^ (52 - Nat.log2 m) * doubleUnit m = 1 := by
        have hscaled := doubleUnit_scaled hm
        rw [hpow, mul_right_comm] at hscaled
        exact mul_right_cancel₀ (by positivity)
          (hscaled.trans (one_mul _).symm)
      push_cast
      rw [mul_assoc, hone, mul_one]
    have hback := roundHalfEven_multiple (doubleUnit_pos hm)
      ((m * 2 ^ (52 - Nat.log2 m) : Nat) : Int)
    rw [← hmultiple] at hback
    exact hback
  have hsmall : (m : Rat) < 2 ^ 1024 := by
    have hcast : (m : Rat) < 2 ^ 53 := by exact_mod_cast h
    exact hcast.trans_le (pow_le_pow_right₀ one_le_two (by decide))
  rw [roundDouble_eq_some (by rw [hround]; exact hsmall), hround]

theorem roundDouble_isSome {magnitude : Rat} :
    (roundDouble magnitude).isSome = true ↔
      roundHalfEven (doubleUnit magnitude) magnitude < 2 ^ 1024 := by
  unfold roundDouble
  dsimp only
  split
  next h => exact iff_of_true rfl h
  next h => exact iff_of_false Bool.false_ne_true h

theorem lt_limit_iff :
    m < 2 ^ 1024 - 2 ^ 970 ↔ (m : Rat) + 2 ^ 970 < 2 ^ 1024 := by
  rw [Nat.lt_sub_iff_add_lt, ← Nat.cast_lt (α := Rat), Nat.cast_add,
    Nat.cast_pow, Nat.cast_pow, Nat.cast_two]

/-- The units of the last doubles. -/
theorem lastUnit (hm : m ≠ 0) (hlog : Nat.log2 m = 1023) :
    (2 : Rat) ^ 1024 = 2 ^ 53 * doubleUnit m ∧
      (2 : Rat) ^ 970 = doubleUnit m / 2 := by
  have hunit : doubleUnit m = (2 : Rat) ^ 971 := by
    rw [doubleUnit_natCast hm, hlog, ← zpow_natCast]
    rfl
  rw [hunit]
  constructor
  · exact pow_add 2 53 971
  · rw [eq_div_iff two_ne_zero]
    exact (pow_succ 2 970).symm

theorem roundHalfEven_below (hm : m ≠ 0) (hlog : Nat.log2 m < 1023) :
    roundHalfEven (doubleUnit m) m < 2 ^ 1024 ∧
      (m : Rat) + 2 ^ 970 < 2 ^ 1024 := by
  have hpower : (2 : Rat) ^ (Nat.log2 m + 1) ≤ 2 ^ 1023 :=
    pow_le_pow_right₀ one_le_two hlog
  have hm' : (m : Rat) < 2 ^ (Nat.log2 m + 1) := by
    exact_mod_cast Nat.lt_log2_self
  have hdown : roundHalfEven (doubleUnit m) m ≤
      ((2 ^ 53 : Int) : Rat) * doubleUnit m := by
    apply roundHalfEven_le (doubleUnit_pos hm)
    push_cast
    linarith [(scaled_bounds hm).2]
  have hscaled : ((2 ^ 53 : Int) : Rat) * doubleUnit m =
      2 ^ (Nat.log2 m + 1) := by
    rw [pow_succ 2 (Nat.log2 m), ← doubleUnit_scaled hm]
    push_cast
    ring
  rw [hscaled] at hdown
  constructor
  · apply (hdown.trans hpower).trans_lt
    exact pow_lt_pow_right₀ one_lt_two (Nat.lt_succ_self _)
  · rw [pow_succ 2 1023, mul_two]
    exact add_lt_add_of_lt_of_le (hm'.trans_le hpower)
      (pow_le_pow_right₀ one_le_two (by decide))

theorem roundHalfEven_last (hm : m ≠ 0) (hlog : Nat.log2 m = 1023) :
    roundHalfEven (doubleUnit m) m < 2 ^ 1024 ↔
      (m : Rat) + 2 ^ 970 < 2 ^ 1024 := by
  have hunit := doubleUnit_pos hm
  rcases lastUnit hm hlog with ⟨hlimit, hhalf⟩
  rw [hlimit, hhalf]
  constructor
  · intro hround
    by_contra hlarge
    have hnear : (((2 ^ 53 : Int) : Rat)) - 1 / 2 ≤ m / doubleUnit m := by
      rw [le_div_iff₀ hunit]
      push_cast
      linarith
    have hup := le_roundHalfEven hunit (by decide) hnear
    push_cast at hup
    linarith
  · intro hsmall
    have hnear : (m : Rat) / doubleUnit m <
        ((2 ^ 53 - 1 : Int) : Rat) + 1 / 2 := by
      rw [div_lt_iff₀ hunit]
      push_cast
      linarith
    have hdown := roundHalfEven_le hunit hnear
    apply hdown.trans_lt
    exact mul_lt_mul_of_pos_right (by norm_num) hunit

theorem roundHalfEven_beyond (hm : m ≠ 0) (hlog : 1023 < Nat.log2 m) :
    (2 : Rat) ^ 1024 ≤ roundHalfEven (doubleUnit m) m ∧
      (2 : Rat) ^ 1024 ≤ m + 2 ^ 970 := by
  have hpower : (2 : Rat) ^ 1024 ≤ 2 ^ Nat.log2 m :=
    pow_le_pow_right₀ one_le_two hlog
  have hm' : (2 : Rat) ^ Nat.log2 m ≤ m := by
    exact_mod_cast Nat.log2_self_le hm
  have hup : ((2 ^ 52 : Int) : Rat) * doubleUnit m ≤
      roundHalfEven (doubleUnit m) m := by
    apply le_roundHalfEven (doubleUnit_pos hm) (by decide)
    push_cast
    linarith [(scaled_bounds hm).1]
  have hscaled : ((2 ^ 52 : Int) : Rat) * doubleUnit m =
      2 ^ Nat.log2 m := by
    rw [← doubleUnit_scaled hm]
    push_cast
    rfl
  rw [hscaled] at hup
  have hpos : (0 : Rat) ≤ 2 ^ 970 := by positivity
  exact ⟨hpower.trans hup,
    hpower.trans (hm'.trans (le_add_of_nonneg_right hpos))⟩

/-- Nothing is taken from the middle between the last double and the power
behind it on. -/
theorem roundDouble_natCast_isSome :
    (roundDouble m).isSome = true ↔ m < 2 ^ 1024 - 2 ^ 970 := by
  by_cases hm : m = 0
  · subst hm
    refine iff_of_true (by decide +kernel) (lt_limit_iff.mpr ?_)
    rw [Nat.cast_zero, zero_add]
    exact pow_lt_pow_right₀ one_lt_two (by decide)
  rw [roundDouble_isSome, lt_limit_iff]
  rcases Nat.lt_trichotomy (Nat.log2 m) 1023 with hlog | hlog | hlog
  · have hboth := roundHalfEven_below hm hlog
    exact iff_of_true hboth.1 hboth.2
  · exact roundHalfEven_last hm hlog
  · have hboth := roundHalfEven_beyond hm hlog
    exact iff_of_false (not_lt.mpr hboth.1) (not_lt.mpr hboth.2)

end Natural

end Json
end Foundation
end IntelAmt
