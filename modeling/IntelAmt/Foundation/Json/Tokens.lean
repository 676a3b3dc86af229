import IntelAmt.Foundation.Json

/-!
# Strings, numbers and words in a text

Every scanner leaves less than it found.  A scanner that has found the end of
what it reads finds the same in every longer text; a number ends at a
character that cannot be part of one.
-/

namespace IntelAmt
namespace Foundation
namespace Json

/-!
## White space and digits
-/

theorem next_eq_some {text rest : List Char} {c : Char} :
    next text = some (c, rest) ↔ text.dropWhile isSpace = c :: rest := by
  unfold next
  cases text.dropWhile isSpace with
  | nil => simp
  | cons d tail => simp

theorem next_length {text rest : List Char} {c : Char}
    (h : next text = some (c, rest)) : rest.length < text.length := by
  have hle := (List.dropWhile_suffix (l := text) isSpace).length_le
  rw [next_eq_some.mp h, List.length_cons] at hle
  exact hle

theorem next_append {text rest : List Char} {c : Char}
    (h : next text = some (c, rest)) (more : List Char) :
    next (text ++ more) = some (c, rest ++ more) := by
  rw [next_eq_some] at h ⊢
  rw [List.dropWhile_append, h]
  rfl

/-- A character that cannot go on with a number. -/
def endsNumber (c : Char) : Bool :=
  !(c.isDigit || c = '.' || c = 'e' || c = 'E')

def Ended (text : List Char) : Prop :=
  exists c rest, text = c :: rest ∧ endsNumber c = true

theorem endsNumber_of_isSpace {c : Char} (h : isSpace c = true) :
    endsNumber c = true := by
  simp only [isSpace, Bool.or_eq_true, decide_eq_true_eq] at h
  rcases h with ((rfl | rfl) | rfl) | rfl <;> rfl

theorem ended_of_next {text rest : List Char} {c : Char}
    (h : next text = some (c, rest)) (hc : endsNumber c = true) :
    Ended text := by
  rw [next_eq_some] at h
  cases text with
  | nil => cases h
  | cons d tail =>
      refine ⟨d, tail, rfl, ?_⟩
      cases hspace : isSpace d with
      | true => exact endsNumber_of_isSpace hspace
      | false =>
          rw [List.dropWhile_cons_of_neg (by simp [hspace])] at h
          cases h
          exact hc

section Digits

variable {text more : List Char}

theorem takeWhile_append_of_dropWhile
    (h : text.dropWhile Char.isDigit ≠ []) :
    (text ++ more).takeWhile Char.isDigit = text.takeWhile Char.isDigit := by
  rw [List.takeWhile_append, if_neg]
  intro hlength
  apply h
  have happend := List.takeWhile_append_dropWhile (p := Char.isDigit)
    (l := text)
  have := congrArg List.length happend
  rw [List.length_append] at this
  exact List.length_eq_zero_iff.mp (by lia)

theorem dropWhile_append_of_dropWhile
    (h : text.dropWhile Char.isDigit ≠ []) :
    (text ++ more).dropWhile Char.isDigit =
      text.dropWhile Char.isDigit ++ more := by
  rw [List.dropWhile_append, if_neg]
  intro hempty
  exact h (List.isEmpty_iff.mp hempty)

end Digits

/-!
## Strings
-/

/-- A text that begins with the rest of a string, and what is behind it. -/
inductive Points : List Char -> List Nat -> List Char -> Prop where
  | close {rest : List Char} : Points ('"' :: rest) [] rest
  | unit {a b c d : Char} {n : Nat} {tail rest : List Char}
      {points : List Nat} (hn : hex4 a b c d = some n)
      (h : Points tail points rest) :
      Points ('\\' :: 'u' :: a :: b :: c :: d :: tail) (n :: points) rest
  | letter {l : Char} {n : Nat} {tail rest : List Char} {points : List Nat}
      (hn : unescape l = some n) (h : Points tail points rest) :
      Points ('\\' :: l :: tail) (n :: points) rest
  | plain {c : Char} {tail rest : List Char} {points : List Nat}
      (hquote : c ≠ '"') (hescape : c ≠ '\\') (hcontrol : 32 ≤ c.toNat)
      (h : Points tail points rest) :
      Points (c :: tail) (c.toNat :: points) rest

theorem Points.of_scanPoints {text rest : List Char} {points : List Nat}
    (h : scanPoints text = some (points, rest)) : Points text points rest := by
  fun_induction scanPoints text generalizing points with
  | case1 | case5 | case6 => cases h
  | case2 =>
      cases h
      exact Points.close
  | case3 a b c d tail _ ih =>
      rcases Option.bind_eq_some_iff.mp h with ⟨n, hn, htail⟩
      rcases Option.bind_eq_some_iff.mp htail with ⟨⟨found, behind⟩, hf, heq⟩
      cases heq
      exact Points.unit hn (ih hf)
  | case4 letter tail _ _ ih =>
      rcases Option.bind_eq_some_iff.mp h with ⟨n, hn, htail⟩
      rcases Option.bind_eq_some_iff.mp htail with ⟨⟨found, behind⟩, hf, heq⟩
      cases heq
      exact Points.letter hn (ih hf)
  | case7 c tail hquote hescape hcontrol ih =>
      rcases Option.bind_eq_some_iff.mp h with ⟨⟨found, behind⟩, hf, heq⟩
      cases heq
      exact Points.plain hquote hescape (Nat.le_of_not_lt hcontrol) (ih hf)

theorem Points.scanPoints {text rest : List Char} {points : List Nat}
    (h : Points text points rest) : scanPoints text = some (points, rest) := by
  induction h with
  | close =>
      unfold Json.scanPoints
      rw [if_pos rfl]
  | unit hn _ ih => simp [Json.scanPoints, hn, ih]
  | @letter l n tail rest points hn _ ih =>
      have hletter : l ≠ 'u' := by
        rintro rfl
        cases hn
      simp [Json.scanPoints, hn, ih, hletter]
  | plain hquote hescape hcontrol _ ih =>
      unfold Json.scanPoints
      rw [if_neg hquote, if_neg hescape, if_neg (Nat.not_lt.mpr hcontrol)]
      simp [ih]

theorem Points.length {text rest : List Char} {points : List Nat}
    (h : Points text points rest) : rest.length < text.length := by
  induction h with
  | close => simp
  | unit _ _ ih | letter _ _ ih | plain _ _ _ _ ih =>
      simp only [List.length_cons]
      lia

theorem Points.append {text rest : List Char} {points : List Nat}
    (h : Points text points rest) (more : List Char) :
    Points (text ++ more) points (rest ++ more) := by
  induction h with
  | close => exact Points.close
  | unit hn _ ih => exact Points.unit hn ih
  | letter hn _ ih => exact Points.letter hn ih
  | plain hquote hescape hcontrol _ ih =>
      exact Points.plain hquote hescape hcontrol ih

theorem scanString_eq_some {text rest : List Char} {points : List Nat} :
    scanString text = some (points, rest) ↔
      exists raw, Points text raw rest ∧ joinSurrogates raw = points := by
  unfold scanString
  constructor
  · intro h
    rcases Option.map_eq_some_iff.mp h with ⟨⟨raw, behind⟩, hraw, heq⟩
    cases heq
    exact ⟨raw, Points.of_scanPoints hraw, rfl⟩
  · rintro ⟨raw, hraw, rfl⟩
    rw [hraw.scanPoints]
    rfl

theorem scanString_length {text rest : List Char} {points : List Nat}
    (h : scanString text = some (points, rest)) :
    rest.length < text.length := by
  rcases scanString_eq_some.mp h with ⟨raw, hraw, _⟩
  exact hraw.length

theorem scanString_append {text rest : List Char} {points : List Nat}
    (h : scanString text = some (points, rest)) (more : List Char) :
    scanString (text ++ more) = some (points, rest ++ more) := by
  rcases scanString_eq_some.mp h with ⟨raw, hraw, hjoin⟩
  exact scanString_eq_some.mpr ⟨raw, hraw.append more, hjoin⟩

/-!
## Numbers
-/

theorem scanSign_length (signs text : List Char) :
    (scanSign signs text).2.length ≤ text.length := by
  cases text with
  | nil => exact Nat.le_refl _
  | cons c rest =>
      simp only [scanSign]
      split
      · exact Nat.le_succ _
      · exact Nat.le_refl _

theorem scanSign_append (signs : List Char) {text : List Char}
    (h : text ≠ []) (more : List Char) :
    scanSign signs (text ++ more) =
      ((scanSign signs text).1, (scanSign signs text).2 ++ more) := by
  cases text with
  | nil => exact absurd rfl h
  | cons c rest =>
      rw [List.cons_append, scanSign, scanSign]
      split <;> rfl

theorem scanInteger_length {text digits rest : List Char}
    (h : scanInteger text = some (digits, rest)) :
    rest.length < text.length := by
  cases text with
  | nil => cases h
  | cons c tail =>
      simp only [scanInteger] at h
      split at h
      · cases h
        exact Nat.lt_succ_self _
      · split at h
        · cases h
          exact Nat.lt_succ_of_le (List.dropWhile_suffix _).length_le
        · cases h

theorem scanInteger_append {text digits rest : List Char}
    (h : scanInteger text = some (digits, rest)) (hrest : rest ≠ [])
    (more : List Char) :
    scanInteger (text ++ more) = some (digits, rest ++ more) := by
  cases text with
  | nil => cases h
  | cons c tail =>
      rw [List.cons_append]
      simp only [scanInteger] at h ⊢
      split at h
      · rename_i hzero
        rw [if_pos hzero]
        cases h
        rfl
      · rename_i hzero
        rw [if_neg hzero]
        split at h
        · rename_i hdigit
          cases h
          rw [if_pos hdigit, takeWhile_append_of_dropWhile hrest,
            dropWhile_append_of_dropWhile hrest]
        · cases h

theorem scanFraction_length (text : List Char) :
    (scanFraction text).2.length ≤ text.length := by
  cases text with
  | nil => exact Nat.le_refl _
  | cons c rest =>
      simp only [scanFraction]
      split
      · exact Nat.le_succ_of_le (List.dropWhile_suffix _).length_le
      · exact Nat.le_refl _

theorem scanFraction_append {text rest : List Char} {c : Char}
    (h : (scanFraction text).2 = c :: rest) (hc : c ≠ '.')
    (more : List Char) :
    scanFraction (text ++ more) =
      ((scanFraction text).1, (scanFraction text).2 ++ more) := by
  cases text with
  | nil => cases h
  | cons d tail =>
      rw [List.cons_append]
      simp only [scanFraction] at h ⊢
      split at h
      · rename_i hpoint
        have hrest : tail.dropWhile Char.isDigit ≠ [] := by
          intro hnil
          cases hnil.symm.trans h
        rw [takeWhile_append_of_dropWhile hrest,
          dropWhile_append_of_dropWhile hrest, if_pos hpoint, if_pos hpoint]
      · rename_i hpoint
        cases h
        rw [if_neg fun hboth => hc hboth.1, if_neg hpoint]
        rfl

theorem scanExponent_length (text : List Char) :
    (scanExponent text).2.length ≤ text.length := by
  cases text with
  | nil => exact Nat.le_refl _
  | cons c rest =>
      simp only [scanExponent]
      split
      · calc
          _ ≤ (scanSign ['+', '-'] rest).2.length :=
            (List.dropWhile_suffix _).length_le
          _ ≤ rest.length := scanSign_length _ _
          _ ≤ (c :: rest).length := Nat.le_succ _
      · exact Nat.le_refl _

theorem scanExponent_append {text : List Char}
    (h : Ended (scanExponent text).2) (more : List Char) :
    scanExponent (text ++ more) =
      ((scanExponent text).1, (scanExponent text).2 ++ more) := by
  rcases h with ⟨d, rest, hrest, hends⟩
  cases text with
  | nil => cases hrest
  | cons c tail =>
      rw [List.cons_append]
      simp only [scanExponent] at hrest ⊢
      split at hrest
      · rename_i hexponent
        have htail : tail ≠ [] := by
          rintro rfl
          exact hexponent.2 rfl
        have hdigits : (scanSign ['+', '-'] tail).2.dropWhile Char.isDigit ≠
            [] := by
          intro hnil
          cases hnil.symm.trans hrest
        simp only [scanSign_append _ htail,
          takeWhile_append_of_dropWhile hdigits,
          dropWhile_append_of_dropWhile hdigits]
        rw [if_pos hexponent, if_pos hexponent]
      · rename_i hexponent
        cases hrest
        have hletter : ¬ (d = 'e' ∨ d = 'E') := by
          rintro (rfl | rfl) <;> cases hends
        simp only [hletter, false_and, if_false]
        rfl

theorem scanExponent_head {text : List Char}
    (h : Ended (scanExponent text).2) :
    exists c rest, text = c :: rest ∧ c ≠ '.' := by
  rcases h with ⟨d, rest, hrest, hends⟩
  cases text with
  | nil => cases hrest
  | cons c tail =>
      refine ⟨c, tail, rfl, ?_⟩
      rintro rfl
      simp only [scanExponent] at hrest
      rw [if_neg (by rintro ⟨hletter | hletter, _⟩ <;> cases hletter)] at hrest
      cases hrest
      cases hends

theorem scanNumber_eq_some {text rest : List Char} {value : Json} :
    scanNumber text = some (value, rest) ↔
      exists digits tail,
        scanInteger (scanSign ['-'] text).2 = some (digits, tail) ∧
        numberOf (scanSign ['-'] text).1 digits (scanFraction tail).1
            (scanExponent (scanFraction tail).2).1 = some value ∧
        rest = (scanExponent (scanFraction tail).2).2 := by
  unfold scanNumber
  constructor
  · intro h
    rcases Option.bind_eq_some_iff.mp h with ⟨⟨digits, tail⟩, hdigits, h⟩
    rcases Option.bind_eq_some_iff.mp h with ⟨found, hvalue, heq⟩
    cases heq
    exact ⟨digits, tail, hdigits, hvalue, rfl⟩
  · rintro ⟨digits, tail, hdigits, hvalue, rfl⟩
    simp [hdigits, hvalue]

theorem scanNumber_length {text rest : List Char} {value : Json}
    (h : scanNumber text = some (value, rest)) :
    rest.length < text.length := by
  rcases scanNumber_eq_some.mp h with ⟨digits, tail, hdigits, _, hrest⟩
  rw [hrest]
  calc
    _ ≤ (scanFraction tail).2.length := scanExponent_length _
    _ ≤ tail.length := scanFraction_length _
    _ < (scanSign ['-'] text).2.length := scanInteger_length hdigits
    _ ≤ text.length := scanSign_length _ _

theorem scanNumber_append {text rest : List Char} {value : Json}
    (h : scanNumber text = some (value, rest)) (hended : Ended rest)
    (more : List Char) :
    scanNumber (text ++ more) = some (value, rest ++ more) := by
  rcases scanNumber_eq_some.mp h with ⟨digits, tail, hdigits, hvalue, hrest⟩
  rw [hrest] at hended
  have hexponent := scanExponent_append hended more
  rcases scanExponent_head hended with ⟨c, behind, hhead, hc⟩
  have hfraction := scanFraction_append hhead hc more
  have htail : tail ≠ [] := by
    rintro rfl
    cases hhead
  have hinteger := scanInteger_append hdigits htail more
  have htext : text ≠ [] := by
    rintro rfl
    cases hdigits
  have hsign := scanSign_append ['-'] htext more
  refine scanNumber_eq_some.mpr ⟨digits, tail ++ more, ?_, ?_, ?_⟩
  · rw [hsign]
    exact hinteger
  · rw [hsign, hfraction, hexponent]
    exact hvalue
  · rw [hfraction, hexponent, hrest]

/-!
## Scalars
-/

theorem scanWord_eq_some {word text rest : List Char} {value found : Json} :
    scanWord word value text = some (found, rest) ↔
      text = word ++ rest ∧ found = value := by
  unfold scanWord
  constructor
  · intro h
    split at h
    · rename_i hprefix
      rcases hprefix with ⟨tail, rfl⟩
      rw [List.drop_left] at h
      cases h
      exact ⟨rfl, rfl⟩
    · cases h
  · rintro ⟨rfl, rfl⟩
    rw [if_pos (List.prefix_append _ _), List.drop_left]

def isObject : Json -> Bool
  | obj _ => true
  | _ => false

theorem scanNumber_isObject {text rest : List Char} {value : Json}
    (h : scanNumber text = some (value, rest)) : isObject value = false := by
  rcases scanNumber_eq_some.mp h with ⟨digits, tail, _, hvalue, _⟩
  unfold numberOf at hvalue
  split at hvalue
  · split at hvalue
    · cases hvalue
    · cases hvalue
      rfl
  · cases hvalue
    rfl

theorem scanWord_scalar {c : Char} {word text rest : List Char}
    {value found : Json} (hvalue : isObject value = false)
    (hscan : forall behind,
      scanScalar c (word ++ behind) = some (value, behind))
    (h : scanWord word value text = some (found, rest)) :
    exists word, text = word ++ rest ∧ isObject found = false ∧
      forall behind, scanScalar c (word ++ behind) = some (found, behind) := by
  rcases scanWord_eq_some.mp h with ⟨htext, rfl⟩
  exact ⟨word, htext, hvalue, hscan⟩

theorem scanScalar_cases {c : Char} {text rest : List Char} {value : Json}
    (h : scanScalar c text = some (value, rest)) :
    scanNumber (c :: text) = some (value, rest) ∨
      exists word, text = word ++ rest ∧ isObject value = false ∧
        forall behind, scanScalar c (word ++ behind) = some (value, behind) := by
  unfold scanScalar at h
  split at h
  · rename_i hc
    subst hc
    exact Or.inr (scanWord_scalar rfl (fun _ => rfl) h)
  split at h
  · rename_i hc
    subst hc
    exact Or.inr (scanWord_scalar rfl (fun _ => rfl) h)
  split at h
  · rename_i hc
    subst hc
    exact Or.inr (scanWord_scalar rfl (fun _ => rfl) h)
  split at h
  · rename_i hnumber
    cases h
    exact Or.inl hnumber
  -- none of the remaining words begins a number
  split at h
  · rename_i hc
    subst hc
    exact Or.inr (scanWord_scalar rfl (fun _ => rfl) h)
  split at h
  · rename_i hc
    subst hc
    exact Or.inr (scanWord_scalar rfl (fun _ => rfl) h)
  split at h
  · rename_i hc
    subst hc
    exact Or.inr (scanWord_scalar rfl (fun _ => rfl) h)
  · cases h

theorem scanScalar_isObject {c : Char} {text rest : List Char} {value : Json}
    (h : scanScalar c text = some (value, rest)) : isObject value = false := by
  rcases scanScalar_cases h with hnumber | ⟨word, _, hvalue, _⟩
  · exact scanNumber_isObject hnumber
  · exact hvalue

theorem scanScalar_length {c : Char} {text rest : List Char} {value : Json}
    (h : scanScalar c text = some (value, rest)) :
    rest.length ≤ text.length := by
  rcases scanScalar_cases h with hnumber | ⟨word, htext, _, _⟩
  · exact Nat.le_of_lt_succ (scanNumber_length hnumber)
  · rw [htext, List.length_append]
    exact Nat.le_add_left _ _

theorem scanScalar_of_scanNumber {c : Char} {text : List Char}
    {found : Json × List Char} (h : scanNumber (c :: text) = some found)
    (hn : c ≠ 'n') (ht : c ≠ 't') (hf : c ≠ 'f') :
    scanScalar c text = some found := by
  unfold scanScalar
  rw [if_neg hn, if_neg ht, if_neg hf, h]

theorem scanNumber_head {c : Char} {text : List Char}
    {found : Json × List Char} (h : scanNumber (c :: text) = some found) :
    c ≠ 'n' ∧ c ≠ 't' ∧ c ≠ 'f' := by
  refine ⟨?_, ?_, ?_⟩ <;> rintro rfl <;> cases h

theorem scanScalar_append {c : Char} {text rest : List Char} {value : Json}
    (h : scanScalar c text = some (value, rest)) (hended : Ended rest)
    (more : List Char) :
    scanScalar c (text ++ more) = some (value, rest ++ more) := by
  rcases scanScalar_cases h with hnumber | ⟨word, htext, _, hword⟩
  · rcases scanNumber_head hnumber with ⟨hn, ht, hf⟩
    exact scanScalar_of_scanNumber (scanNumber_append hnumber hended more)
      hn ht hf
  · rw [htext, List.append_assoc]
    exact hword _

end Json
end Foundation
end IntelAmt
