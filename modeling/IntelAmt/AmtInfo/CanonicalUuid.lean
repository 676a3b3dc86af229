import IntelAmt.AmtInfo.Facts
import IntelAmt.Foundation.HexPairs

/-!
# The platform UUID

What becomes of a platform GUID: when it is kept, when only its case changes,
and when it is rendered from its bytes.
-/

namespace IntelAmt
namespace AmtInfo

open Foundation

def withoutDashes (text : List Char) : List Char :=
  text.filter fun c => c ≠ '-'

def upperCase (text : List Char) : List Char := text.map Char.toUpper

/-- The digits of a UUID, with dashes or without them. -/
def IsUuidText (value : String) : Prop :=
  (withoutDashes value.toList).length = 32 ∧
    forall c, c ∈ withoutDashes value.toList -> isHexCharacter c = true

/-- The bytes of the first three fields in the other order. -/
def fieldsSwapped (text : List Char) : List Char :=
  swapPairs (text.take 8) ++
    (swapPairs ((text.drop 8).take 4) ++
      (swapPairs ((text.drop 12).take 4) ++ text.drop 16))

/-- The five fields with dashes between them. -/
def dashed (text : List Char) : List Char :=
  text.take 8 ++ '-' ::
    ((text.drop 8).take 4 ++ '-' ::
      ((text.drop 12).take 4 ++ '-' ::
        ((text.drop 16).take 4 ++ '-' :: text.drop 20)))

structure CanonicalLaw (value : String) : Prop where
  kept : ¬ IsUuidText value -> canonicalUuid value = value
  recased : IsUuidText value -> '-' ∈ value.toList ->
    (canonicalUuid value).toList = upperCase value.toList
  rendered : IsUuidText value -> '-' ∉ value.toList ->
    (canonicalUuid value).toList =
      dashed (fieldsSwapped (upperCase value.toList))
  recovered : IsUuidText value -> '-' ∉ value.toList ->
    fieldsSwapped (withoutDashes (canonicalUuid value).toList) =
      upperCase value.toList
  injective : forall other, IsUuidText value -> '-' ∉ value.toList ->
    IsUuidText other -> '-' ∉ other.toList ->
      canonicalUuid other = canonicalUuid value ->
        upperCase other.toList = upperCase value.toList
  again : canonicalUuid (canonicalUuid value) = canonicalUuid value

/-- Pairs of digits with blanks among them, as long as the digits of a UUID,
and not left alone for its dashes. -/
def BlankPairs (value : String) : Prop :=
  (withoutDashes value.toList).length = 32 ∧
    SpacedPairs (withoutDashes value.toList) ∧
    (exists c, c ∈ withoutDashes value.toList ∧ isAsciiSpace c = true) ∧
    ('-' ∈ value.toList -> upperCase value.toList ≠ value.toList)

/-!
## Cases
-/

/-- What the bytes are rendered as, before the case is changed. -/
def fieldDigits (raw : Bytes) : List Char :=
  hexPairs (slice raw 0 4).reverse ++ '-' ::
    (hexPairs (slice raw 4 2).reverse ++ '-' ::
      (hexPairs (slice raw 6 2).reverse ++ '-' ::
        (hexPairs (slice raw 8 2) ++ '-' :: hexPairs (slice raw 10 6))))

section Cases

variable {value : String} {raw : Bytes}

theorem canonicalUuid_short (h : (withoutDashes value.toList).length ≠ 32) :
    canonicalUuid value = value := by
  rw [withoutDashes] at h
  rw [canonicalUuid, if_pos h]

theorem canonicalUuid_unread (h : fromHex (withoutDashes value.toList) = none) :
    canonicalUuid value = value := by
  rw [withoutDashes] at h
  rw [canonicalUuid]
  split
  · rfl
  · rw [h]

theorem canonicalUuid_dashed (hlength : (withoutDashes value.toList).length = 32)
    (hread : fromHex (withoutDashes value.toList) = some raw)
    (hdash : '-' ∈ value.toList) :
    (canonicalUuid value).toList = upperCase value.toList := by
  rw [withoutDashes] at hlength hread
  rw [canonicalUuid, if_neg (not_not_intro hlength), hread]
  simp only [if_pos hdash, String.toList_ofList, upperCase]

theorem canonicalUuid_bare (hlength : (withoutDashes value.toList).length = 32)
    (hread : fromHex (withoutDashes value.toList) = some raw)
    (hbare : '-' ∉ value.toList) :
    (canonicalUuid value).toList = upperCase (fieldDigits raw) := by
  have hdash : ("-" : String).toList = ['-'] := rfl
  rw [withoutDashes] at hlength hread
  rw [canonicalUuid, if_neg (not_not_intro hlength), hread]
  simp only [if_neg hbare, String.toList_ofList, upperCase, fieldDigits,
    String.toList_append, toList_hexOf, hdash, List.append_assoc,
    List.cons_append, List.nil_append]

theorem toUpper_toUpper (c : Char) : c.toUpper.toUpper = c.toUpper := by
  rcases Nat.lt_or_ge c.toNat 128 with hascii | hwide
  · have hall : forall k, k < 128 ->
        (Char.ofNat k).toUpper.toUpper = (Char.ofNat k).toUpper := by
      decide +kernel
    have hc := hall c.toNat hascii
    rwa [Char.ofNat_toNat] at hc
  · have hsame : c.toUpper = c := by
      unfold Char.toUpper
      split
      · next hlower =>
          have hle := hlower.2
          rw [UInt32.le_iff_toNat_le] at hle
          change c.toNat ≤ 122 at hle
          lia
      · rfl
    rw [hsame, hsame]

theorem upperCase_upperCase (text : List Char) :
    upperCase (upperCase text) = upperCase text := by
  rw [upperCase, upperCase, List.map_map]
  apply List.map_congr_left
  intro c _
  exact toUpper_toUpper c

theorem canonicalUuid_upperCase (hdash : '-' ∈ value.toList)
    (hupper : upperCase value.toList = value.toList) :
    canonicalUuid value = value := by
  by_cases hlength : (withoutDashes value.toList).length = 32
  · cases hread : fromHex (withoutDashes value.toList) with
    | none => exact canonicalUuid_unread hread
    | some raw =>
        have hchars := canonicalUuid_dashed hlength hread hdash
        rw [hupper] at hchars
        exact String.toList_inj.mp hchars
  · exact canonicalUuid_short hlength

theorem dash_fieldDigits (raw : Bytes) : '-' ∈ upperCase (fieldDigits raw) := by
  have hdash : '-' ∈ fieldDigits raw := by simp [fieldDigits]
  exact List.mem_map.mpr ⟨'-', hdash, rfl⟩

theorem dash_upperCase {text : List Char} (h : '-' ∈ text) :
    '-' ∈ upperCase text :=
  List.mem_map.mpr ⟨'-', h, rfl⟩

theorem canonicalUuid_again (value : String) :
    canonicalUuid (canonicalUuid value) = canonicalUuid value := by
  by_cases hlength : (withoutDashes value.toList).length = 32
  · cases hread : fromHex (withoutDashes value.toList) with
    | none => rw [canonicalUuid_unread hread, canonicalUuid_unread hread]
    | some raw =>
        by_cases hdash : '-' ∈ value.toList
        · have hchars := canonicalUuid_dashed hlength hread hdash
          apply canonicalUuid_upperCase
          · rw [hchars]
            exact dash_upperCase hdash
          · rw [hchars, upperCase_upperCase]
        · have hchars := canonicalUuid_bare hlength hread hdash
          apply canonicalUuid_upperCase
          · rw [hchars]
            exact dash_fieldDigits raw
          · rw [hchars, upperCase_upperCase]
  · rw [canonicalUuid_short hlength, canonicalUuid_short hlength]

end Cases

/-!
## Fields
-/

section Fields

variable {a b c d e : List Char}

theorem fieldsSwapped_parts (ha : a.length = 8) (hb : b.length = 4)
    (hc : c.length = 4) :
    fieldsSwapped (a ++ (b ++ (c ++ d))) =
      swapPairs a ++ (swapPairs b ++ (swapPairs c ++ d)) := by
  have hsecond : (a ++ (b ++ (c ++ d))).drop 8 = b ++ (c ++ d) :=
    List.drop_left' ha
  have hthird : (a ++ (b ++ (c ++ d))).drop 12 = c ++ d := by
    have hdrop : (12 : Nat) = 8 + 4 := rfl
    rw [hdrop, ← List.drop_drop, hsecond, List.drop_left' hb]
  have hfourth : (a ++ (b ++ (c ++ d))).drop 16 = d := by
    have hdrop : (16 : Nat) = 12 + 4 := rfl
    rw [hdrop, ← List.drop_drop, hthird, List.drop_left' hc]
  rw [fieldsSwapped, hsecond, hthird, hfourth, List.take_left' ha,
    List.take_left' hb, List.take_left' hc]

theorem dashed_parts (ha : a.length = 8) (hb : b.length = 4)
    (hc : c.length = 4) (hd : d.length = 4) :
    dashed (a ++ (b ++ (c ++ (d ++ e)))) =
      a ++ '-' :: (b ++ '-' :: (c ++ '-' :: (d ++ '-' :: e))) := by
  have hsecond : (a ++ (b ++ (c ++ (d ++ e)))).drop 8 =
      b ++ (c ++ (d ++ e)) := List.drop_left' ha
  have hthird : (a ++ (b ++ (c ++ (d ++ e)))).drop 12 = c ++ (d ++ e) := by
    have hdrop : (12 : Nat) = 8 + 4 := rfl
    rw [hdrop, ← List.drop_drop, hsecond, List.drop_left' hb]
  have hfourth : (a ++ (b ++ (c ++ (d ++ e)))).drop 16 = d ++ e := by
    have hdrop : (16 : Nat) = 12 + 4 := rfl
    rw [hdrop, ← List.drop_drop, hthird, List.drop_left' hc]
  have hfifth : (a ++ (b ++ (c ++ (d ++ e)))).drop 20 = e := by
    have hdrop : (20 : Nat) = 16 + 4 := rfl
    rw [hdrop, ← List.drop_drop, hfourth, List.drop_left' hd]
  rw [dashed, hsecond, hthird, hfourth, hfifth, List.take_left' ha,
    List.take_left' hb, List.take_left' hc, List.take_left' hd]

/-- The digits of bytes in upper case. -/
def upperPairs (bytes : Bytes) : List Char := upperCase (hexPairs bytes)

theorem upperPairs_length (bytes : Bytes) :
    (upperPairs bytes).length = 2 * bytes.length := by
  rw [upperPairs, upperCase, List.length_map, hexPairs_length]

theorem upperPairs_append (first rest : Bytes) :
    upperPairs (first ++ rest) = upperPairs first ++ upperPairs rest := by
  rw [upperPairs, hexPairs_append, upperCase, List.map_append]
  rfl

theorem upperPairs_reverse (bytes : Bytes) :
    upperPairs bytes.reverse = swapPairs (upperPairs bytes) := by
  rw [upperPairs, hexPairs_reverse, upperCase, ← swapPairs_map]
  rfl

theorem withoutDashes_upperPairs (bytes : Bytes) :
    withoutDashes (upperPairs bytes) = upperPairs bytes := by
  apply List.filter_eq_self.mpr
  intro c hc
  rcases List.mem_map.mp hc with ⟨digit, hdigit, hupper⟩
  have hall : forall k, k < 103 -> isHexCharacter (Char.ofNat k) = true ->
      (Char.ofNat k).toUpper ≠ '-' := by
    decide +kernel
  have hhex := isHexCharacter_hexPairs hdigit
  have hcode := isHexCharacter_code hhex
  have hplain := hall digit.toNat (by lia)
  rw [Char.ofNat_toNat] at hplain
  rw [← hupper]
  exact decide_eq_true (hplain hhex)

/-- The bytes of the fields, in the order in which they are stored. -/
structure Fields (raw : Bytes) where
  low : Bytes
  middle : Bytes
  high : Bytes
  clock : Bytes
  node : Bytes
  whole : raw = low ++ (middle ++ (high ++ (clock ++ node)))
  low_length : low.length = 4
  middle_length : middle.length = 2
  high_length : high.length = 2
  clock_length : clock.length = 2
  digits : upperCase (fieldDigits raw) =
    upperPairs low.reverse ++ '-' ::
      (upperPairs middle.reverse ++ '-' ::
        (upperPairs high.reverse ++ '-' ::
          (upperPairs clock ++ '-' :: upperPairs node)))

theorem whole_slices {raw : Bytes} (h : raw.length = 16) :
    raw = slice raw 0 4 ++ (slice raw 4 2 ++ (slice raw 6 2 ++
      (slice raw 8 2 ++ slice raw 10 6))) := by
  rw [slice_append raw 8 2 6, slice_append raw 6 2 8, slice_append raw 4 2 10,
    slice_append raw 0 4 12, slice, List.drop_zero]
  exact (List.take_of_length_le (Nat.le_of_eq h)).symm

theorem slices_length {raw : Bytes} (h : raw.length = 16) :
    (slice raw 0 4).length = 4 ∧ (slice raw 4 2).length = 2 ∧
      (slice raw 6 2).length = 2 ∧ (slice raw 8 2).length = 2 := by
  rw [slice_length, slice_length, slice_length, slice_length, h]
  decide

theorem fieldDigits_upperPairs (raw : Bytes) :
    upperCase (fieldDigits raw) =
      upperPairs (slice raw 0 4).reverse ++ '-' ::
        (upperPairs (slice raw 4 2).reverse ++ '-' ::
          (upperPairs (slice raw 6 2).reverse ++ '-' ::
            (upperPairs (slice raw 8 2) ++ '-' ::
              upperPairs (slice raw 10 6)))) := by
  have hdash : ('-' : Char).toUpper = '-' := rfl
  simp only [upperCase, fieldDigits, upperPairs, List.map_append,
    List.map_cons, hdash]

def fieldsOf {raw : Bytes} (h : raw.length = 16) : Fields raw where
  low := slice raw 0 4
  middle := slice raw 4 2
  high := slice raw 6 2
  clock := slice raw 8 2
  node := slice raw 10 6
  whole := whole_slices h
  low_length := (slices_length h).1
  middle_length := (slices_length h).2.1
  high_length := (slices_length h).2.2.1
  clock_length := (slices_length h).2.2.2
  digits := fieldDigits_upperPairs raw

end Fields

/-!
## The law
-/

section Law

variable {value : String}

theorem withoutDashes_bare (hbare : '-' ∉ value.toList) :
    withoutDashes value.toList = value.toList := by
  apply List.filter_eq_self.mpr
  intro c hc
  apply decide_eq_true
  intro hdash
  rw [hdash] at hc
  exact hbare hc

theorem read_of_uuid (huuid : IsUuidText value) :
    exists raw, fromHex (withoutDashes value.toList) = some raw :=
  Option.isSome_iff_exists.mp ((fromHex_isSome_iff _).mpr
    (spacedPairs_of_hex (n := 16) huuid.1 huuid.2))

theorem bare_fields (huuid : IsUuidText value) (hbare : '-' ∉ value.toList) :
    exists raw, exists fields : Fields raw,
      upperCase value.toList =
        upperPairs fields.low ++
          (upperPairs fields.middle ++
            (upperPairs fields.high ++
              (upperPairs fields.clock ++ upperPairs fields.node))) ∧
      (canonicalUuid value).toList =
        upperPairs fields.low.reverse ++ '-' ::
          (upperPairs fields.middle.reverse ++ '-' ::
            (upperPairs fields.high.reverse ++ '-' ::
              (upperPairs fields.clock ++ '-' :: upperPairs fields.node))) := by
  rcases read_of_uuid huuid with ⟨raw, hread⟩
  have hplain : (withoutDashes value.toList).countP isAsciiSpace = 0 := by
    apply List.countP_eq_zero.mpr
    intro c hc
    rw [isAsciiSpace_hex (huuid.2 c hc)]
    exact Bool.false_ne_true
  have hlength : raw.length = 16 := by
    have hall := fromHex_length hread
    rw [hplain, huuid.1] at hall
    lia
  have hdigits := fromHex_digits hread huuid.2
  rw [withoutDashes_bare hbare] at hdigits
  refine ⟨raw, fieldsOf hlength, ?_, ?_⟩
  · have hpairs : upperCase value.toList = upperPairs raw := hdigits.symm
    rw [hpairs]
    conv_lhs => rw [(fieldsOf hlength).whole]
    rw [upperPairs_append, upperPairs_append, upperPairs_append,
      upperPairs_append]
  · rw [canonicalUuid_bare huuid.1 hread hbare, (fieldsOf hlength).digits]

theorem canonicalUuid_rendered (huuid : IsUuidText value)
    (hbare : '-' ∉ value.toList) :
    (canonicalUuid value).toList =
      dashed (fieldsSwapped (upperCase value.toList)) := by
  rcases bare_fields huuid hbare with ⟨raw, fields, hdigits, hrendered⟩
  rw [hdigits, hrendered,
    fieldsSwapped_parts
      (by rw [upperPairs_length, fields.low_length])
      (by rw [upperPairs_length, fields.middle_length])
      (by rw [upperPairs_length, fields.high_length]),
    ← upperPairs_reverse, ← upperPairs_reverse, ← upperPairs_reverse,
    dashed_parts
      (by rw [upperPairs_length, List.length_reverse, fields.low_length])
      (by rw [upperPairs_length, List.length_reverse, fields.middle_length])
      (by rw [upperPairs_length, List.length_reverse, fields.high_length])
      (by rw [upperPairs_length, fields.clock_length])]

theorem withoutDashes_fields (a b c d e : Bytes) :
    withoutDashes (upperPairs a ++ '-' :: (upperPairs b ++ '-' ::
        (upperPairs c ++ '-' :: (upperPairs d ++ '-' :: upperPairs e)))) =
      upperPairs a ++ (upperPairs b ++
        (upperPairs c ++ (upperPairs d ++ upperPairs e))) := by
  have hkeeps := fun bytes => withoutDashes_upperPairs bytes
  unfold withoutDashes at hkeeps ⊢
  simp only [List.filter_append, hkeeps, List.filter_cons, ne_eq,
    not_true_eq_false, decide_false, Bool.false_eq_true, if_false]

theorem canonicalUuid_recovered (huuid : IsUuidText value)
    (hbare : '-' ∉ value.toList) :
    fieldsSwapped (withoutDashes (canonicalUuid value).toList) =
      upperCase value.toList := by
  rcases bare_fields huuid hbare with ⟨raw, fields, hdigits, hrendered⟩
  rw [hdigits, hrendered, withoutDashes_fields,
    fieldsSwapped_parts
      (by rw [upperPairs_length, List.length_reverse, fields.low_length])
      (by rw [upperPairs_length, List.length_reverse, fields.middle_length])
      (by rw [upperPairs_length, List.length_reverse, fields.high_length]),
    ← upperPairs_reverse, ← upperPairs_reverse, ← upperPairs_reverse,
    List.reverse_reverse, List.reverse_reverse, List.reverse_reverse]

theorem canonicalUuid_blank (h : BlankPairs value) :
    ¬ IsUuidText value ∧ canonicalUuid value ≠ value := by
  rcases h with ⟨hlength, hspaced, ⟨c, hc, hblank⟩, hcased⟩
  rcases Option.isSome_iff_exists.mp ((fromHex_isSome_iff _).mpr hspaced) with
    ⟨raw, hread⟩
  constructor
  · intro huuid
    rw [isAsciiSpace_hex (huuid.2 c hc)] at hblank
    cases hblank
  · intro hkept
    by_cases hdash : '-' ∈ value.toList
    · have hchars := canonicalUuid_dashed hlength hread hdash
      rw [hkept] at hchars
      exact hcased hdash hchars.symm
    · have hchars := canonicalUuid_bare hlength hread hdash
      rw [hkept] at hchars
      rw [hchars] at hdash
      exact hdash (dash_fieldDigits raw)

theorem canonicalUuid_kept (hnot : ¬ BlankPairs value)
    (huuid : ¬ IsUuidText value) : canonicalUuid value = value := by
  by_cases hlength : (withoutDashes value.toList).length = 32
  · cases hread : fromHex (withoutDashes value.toList) with
    | none => exact canonicalUuid_unread hread
    | some raw =>
        have hspaced : SpacedPairs (withoutDashes value.toList) :=
          (fromHex_isSome_iff _).mp (by rw [hread]; rfl)
        have hblank : exists c, c ∈ withoutDashes value.toList ∧
            isAsciiSpace c = true := by
          by_contra hnone
          apply huuid
          constructor
          · exact hlength
          · intro c hc
            by_contra hhex
            rw [Bool.not_eq_true] at hhex
            exact hnone ⟨c, hc, hspaced.blank hc hhex⟩
        by_cases hdash : '-' ∈ value.toList
        · by_cases hupper : upperCase value.toList = value.toList
          · exact canonicalUuid_upperCase hdash hupper
          · exact absurd ⟨hlength, hspaced, hblank, fun _ => hupper⟩ hnot
        · exact absurd ⟨hlength, hspaced, hblank, fun h => absurd h hdash⟩ hnot
  · exact canonicalUuid_short hlength

/-- A text is rendered as it should be unless it is as long as the digits of a
UUID and has blanks among its pairs of digits. -/
theorem canonicalUuid_law_iff (value : String) :
    CanonicalLaw value ↔ ¬ BlankPairs value := by
  constructor
  · intro hlaw hblank
    rcases canonicalUuid_blank hblank with ⟨huuid, hchanged⟩
    exact hchanged (hlaw.kept huuid)
  · intro hnot
    constructor
    · exact canonicalUuid_kept hnot
    · intro huuid hdash
      rcases read_of_uuid huuid with ⟨raw, hread⟩
      exact canonicalUuid_dashed huuid.1 hread hdash
    · exact canonicalUuid_rendered
    · exact canonicalUuid_recovered
    · intro other huuid hbare hother hotherBare hsame
      rw [← canonicalUuid_recovered huuid hbare,
        ← canonicalUuid_recovered hother hotherBare, hsame]
    · exact canonicalUuid_again value

end Law

/-- A platform GUID of fifteen bytes with two blanks. -/
theorem canonicalUuid_mangles :
    canonicalUuid "ddccbbaa ffee f01188990011223344" =
        "AABBCCDD-EEFF-11F0-8899-0011223344" ∧
      ¬ CanonicalLaw "ddccbbaa ffee f01188990011223344" := by
  have hmangled : canonicalUuid "ddccbbaa ffee f01188990011223344" =
      "AABBCCDD-EEFF-11F0-8899-0011223344" := by
    decide +kernel
  constructor
  · exact hmangled
  · intro hlaw
    have huuid : ¬ IsUuidText "ddccbbaa ffee f01188990011223344" := by
      intro h
      have hblank := h.2 ' ' (by decide +kernel)
      cases hblank
    have hkept := hlaw.kept huuid
    rw [hmangled] at hkept
    exact absurd hkept (by decide +kernel)

end AmtInfo
end IntelAmt
