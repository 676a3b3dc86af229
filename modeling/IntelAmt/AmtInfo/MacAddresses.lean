import IntelAmt.AmtInfo.Settings
import IntelAmt.Foundation.HexPairs
import IntelAmt.Foundation.Text

/-!
# MAC addresses

Which texts are taken for a MAC address, and the one form that an address is
given.
-/

namespace IntelAmt
namespace Models

open Foundation Wsman

/-- What is left of a text without blanks around it and separators in it. -/
def macDigits (value : String) : List Char :=
  (strip value).toList.filter fun c => c ≠ '-' ∧ c ≠ ':' ∧ c ≠ '.'

def IsMacText (value : String) : Prop :=
  (macDigits value).length = 12 ∧
    forall c, c ∈ macDigits value -> isHexCharacter c = true

/-- Groups of two with colons between them. -/
def colonText : List (Char × Char) -> List Char
  | [] => []
  | [(a, b)] => [a, b]
  | (a, b) :: rest => a :: b :: ':' :: colonText rest

/-- The two digits of each octet. -/
def octetGroups (octets : Bytes) : List (Char × Char) :=
  octets.map fun b =>
    (hexCharacter (b.toNat / 16), hexCharacter (b.toNat % 16))

/-- The six octets of an address, whatever stands between its digits. -/
structure Denotes (value : String) (octets : Bytes) : Prop where
  six : octets.length = 6
  digits : (macDigits value).map Char.toLower = hexPairs octets

structure MacLaw (value : String) : Prop where
  rendered : IsMacText value -> exists octets, Denotes value octets ∧
    (normalizeMac value).toList = colonText (octetGroups octets)
  kept : ¬ IsMacText value -> normalizeMac value = strip value
  faithful : forall other octets others, Denotes value octets ->
    Denotes other others ->
      (normalizeMac value = normalizeMac other ↔ octets = others)
  again : normalizeMac (normalizeMac value) = normalizeMac value

/-- Six groups of two with colons between them, and no letter in upper
case. -/
def InGroups (text : List Char) : Prop :=
  (exists groups : List (Char × Char), groups.length = 6 ∧
    text = colonText groups) ∧
  forall c, c ∈ text -> c.toLower = c

/-- Twelve characters that are a number to `int` although not all of them are
digits, and that are not in the form of an address already. -/
structure MisreadNumber (value : String) : Prop where
  twelve : (macDigits value).length = 12
  number : isBase16 (macDigits value) = true
  other : exists c, c ∈ macDigits value ∧ isHexCharacter c = false
  ungrouped : ¬ InGroups (strip value).toList

/-!
## Groups
-/

def groupText (groups : List (Char × Char)) : List Char :=
  groups.flatMap fun group => [group.1, group.2]

theorem groupText_length (groups : List (Char × Char)) :
    (groupText groups).length = 2 * groups.length := by
  induction groups with
  | nil => rfl
  | cons group groups ih =>
      have hcons : groupText (group :: groups) =
          group.1 :: group.2 :: groupText groups := rfl
      rw [hcons, List.length_cons, List.length_cons, ih, List.length_cons]
      lia

theorem exists_groups {n : Nat} {text : List Char}
    (h : text.length = 2 * n) :
    exists groups, groups.length = n ∧ groupText groups = text := by
  induction n generalizing text with
  | zero => exact ⟨[], rfl, (List.eq_nil_of_length_eq_zero h).symm⟩
  | succ n ih =>
      rcases text with _ | ⟨a, _ | ⟨b, rest⟩⟩
      · cases h
      · rw [List.length_singleton] at h
        lia
      · rw [List.length_cons, List.length_cons] at h
        have hshorter : rest.length = 2 * n := by lia
        rcases ih hshorter with ⟨groups, hlength, hrest⟩
        refine ⟨(a, b) :: groups, by rw [List.length_cons, hlength], ?_⟩
        rw [← hrest]
        rfl

theorem pairs_groupText (groups : List (Char × Char)) :
    pairs (groupText groups) =
      groups.map fun group => String.ofList [group.1, group.2] := by
  induction groups with
  | nil => rfl
  | cons group groups ih =>
      have hcons : groupText (group :: groups) =
          group.1 :: group.2 :: groupText groups := rfl
      rw [hcons, pairs, ih, List.map_cons]

theorem toList_joined (groups : List (Char × Char)) :
    (":".intercalate (pairs (groupText groups))).toList =
      colonText groups := by
  rw [pairs_groupText]
  induction groups with
  | nil => rfl
  | cons group rest ih =>
      rcases rest with _ | ⟨second, rest⟩
      · rw [List.map_singleton, String.intercalate_singleton,
          String.toList_ofList]
        rfl
      · have hcolon : (":" : String).toList = [':'] := rfl
        rw [List.map_cons] at ih ⊢
        rw [List.map_cons, String.intercalate_cons_cons, String.toList_append,
          String.toList_append, ih, String.toList_ofList, hcolon]
        rfl

theorem mem_colonText {groups : List (Char × Char)} {c : Char}
    (h : c ∈ colonText groups) : c ∈ groupText groups ∨ c = ':' := by
  induction groups with
  | nil => cases h
  | cons group rest ih =>
      have hcons : groupText (group :: rest) =
          group.1 :: group.2 :: groupText rest := rfl
      rw [hcons]
      rcases rest with _ | ⟨second, rest⟩
      · exact Or.inl h
      · have hcolon : colonText (group :: second :: rest) =
            group.1 :: group.2 :: ':' :: colonText (second :: rest) := rfl
        rw [hcolon] at h
        simp only [List.mem_cons] at h ⊢
        rcases h with h | h | h | h
        · exact Or.inl (Or.inl h)
        · exact Or.inl (Or.inr (Or.inl h))
        · exact Or.inr h
        · rcases ih h with hin | hsep
          · exact Or.inl (Or.inr (Or.inr hin))
          · exact Or.inr hsep

theorem filter_colonText {p : Char -> Bool} (hp : p ':' = false)
    (groups : List (Char × Char)) :
    (colonText groups).filter p = (groupText groups).filter p := by
  induction groups with
  | nil => rfl
  | cons group rest ih =>
      rcases rest with _ | ⟨second, rest⟩
      · rfl
      · have hcolon : colonText (group :: second :: rest) =
            [group.1, group.2] ++ ':' :: colonText (second :: rest) := rfl
        have hcons : groupText (group :: second :: rest) =
            [group.1, group.2] ++ groupText (second :: rest) := rfl
        have hdrop : (':' :: colonText (second :: rest)).filter p =
            (colonText (second :: rest)).filter p :=
          List.filter_cons_of_neg (by rw [hp]; exact Bool.false_ne_true)
        rw [hcolon, hcons, List.filter_append, List.filter_append, hdrop, ih]

theorem groupText_octetGroups (octets : Bytes) :
    groupText (octetGroups octets) = hexPairs octets := by
  rw [groupText, octetGroups, List.flatMap_map, hexPairs]

/-!
## Digits
-/

theorem toLower_wide {c : Char} (h : 128 ≤ c.toNat) : c.toLower = c := by
  unfold Char.toLower
  split
  · next hupper =>
      have hle := hupper.2
      rw [UInt32.le_iff_toNat_le] at hle
      change c.toNat ≤ 90 at hle
      lia
  · rfl

theorem toLower_toLower (c : Char) : c.toLower.toLower = c.toLower := by
  rcases Nat.lt_or_ge c.toNat 128 with hsmall | hlarge
  · have hall : forall k, k < 128 ->
        (Char.ofNat k).toLower.toLower = (Char.ofNat k).toLower := by
      decide +kernel
    have hc := hall c.toNat hsmall
    rwa [Char.ofNat_toNat] at hc
  · rw [toLower_wide hlarge, toLower_wide hlarge]

theorem isHexCharacter_of_toLower {c : Char}
    (h : isHexCharacter c.toLower = true) : isHexCharacter c = true := by
  rcases Nat.lt_or_ge c.toNat 128 with hsmall | hlarge
  · have hall : forall k, k < 128 ->
        isHexCharacter (Char.ofNat k).toLower = true ->
          isHexCharacter (Char.ofNat k) = true := by
      decide +kernel
    have hc := hall c.toNat hsmall
    rw [Char.ofNat_toNat] at hc
    exact hc h
  · rwa [toLower_wide hlarge] at h

theorem forall_hexCharacter {p : Char -> Prop}
    (h : forall k, k < 103 -> isHexCharacter (Char.ofNat k) = true ->
      p (Char.ofNat k)) {c : Char} (hc : isHexCharacter c = true) : p c := by
  have hcode := isHexCharacter_code hc
  have hp := h c.toNat (by lia)
  rw [Char.ofNat_toNat] at hp
  exact hp hc

theorem isSpace_hexCharacter {c : Char} (h : isHexCharacter c = true) :
    Tls.isSpace c = false :=
  forall_hexCharacter (p := fun c => Tls.isSpace c = false)
    (by decide +kernel) h

theorem toLower_toUpper {c : Char} (h : isHexCharacter c = true) :
    (Char.toLower ∘ Char.toUpper) c = c.toLower :=
  forall_hexCharacter
    (p := fun c => (Char.toLower ∘ Char.toUpper) c = c.toLower)
    (by decide +kernel) h

theorem isBase16Digit_hexCharacter {c : Char} (h : isHexCharacter c = true) :
    isBase16Digit (Json.asciiPoint c.toNat) = true :=
  forall_hexCharacter
    (p := fun c => isBase16Digit (Json.asciiPoint c.toNat) = true)
    (by decide +kernel) h

theorem unseparated_hexCharacter {c : Char} (h : isHexCharacter c = true) :
    c ≠ '-' ∧ c ≠ ':' ∧ c ≠ '.' :=
  forall_hexCharacter (p := fun c => c ≠ '-' ∧ c ≠ ':' ∧ c ≠ '.')
    (by decide +kernel) h

theorem isTextSpace_base16Digit {n : Nat} (h : isBase16Digit n = true) :
    Json.isTextSpace n = false := by
  rw [isBase16Digit, Json.isTextDigit, Bool.or_eq_true, Bool.or_eq_true,
    Bool.and_eq_true, Bool.and_eq_true, decide_eq_true_iff,
    decide_eq_true_iff, decide_eq_true_iff, decide_eq_true_iff,
    decide_eq_true_iff] at h
  rw [Json.isTextSpace, decide_eq_false_iff_not]
  lia

section Numerals

variable {points : List Nat}
  (hall : forall p, p ∈ points -> isBase16Digit p = true)

include hall

theorem hexNumeral_digits (hne : points ≠ []) : hexNumeral points = true := by
  fun_induction hexNumeral points with
  | case1 => exact absurd rfl hne
  | case2 digit => exact hall digit List.mem_cons_self
  | case3 digit rest _ =>
      have hunderscore := hall 95 (by simp)
      cases hunderscore
  | case4 digit rest hshort _ ih =>
      rw [hall digit List.mem_cons_self, Bool.true_and]
      apply ih
      · exact fun p hp => hall p (List.mem_cons_of_mem _ hp)
      · intro hnil
        exact hshort (by rw [hnil])

theorem isBase16Unsigned_digits :
    isBase16Unsigned points = hexNumeral points := by
  unfold isBase16Unsigned
  split
  · exact absurd (hall 120 (by simp)) (by decide)
  · exact absurd (hall 88 (by simp)) (by decide)
  · exact absurd (hall 120 (by simp)) (by decide)
  · exact absurd (hall 88 (by simp)) (by decide)
  · rfl

end Numerals

theorem isBase16_digits {text : List Char} (hne : text ≠ [])
    (hall : forall c, c ∈ text -> isHexCharacter c = true) :
    isBase16 text = true := by
  have hpoints : forall p, p ∈ (text.map fun c => Json.asciiPoint c.toNat) ->
      isBase16Digit p = true := by
    intro p hp
    rcases List.mem_map.mp hp with ⟨c, hc, hcode⟩
    rw [← hcode]
    exact isBase16Digit_hexCharacter (hall c hc)
  have hstrip : Json.strip (text.map fun c => Json.asciiPoint c.toNat) =
      text.map fun c => Json.asciiPoint c.toNat :=
    dropEnds_none fun p hp => isTextSpace_base16Digit (hpoints p hp)
  have hnumeral : isBase16Unsigned
      (text.map fun c => Json.asciiPoint c.toNat) = true := by
    rw [isBase16Unsigned_digits hpoints]
    apply hexNumeral_digits hpoints
    intro hnil
    exact hne (List.map_eq_nil_iff.mp hnil)
  rw [isBase16, hstrip]
  split
  · next unsigned hsign =>
      exact absurd (hpoints 43 (by rw [hsign]; simp)) (by decide)
  · next unsigned hsign =>
      exact absurd (hpoints 45 (by rw [hsign]; simp)) (by decide)
  · exact hnumeral

theorem toLower_hexPairs (bytes : Bytes) :
    (hexPairs bytes).map Char.toLower = hexPairs bytes := by
  have hdigit : forall n, n < 16 ->
      (hexCharacter n).toLower = hexCharacter n := by
    decide
  conv_rhs => rw [← List.map_id (hexPairs bytes)]
  apply List.map_congr_left
  intro c hc
  rcases List.mem_flatMap.mp hc with ⟨b, _, hb⟩
  have hbyte : b.toNat < 256 := b.toNat_lt
  simp only [List.mem_cons, List.not_mem_nil, or_false] at hb
  rcases hb with hhigh | hlow
  · rw [hhigh]
    exact hdigit _ (by lia)
  · rw [hlow]
    exact hdigit _ (by lia)

/-!
## Cases
-/

section Cases

variable {value : String}

theorem normalizeMac_short (h : (macDigits value).length ≠ 12) :
    normalizeMac value = strip value := by
  rw [macDigits] at h
  rw [normalizeMac, if_pos h]

theorem normalizeMac_unread (h : isBase16 (macDigits value) = false) :
    normalizeMac value = strip value := by
  rw [macDigits] at h
  simp only [normalizeMac, h, Bool.false_eq_true, if_false, ite_self]

theorem normalizeMac_read (hlength : (macDigits value).length = 12)
    (hread : isBase16 (macDigits value) = true)
    {groups : List (Char × Char)}
    (hgroups : groupText groups = (macDigits value).map Char.toLower) :
    (normalizeMac value).toList = colonText groups := by
  have hjoined := toList_joined groups
  rw [hgroups] at hjoined
  rw [← hjoined]
  rw [macDigits] at hlength hread ⊢
  simp only [normalizeMac, hlength, hread, ne_eq, not_true_eq_false, if_false,
    if_true]

theorem normalizeMac_kept (h : normalizeMac value = strip value) :
    normalizeMac (normalizeMac value) = normalizeMac value := by
  have hsame : normalizeMac (strip value) = normalizeMac value := by
    rw [normalizeMac, strip_strip, normalizeMac]
  rw [h, hsame, h]

end Cases

/-!
## The law
-/

section Law

variable {value : String}

theorem length_macDigits {octets : Bytes} (h : Denotes value octets) :
    (macDigits value).length = 12 := by
  have hlength := congrArg List.length h.digits
  rwa [List.length_map, hexPairs_length, h.six] at hlength

theorem isMacText_of_denotes {octets : Bytes} (h : Denotes value octets) :
    IsMacText value := by
  constructor
  · exact length_macDigits h
  · intro c hc
    have hlower : c.toLower ∈ hexPairs octets := by
      rw [← h.digits]
      exact List.mem_map_of_mem hc
    exact isHexCharacter_of_toLower (isHexCharacter_hexPairs hlower)

theorem exists_denotes (h : IsMacText value) :
    exists octets, Denotes value octets := by
  rcases Option.isSome_iff_exists.mp ((fromHex_isSome_iff _).mpr
    (spacedPairs_of_hex (n := 6) h.1 h.2)) with ⟨octets, hread⟩
  have hupper := fromHex_digits hread h.2
  have hdigits : (macDigits value).map Char.toLower = hexPairs octets := by
    have hlower := congrArg (List.map Char.toLower) hupper
    rw [List.map_map, List.map_map,
      List.map_congr_left fun c hc => toLower_toUpper (h.2 c hc),
      List.map_congr_left fun c hc =>
        toLower_toUpper (isHexCharacter_hexPairs hc)] at hlower
    rw [← hlower, toLower_hexPairs]
  refine ⟨octets, ?_, hdigits⟩
  have hlength := congrArg List.length hdigits
  rw [List.length_map, h.1, hexPairs_length] at hlength
  lia

theorem normalizeMac_denotes {octets : Bytes} (h : Denotes value octets) :
    (normalizeMac value).toList = colonText (octetGroups octets) := by
  have htext := isMacText_of_denotes h
  apply normalizeMac_read htext.1
  · apply isBase16_digits
    · intro hnil
      have hlength := htext.1
      rw [hnil] at hlength
      cases hlength
    · exact htext.2
  · rw [groupText_octetGroups, h.digits]

theorem denotes_normalizeMac {octets : Bytes} (h : Denotes value octets) :
    Denotes (normalizeMac value) octets := by
  have hform := normalizeMac_denotes h
  have hspace : forall c, c ∈ colonText (octetGroups octets) ->
      Tls.isSpace c = false := by
    intro c hc
    rcases mem_colonText hc with hdigit | hcolon
    · rw [groupText_octetGroups] at hdigit
      exact isSpace_hexCharacter (isHexCharacter_hexPairs hdigit)
    · rw [hcolon]
      rfl
  have hplain : (hexPairs octets).filter
      (fun c => c ≠ '-' ∧ c ≠ ':' ∧ c ≠ '.') = hexPairs octets := by
    apply List.filter_eq_self.mpr
    intro c hc
    exact decide_eq_true
      (unseparated_hexCharacter (isHexCharacter_hexPairs hc))
  have hdigits : macDigits (normalizeMac value) = hexPairs octets := by
    have hstrip : Tls.strip (colonText (octetGroups octets)) =
        colonText (octetGroups octets) := dropEnds_none hspace
    rw [macDigits, strip, String.toList_ofList, hform, hstrip,
      filter_colonText rfl, groupText_octetGroups, hplain]
  constructor
  · exact h.six
  · rw [hdigits, toLower_hexPairs]

theorem octets_of_form {octets others : Bytes}
    (h : colonText (octetGroups octets) = colonText (octetGroups others)) :
    octets = others := by
  have hdigits := congrArg (List.filter isHexCharacter) h
  rw [filter_colonText rfl, filter_colonText rfl, groupText_octetGroups,
    groupText_octetGroups,
    List.filter_eq_self.mpr fun c hc => isHexCharacter_hexPairs hc,
    List.filter_eq_self.mpr fun c hc => isHexCharacter_hexPairs hc] at hdigits
  apply hexOf_injective
  apply String.toList_inj.mp
  rw [toList_hexOf, toList_hexOf, hdigits]

theorem normalizeMac_grouped (hlength : (macDigits value).length = 12)
    (h : InGroups (strip value).toList) : normalizeMac value = strip value := by
  cases hread : isBase16 (macDigits value) with
  | false => exact normalizeMac_unread hread
  | true =>
      rcases h with ⟨⟨groups, hsix, htext⟩, hlower⟩
      have hfilter : macDigits value = groupText groups := by
        have hcolons : macDigits value = (groupText groups).filter
            fun c => c ≠ '-' ∧ c ≠ ':' ∧ c ≠ '.' := by
          rw [macDigits, htext, filter_colonText rfl]
        rw [hcolons]
        apply List.filter_eq_self.mpr
        apply List.length_filter_eq_length_iff.mp
        rw [← hcolons, hlength, groupText_length, hsix]
      have hsame : (macDigits value).map Char.toLower = macDigits value := by
        conv_rhs => rw [← List.map_id (macDigits value)]
        apply List.map_congr_left
        intro c hc
        exact hlower c (List.mem_of_mem_filter hc)
      apply String.toList_inj.mp
      rw [htext]
      apply normalizeMac_read hlength hread
      rw [hsame, hfilter]

theorem normalizeMac_misread (h : MisreadNumber value) :
    ¬ IsMacText value ∧ normalizeMac value ≠ strip value := by
  constructor
  · intro htext
    rcases h.other with ⟨c, hc, hhex⟩
    rw [htext.2 c hc] at hhex
    cases hhex
  · intro hkept
    have hlength : ((macDigits value).map Char.toLower).length = 2 * 6 := by
      rw [List.length_map, h.twelve]
    rcases exists_groups hlength with ⟨groups, hsix, hgroups⟩
    have hform := normalizeMac_read h.twelve h.number hgroups
    rw [hkept] at hform
    apply h.ungrouped
    refine ⟨⟨groups, hsix, hform⟩, ?_⟩
    intro c hc
    rw [hform] at hc
    rcases mem_colonText hc with hdigit | hcolon
    · rw [hgroups] at hdigit
      rcases List.mem_map.mp hdigit with ⟨digit, _, hdigit⟩
      rw [← hdigit, toLower_toLower]
    · rw [hcolon]
      rfl

theorem normalizeMac_other (hnot : ¬ MisreadNumber value)
    (htext : ¬ IsMacText value) : normalizeMac value = strip value := by
  by_cases hlength : (macDigits value).length = 12
  · cases hread : isBase16 (macDigits value) with
    | false => exact normalizeMac_unread hread
    | true =>
        have hother : exists c, c ∈ macDigits value ∧
            isHexCharacter c = false := by
          by_contra hnone
          apply htext
          constructor
          · exact hlength
          · intro c hc
            by_contra hhex
            rw [Bool.not_eq_true] at hhex
            exact hnone ⟨c, hc, hhex⟩
        by_cases hgrouped : InGroups (strip value).toList
        · exact normalizeMac_grouped hlength hgrouped
        · exact absurd ⟨hlength, hread, hother, hgrouped⟩ hnot
  · exact normalizeMac_short hlength

/-- An address gets its one form and any other text is kept, unless the text is
a number of twelve characters that is no address. -/
theorem normalizeMac_law_iff (value : String) :
    MacLaw value ↔ ¬ MisreadNumber value := by
  constructor
  · intro hlaw hmisread
    rcases normalizeMac_misread hmisread with ⟨htext, hchanged⟩
    exact hchanged (hlaw.kept htext)
  · intro hnot
    constructor
    · intro htext
      rcases exists_denotes htext with ⟨octets, hdenotes⟩
      exact ⟨octets, hdenotes, normalizeMac_denotes hdenotes⟩
    · exact normalizeMac_other hnot
    · intro other octets others hdenotes hother
      constructor
      · intro hsame
        apply octets_of_form
        rw [← normalizeMac_denotes hdenotes, ← normalizeMac_denotes hother,
          hsame]
      · intro hsame
        apply String.toList_inj.mp
        rw [normalizeMac_denotes hdenotes, normalizeMac_denotes hother, hsame]
    · by_cases htext : IsMacText value
      · rcases exists_denotes htext with ⟨octets, hdenotes⟩
        apply String.toList_inj.mp
        rw [normalizeMac_denotes (denotes_normalizeMac hdenotes),
          normalizeMac_denotes hdenotes]
      · exact normalizeMac_kept (normalizeMac_other hnot htext)

end Law

/-- Ten digits behind `0x`. -/
theorem normalizeMac_mangles :
    normalizeMac "0x1234567890" = "0x:12:34:56:78:90" ∧
      ¬ MacLaw "0x1234567890" := by
  have hmangled : normalizeMac "0x1234567890" = "0x:12:34:56:78:90" := by
    decide +kernel
  constructor
  · exact hmangled
  · intro hlaw
    have htext : ¬ IsMacText "0x1234567890" := by
      intro h
      have hx := h.2 'x' (by decide +kernel)
      cases hx
    have hkept := hlaw.kept htext
    rw [hmangled] at hkept
    exact absurd hkept (by decide +kernel)

end Models
end IntelAmt
