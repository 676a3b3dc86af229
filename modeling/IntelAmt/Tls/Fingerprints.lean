import IntelAmt.Foundation.Text
import IntelAmt.Tls

/-!
# Fingerprints and their spellings

Which texts are taken for the spelling of a SHA-256 digest, and what a
normalized fingerprint looks like.
-/

namespace IntelAmt
namespace Tls

open Foundation

/-!
## Hexadecimal digits
-/

theorem hexDigit_code {c : Char} (h : isHexDigit c = true) :
    (48 ≤ c.toNat ∧ c.toNat ≤ 57) ∨ (97 ≤ c.toNat ∧ c.toNat ≤ 102) := by
  unfold isHexDigit at h
  rw [Bool.or_eq_true, Bool.and_eq_true, Bool.and_eq_true] at h
  simp only [decide_eq_true_eq, Char.le_def, UInt32.le_iff_toNat_le] at h
  exact h

theorem isSpace_hexDigit {c : Char} (h : isHexDigit c = true) :
    isSpace c = false := by
  have hall : forall n, n < 103 -> 48 ≤ n -> isSpace (Char.ofNat n) = false := by
    decide +kernel
  have hcode := hexDigit_code h
  have hspace := hall c.toNat (by lia) (by lia)
  rwa [Char.ofNat_toNat] at hspace

theorem ne_hexDigit {c other : Char} (h : isHexDigit c = true)
    (hother : isHexDigit other = false) : c ≠ other := by
  intro hsame
  rw [hsame, hother] at h
  cases h

theorem lower_digit {c : Char} (h : isHexDigit c = true ∨ c = '\n') :
    lower [c] = [c] := by
  have hcode : c.toNat < 65 ∨ (97 ≤ c.toNat ∧ c.toNat < 103) := by
    rcases h with hdigit | hnewline
    · have hbounds := hexDigit_code hdigit
      lia
    · rw [hnewline]
      decide
  have hdotted : c.toNat ≠ 304 := by lia
  have hlower : c.toLower = c := by
    unfold Char.toLower
    split
    · next hupper =>
        rcases hupper with ⟨hlow, hhigh⟩
        rw [ge_iff_le, UInt32.le_iff_toNat_le] at hlow
        rw [UInt32.le_iff_toNat_le] at hhigh
        change 65 ≤ c.toNat at hlow
        change c.toNat ≤ 90 at hhigh
        lia
    · rfl
  unfold lower
  rw [List.flatMap_cons, if_neg hdotted, hlower]
  rfl

theorem lower_digits {text : List Char}
    (h : forall c, c ∈ text -> isHexDigit c = true ∨ c = '\n') :
    lower text = text := by
  induction text with
  | nil => rfl
  | cons c text ih =>
      have hc := lower_digit (h c List.mem_cons_self)
      have hrest := ih fun d hd => h d (List.mem_cons_of_mem _ hd)
      unfold lower at hc hrest ⊢
      rw [List.flatMap_cons, hrest]
      rw [List.flatMap_cons, List.flatMap_nil, List.append_nil] at hc
      rw [hc]
      rfl

theorem hexMatches_digits {text : List Char}
    (h : hexMatches text = true) :
    forall c, c ∈ text -> isHexDigit c = true ∨ c = '\n' := by
  unfold hexMatches at h
  dsimp only at h
  rw [Bool.and_eq_true] at h
  intro c hc
  by_cases hlast : text.getLast? = some '\n'
  · rw [if_pos hlast] at h
    rcases List.getLast?_eq_some_iff.mp hlast with ⟨front, hfront⟩
    rw [hfront] at hc h
    rw [List.dropLast_concat] at h
    rcases List.mem_append.mp hc with hc | hc
    · exact Or.inl (List.all_eq_true.mp h.2 c hc)
    · exact Or.inr (List.mem_singleton.mp hc)
  · rw [if_neg hlast] at h
    exact Or.inl (List.all_eq_true.mp h.2 c hc)

theorem strip_eq_self {text : List Char}
    (h : forall c, c ∈ text -> isSpace c = false) : strip text = text :=
  dropEnds_none h

theorem hexMatches_iff (text : List Char) :
    hexMatches text = true ↔
      exists digits, digits ≠ [] ∧
        (forall c, c ∈ digits -> isHexDigit c = true) ∧
        (text = digits ∨ text = digits ++ ['\n']) := by
  have hbody : forall body : List Char,
      (decide (body ≠ []) && body.all isHexDigit) = true ↔
        body ≠ [] ∧ forall c, c ∈ body -> isHexDigit c = true := by
    intro body
    rw [Bool.and_eq_true, decide_eq_true_iff, List.all_eq_true]
  rw [hexMatches, hbody]
  constructor
  · rintro ⟨hne, hall⟩
    refine ⟨_, hne, hall, ?_⟩
    by_cases hlast : text.getLast? = some '\n'
    · rcases List.getLast?_eq_some_iff.mp hlast with ⟨front, hfront⟩
      rw [if_pos hlast, hfront, List.dropLast_concat]
      exact Or.inr rfl
    · rw [if_neg hlast]
      exact Or.inl rfl
  · rintro ⟨digits, hne, hall, htext⟩
    have hdigits : (if text.getLast? = some '\n' then text.dropLast
        else text) = digits := by
      rcases htext with htext | htext
      · rw [htext]
        apply if_neg
        intro hlast
        have hnewline := hall '\n' (List.mem_of_getLast? hlast)
        cases hnewline
      · rw [htext, List.getLast?_concat, if_pos rfl, List.dropLast_concat]
    rw [hdigits]
    exact ⟨hne, hall⟩

/-!
## Spellings
-/

def IsDigest (text : List Char) : Prop :=
  text.length = fingerprintHexLength ∧
    forall c, c ∈ text -> isHexDigit c = true

def withoutSeparators (text : List Char) : List Char :=
  (text.filter fun c => c ≠ ':').filter fun c => c ≠ ' '

/-- Trimmed, the text is a prefix that may be missing and, when the colons,
the spaces and the case do not count, these characters. -/
def Spells (raw : String) (text : List Char) : Prop :=
  exists start body, strip raw.toList = start ++ body ∧
    (start = [] ∨ lower start = sha256Prefix) ∧
    withoutSeparators (lower body) = text

section Spelling

variable {raw : String} {text : List Char}

theorem lower_append (first rest : List Char) :
    lower (first ++ rest) = lower first ++ lower rest :=
  List.flatMap_append

theorem lower_split {first rest : List Char} (hdotless : 'i' ∉ first)
    (h : lower text = first ++ rest) :
    exists start body, text = start ++ body ∧ lower start = first ∧
      lower body = rest := by
  induction first generalizing text with
  | nil => exact ⟨[], text, rfl, rfl, h⟩
  | cons x first ih =>
      rw [List.mem_cons, not_or] at hdotless
      cases text with
      | nil => cases h
      | cons c later =>
          rw [lower, List.flatMap_cons] at h
          by_cases hdotted : c.toNat = 304
          · rw [if_pos hdotted] at h
            exact absurd (List.cons.inj h).1 hdotless.1
          · rw [if_neg hdotted] at h
            rcases List.cons.inj h with ⟨hx, hlater⟩
            rcases ih hdotless.2 hlater with ⟨start, body, hsplit, hstart, hrest⟩
            refine ⟨c :: start, body, by rw [hsplit, List.cons_append], ?_, hrest⟩
            rw [lower, List.flatMap_cons, if_neg hdotted, hx]
            exact congrArg (List.cons x) hstart

theorem mem_withoutSeparators {c : Char} :
    c ∈ withoutSeparators text ↔ c ∈ text ∧ c ≠ ':' ∧ c ≠ ' ' := by
  simp only [withoutSeparators, List.mem_filter, decide_eq_true_eq, and_assoc]

/-- A text that does not begin as the prefix does is spelled by what has
become of the raw one. -/
theorem spells_iff (hplain : 's' ∉ text) :
    Spells raw text ↔ fingerprintCandidate raw.toList = text := by
  have hcandidate : fingerprintCandidate raw.toList =
      withoutSeparators
        (if sha256Prefix.isPrefixOf (lower (strip raw.toList)) then
          (lower (strip raw.toList)).drop sha256Prefix.length
        else lower (strip raw.toList)) := rfl
  rw [hcandidate]
  constructor
  · rintro ⟨start, body, hstrip, hstart, htext⟩
    rw [hstrip, lower_append]
    rcases hstart with hnil | hspelled
    · have hnot : ¬ sha256Prefix.isPrefixOf (lower body) = true := by
        intro hbegins
        rcases List.isPrefixOf_iff_prefix.mp hbegins with ⟨rest, hrest⟩
        apply hplain
        rw [← htext, mem_withoutSeparators, ← hrest]
        exact ⟨List.mem_append_left rest (by decide +kernel), by decide,
          by decide⟩
      rw [hnil]
      change withoutSeparators
        (if sha256Prefix.isPrefixOf (lower body) then _ else lower body) = text
      rw [if_neg hnot, htext]
    · have hbegins : sha256Prefix.isPrefixOf
          (sha256Prefix ++ lower body) = true :=
        List.isPrefixOf_iff_prefix.mpr (List.prefix_append _ _)
      rw [hspelled, if_pos hbegins, List.drop_left, htext]
  · intro htext
    by_cases hbegins : sha256Prefix.isPrefixOf (lower (strip raw.toList)) = true
    · rw [if_pos hbegins] at htext
      rcases List.isPrefixOf_iff_prefix.mp hbegins with ⟨rest, hrest⟩
      rcases lower_split (by decide) hrest.symm with
        ⟨start, body, hstrip, hstart, hbody⟩
      rw [← hrest, List.drop_left, ← hbody] at htext
      exact ⟨start, body, hstrip, Or.inr hstart, htext⟩
    · rw [if_neg hbegins] at htext
      exact ⟨[], strip raw.toList, rfl, Or.inl rfl, htext⟩

end Spelling

/-!
## What is accepted
-/

/-- What a fingerprint is normalized to is a digest, a text has such a form
when it spells a digest, and the form depends on nothing but the digest. -/
structure FingerprintLaw (raw : String) : Prop where
  refuses : forall error, normalizeFingerprint raw = Except.error error ->
    error.errorClass = ErrorClass.tlsValidation
  returns : forall fingerprint,
    normalizeFingerprint raw = Except.ok fingerprint ->
      IsDigest fingerprint.toList
  accepts : (exists fingerprint,
      normalizeFingerprint raw = Except.ok fingerprint) ↔
    exists digest, IsDigest digest ∧ Spells raw digest
  again : forall fingerprint,
    normalizeFingerprint raw = Except.ok fingerprint ->
      normalizeFingerprint fingerprint = Except.ok fingerprint
  spelling : forall other digest, IsDigest digest -> Spells raw digest ->
    Spells other digest ->
      normalizeFingerprint other = normalizeFingerprint raw

/-- A digest but for its last digit, in whose place there is a newline. -/
def SpellsNewline (raw : String) : Prop :=
  exists digits, digits.length + 1 = fingerprintHexLength ∧
    (forall c, c ∈ digits -> isHexDigit c = true) ∧
    Spells raw (digits ++ ['\n'])

section Accepting

variable {raw fingerprint : String} {text digits : List Char}

theorem plain_digits (h : forall c, c ∈ text -> isHexDigit c = true) :
    's' ∉ text := by
  intro hmem
  have hdigit := h 's' hmem
  cases hdigit

theorem plain_newline (h : forall c, c ∈ digits -> isHexDigit c = true) :
    's' ∉ digits ++ ['\n'] := by
  intro hmem
  rcases List.mem_append.mp hmem with hdigit | hnewline
  · exact plain_digits h hdigit
  · cases List.mem_singleton.mp hnewline

theorem isFingerprint_iff :
    isFingerprint raw = true ↔
      IsDigest (fingerprintCandidate raw.toList) ∨ SpellsNewline raw := by
  rw [isFingerprint, Bool.and_eq_true, decide_eq_true_iff, hexMatches_iff]
  constructor
  · rintro ⟨hlength, digits, hne, hall, htext | htext⟩
    · rw [← htext] at hall
      exact Or.inl ⟨hlength, hall⟩
    · rw [htext, List.length_append, List.length_singleton] at hlength
      exact Or.inr ⟨digits, hlength, hall,
        (spells_iff (plain_newline hall)).mpr htext⟩
  · rintro (⟨hlength, hall⟩ | ⟨digits, hlength, hall, hspells⟩)
    · refine ⟨hlength, _, ?_, hall, Or.inl rfl⟩
      intro hnil
      rw [hnil] at hlength
      cases hlength
    · have htext := (spells_iff (plain_newline hall)).mp hspells
      constructor
      · rw [htext, List.length_append, List.length_singleton, hlength]
      · refine ⟨digits, ?_, hall, Or.inr htext⟩
        intro hnil
        rw [hnil] at hlength
        cases hlength

theorem normalizeFingerprint_candidate
    (h : normalizeFingerprint raw = Except.ok fingerprint) :
    fingerprint = String.ofList (fingerprintCandidate raw.toList) := by
  rw [normalizeFingerprint] at h
  split at h
  · cases h
  · dsimp only at h
    split at h
    · cases h
    · exact (Except.ok.inj h).symm

theorem normalizeFingerprint_of_accepted (h : isFingerprint raw = true) :
    normalizeFingerprint raw =
      Except.ok (String.ofList (fingerprintCandidate raw.toList)) := by
  rcases (normalizeFingerprint_ok_iff raw).mpr h with ⟨fingerprint, hok⟩
  rw [hok, normalizeFingerprint_candidate hok]

theorem candidate_digest (h : forall c, c ∈ text -> isHexDigit c = true) :
    fingerprintCandidate text = text := by
  have hspells : Spells (String.ofList text) text := by
    refine ⟨[], text, ?_, Or.inl rfl, ?_⟩
    · rw [String.toList_ofList, strip_eq_self fun c hc =>
        isSpace_hexDigit (h c hc)]
      rfl
    · have hkeeps : forall {separator : Char}, isHexDigit separator = false ->
          (text.filter fun c => c ≠ separator) = text := by
        intro separator hseparator
        apply List.filter_eq_self.mpr
        intro c hc
        exact decide_eq_true (ne_hexDigit (h c hc) hseparator)
      rw [lower_digits fun c hc => Or.inl (h c hc), withoutSeparators,
        hkeeps rfl, hkeeps rfl]
  have hcandidate := (spells_iff (plain_digits h)).mp hspells
  rwa [String.toList_ofList] at hcandidate

theorem normalizeFingerprint_digest (h : IsDigest fingerprint.toList) :
    normalizeFingerprint fingerprint = Except.ok fingerprint := by
  have hcandidate := candidate_digest h.2
  have haccepted : isFingerprint fingerprint = true := by
    rw [isFingerprint_iff, hcandidate]
    exact Or.inl h
  rw [normalizeFingerprint_of_accepted haccepted, hcandidate,
    String.ofList_toList]

theorem normalizeFingerprint_spelled (h : IsDigest text)
    (hspells : Spells raw text) :
    normalizeFingerprint raw = Except.ok (String.ofList text) := by
  have hcandidate := (spells_iff (plain_digits h.2)).mp hspells
  have haccepted : isFingerprint raw = true := by
    rw [isFingerprint_iff, hcandidate]
    exact Or.inl h
  rw [normalizeFingerprint_of_accepted haccepted, hcandidate]

theorem newline_not_digest : ¬ IsDigest (digits ++ ['\n']) := by
  intro h
  have hnewline := h.2 '\n' (by simp)
  cases hnewline

/-- The one kind of text that is accepted and has no normal form. -/
theorem normalizeFingerprint_newline (h : SpellsNewline raw) :
    exists fingerprint, normalizeFingerprint raw = Except.ok fingerprint ∧
      ¬ IsDigest fingerprint.toList := by
  have haccepted : isFingerprint raw = true := isFingerprint_iff.mpr (Or.inr h)
  rcases h with ⟨digits, _, hall, hspells⟩
  refine ⟨_, normalizeFingerprint_of_accepted haccepted, ?_⟩
  rw [String.toList_ofList, (spells_iff (plain_newline hall)).mp hspells]
  exact newline_not_digest

/-- A fingerprint is normalized as it should be unless it has a newline in the
place of its last digit. -/
theorem normalizeFingerprint_law_iff (raw : String) :
    FingerprintLaw raw ↔ ¬ SpellsNewline raw := by
  constructor
  · intro hlaw hnewline
    rcases normalizeFingerprint_newline hnewline with ⟨fingerprint, hok, hnot⟩
    exact hnot (hlaw.returns fingerprint hok)
  · intro hnot
    have hdigest : forall fingerprint,
        normalizeFingerprint raw = Except.ok fingerprint ->
          fingerprint = String.ofList (fingerprintCandidate raw.toList) ∧
            IsDigest (fingerprintCandidate raw.toList) := by
      intro fingerprint hok
      have haccepted := (normalizeFingerprint_ok_iff raw).mp ⟨fingerprint, hok⟩
      rcases isFingerprint_iff.mp haccepted with hgood | hnewline
      · exact ⟨normalizeFingerprint_candidate hok, hgood⟩
      · exact absurd hnewline hnot
    have hreturns : forall fingerprint,
        normalizeFingerprint raw = Except.ok fingerprint ->
          IsDigest fingerprint.toList := by
      intro fingerprint hok
      rcases hdigest fingerprint hok with ⟨hsame, hgood⟩
      rw [hsame, String.toList_ofList]
      exact hgood
    constructor
    · exact fun error herror => normalizeFingerprint_error herror
    · exact hreturns
    · constructor
      · rintro ⟨fingerprint, hok⟩
        rcases hdigest fingerprint hok with ⟨_, hgood⟩
        exact ⟨_, hgood, (spells_iff (plain_digits hgood.2)).mpr rfl⟩
      · rintro ⟨digest, hgood, hspells⟩
        exact ⟨_, normalizeFingerprint_spelled hgood hspells⟩
    · exact fun fingerprint hok =>
        normalizeFingerprint_digest (hreturns fingerprint hok)
    · intro other digest hgood hspells hother
      rw [normalizeFingerprint_spelled hgood hspells,
        normalizeFingerprint_spelled hgood hother]

end Accepting

/-- As many digits as there should be but for one, a newline and a colon. -/
def newlineFingerprint : String :=
  String.ofList (List.replicate 63 'a' ++ ['\n', ':'])

theorem newlineFingerprint_accepted :
    normalizeFingerprint newlineFingerprint =
        Except.ok (String.ofList (List.replicate 63 'a' ++ ['\n'])) ∧
      ¬ FingerprintLaw newlineFingerprint := by
  have haccepted : normalizeFingerprint newlineFingerprint =
      Except.ok (String.ofList (List.replicate 63 'a' ++ ['\n'])) := by
    have hpasses : isFingerprint newlineFingerprint = true := by
      decide +kernel
    have hcandidate : fingerprintCandidate newlineFingerprint.toList =
        List.replicate 63 'a' ++ ['\n'] := by
      decide +kernel
    rw [normalizeFingerprint_of_accepted hpasses, hcandidate]
  constructor
  · exact haccepted
  · intro hlaw
    have hdigest := hlaw.returns _ haccepted
    rw [String.toList_ofList] at hdigest
    exact newline_not_digest hdigest

end Tls
end IntelAmt
