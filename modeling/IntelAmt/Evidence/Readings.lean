import IntelAmt.Evidence.Redactor

/-!
# What the rules read

The values that a rule finds, as texts of a language between two conditions on
what surrounds them: what they begin and end with, and that none of them can
lie in a token.
-/

namespace IntelAmt
namespace Evidence

open Foundation Errors

/-!
## Classes
-/

theorem isHex_alnum {c : Nat} (h : isHex c = true) : isAlnum c = true := by
  simp only [isHex, isAlnum, isLetter, Bool.or_eq_true, decide_eq_true_eq]
    at h ⊢
  have hf : 'F'.toNat ≤ 'Z'.toNat := by decide
  have hg : 'f'.toNat ≤ 'z'.toNat := by decide
  lia

theorem isDigit_hex {c : Nat} (h : isDigit c = true) : isHex c = true := by
  rw [isHex, h]
  rfl

theorem isLetter_alnum {c : Nat} (h : isLetter c = true) :
    isAlnum c = true := by
  rw [isAlnum, h, Bool.or_true]

theorem isAlnum_label {c : Nat} (h : isAlnum c = true) : isLabel c = true := by
  rw [isLabel, h]
  rfl

theorem not_dash_of_hex {c : Nat} (h : isHex c = true) : isDash c = false := by
  rw [isDash, decide_eq_false_iff_not]
  rintro rfl
  revert h
  decide

namespace Rule

theorem body_plain (rule : Rule) : rule.body.plain = true := by
  cases rule <;> rfl

theorem pattern_stopsAt (rule : Rule) {c : Nat}
    (hc : c = '<'.toNat ∨ c = '>'.toNat) :
    rule.pattern.stopsAt c = true := by
  rcases hc with rfl | rfl <;> cases rule <;> rfl

theorem body_stopsAt (rule : Rule) {c : Nat}
    (hc : c = '<'.toNat ∨ c = '>'.toNat) : rule.body.stopsAt c = true := by
  rcases hc with rfl | rfl <;> cases rule <;> rfl

theorem body_nonempty {rule : Rule} {text : List Nat}
    (h : text ∈ rule.body.language) : text ≠ [] := by
  rintro rfl
  have hnullable := Regex.nullable_of_nil h
  cases rule <;> cases hnullable

theorem bracket_notMem {rule : Rule} {text : List Nat}
    (h : text ∈ rule.body.language) {c : Nat}
    (hc : c = '<'.toNat ∨ c = '>'.toNat) : c ∉ text := by
  intro hmem
  have huses := Regex.uses_of_mem h hmem
  rw [Regex.uses_of_stopsAt rule.body_plain (rule.body_stopsAt hc)] at huses
  cases huses

/-!
## What follows
-/

/-- What must not follow a value at once. -/
def after : Rule -> Nat -> Bool
  | fingerprint, c => isHex c
  | digest, c => isAlnum c
  | mac, c => isAlnum c || isColon c || isDash c
  | uuid, c => isAlnum c || isDash c
  | compactUuid, c => isAlnum c
  | partialUuid, c => !isDash c
  | ipv4, c => isAlnum c || isDot c
  | ipv6, c => isHex c || isColon c || isDot c
  | fqdn, c => isAlnum c || isDot c || isDash c

/-- The rest of a text lets a value end here. -/
def Follows : Rule -> List Nat -> Prop
  | fingerprint, rest => rest.head?.any isHex = false ∧
      ¬ (rest.head?.any isColon = true ∧ rest.tail.head?.any isHex = true)
  | partialUuid, rest => points "-..." <+: rest
  | rule, rest => rest.head?.any rule.after = false

theorem starts_fingerprint {rest : List Nat} :
    (exists text, text ∈ (Regex.seq (Regex.optional colon) hex).language ∧
      text <+: rest) ↔
    rest.head?.any isHex = true ∨
      rest.head?.any isColon = true ∧ rest.tail.head?.any isHex = true := by
  constructor
  · rintro ⟨text, htext, later, rfl⟩
    rcases Language.mem_mul.mp htext with
      ⟨front, hfront, _, ⟨c, hc, rfl⟩, rfl⟩
    rcases hfront with ⟨d, hd, rfl⟩ | hempty
    · exact Or.inr ⟨hd, hc⟩
    · rw [hempty]
      exact Or.inl hc
  · rintro (hhex | ⟨hcolon, hhex⟩)
    · cases rest with
      | nil => cases hhex
      | cons c rest =>
          exact ⟨[c], Language.mem_mul.mpr
            ⟨[], Or.inr rfl, [c], ⟨c, hhex, rfl⟩, rfl⟩, rest, rfl⟩
    · rcases rest with _ | ⟨c, _ | ⟨d, rest⟩⟩
      · cases hcolon
      · cases hhex
      · exact ⟨[c, d], Language.mem_mul.mpr
          ⟨[c], Or.inl ⟨c, hcolon, rfl⟩, [d], ⟨d, hhex, rfl⟩, rfl⟩, rest, rfl⟩

theorem starts_ellipsis {rest : List Nat} :
    (exists text, text ∈ (Regex.concat [dash, dot, dot, dot]).language ∧
      text <+: rest) ↔ points "-..." <+: rest := by
  have hdots : points "-..." =
      ['-'.toNat, '.'.toNat, '.'.toNat, '.'.toNat] := rfl
  constructor
  · rintro ⟨text, htext, hstarts⟩
    rcases Language.mem_mul.mp htext with
      ⟨_, ⟨a, ha, rfl⟩, _, hone, rfl⟩
    rcases Language.mem_mul.mp hone with ⟨_, ⟨b, hb, rfl⟩, _, htwo, rfl⟩
    rcases Language.mem_mul.mp htwo with ⟨_, ⟨c, hc, rfl⟩, _, hthree, rfl⟩
    rcases Language.mem_mul.mp hthree with ⟨_, ⟨d, hd, rfl⟩, _, rfl, rfl⟩
    rw [of_decide_eq_true ha, of_decide_eq_true hb, of_decide_eq_true hc,
      of_decide_eq_true hd] at hstarts
    rw [hdots]
    exact hstarts
  · intro hstarts
    rw [hdots] at hstarts
    refine ⟨_, ?_, hstarts⟩
    exact Language.mem_mul.mpr ⟨['-'.toNat], ⟨_, rfl, rfl⟩, _,
      Language.mem_mul.mpr ⟨['.'.toNat], ⟨_, rfl, rfl⟩, _,
        Language.mem_mul.mpr ⟨['.'.toNat], ⟨_, rfl, rfl⟩, _,
          Language.mem_mul.mpr ⟨['.'.toNat], ⟨_, rfl, rfl⟩, [], rfl, rfl⟩,
          rfl⟩, rfl⟩, rfl⟩

theorem tail_asserts (rule : Rule) : rule.tail.Asserts rule.Follows := by
  cases rule with
  | fingerprint =>
      intro place next
      have hnone := Regex.asserts_notAhead
        (show (Regex.seq (Regex.optional colon) hex).plain = true from rfl)
        place next
      dsimp only at hnone
      rw [starts_fingerprint, not_or, Bool.not_eq_true] at hnone
      exact hnone
  | partialUuid =>
      intro place next
      have hsome := Regex.asserts_ahead
        (show (Regex.concat [dash, dot, dot, dot]).plain = true from rfl)
        place next
      dsimp only at hsome
      rw [starts_ellipsis] at hsome
      exact hsome
  | digest => exact Regex.asserts_notAhead_char _
  | mac => exact Regex.asserts_notAhead_char _
  | uuid => exact Regex.asserts_notAhead_char _
  | compactUuid => exact Regex.asserts_notAhead_char _
  | ipv4 => exact Regex.asserts_notAhead_char _
  | ipv6 => exact Regex.asserts_notAhead_char _
  | fqdn => exact Regex.asserts_notAhead_char _

theorem Follows.after {rule : Rule} {rest : List Nat}
    (h : rule.Follows rest) : rest.head?.any rule.after = false := by
  cases rule with
  | fingerprint => exact h.1
  | partialUuid =>
      rcases h with ⟨later, rfl⟩
      rfl
  | digest => exact h
  | mac => exact h
  | uuid => exact h
  | compactUuid => exact h
  | ipv4 => exact h
  | ipv6 => exact h
  | fqdn => exact h

theorem follows_iff {rule : Rule} (hone : rule ≠ fingerprint)
    (hother : rule ≠ partialUuid) {rest : List Nat} :
    rule.Follows rest ↔ rest.head?.any rule.after = false := by
  cases rule with
  | fingerprint => exact absurd rfl hone
  | partialUuid => exact absurd rfl hother
  | _ => exact Iff.rfl

theorem of_find {rule : Rule} {before rest : List Nat} {n : Nat}
    {groups : List (Nat × List Nat)}
    (h : rule.pattern.find before rest = some (n, groups)) :
    before.head?.any rule.behind = false ∧
      exists text later, text ∈ rule.body.language ∧ rest = text ++ later ∧
        n = text.length ∧ rule.Follows later :=
  Regex.of_find_guarded rule.body_plain rule.tail_asserts h

theorem find_isSome {rule : Rule} {before text later : List Nat}
    (hbehind : before.head?.any rule.behind = false)
    (htext : text ∈ rule.body.language) (hfollows : rule.Follows later) :
    (rule.pattern.find before (text ++ later)).isSome = true :=
  Regex.find_guarded_isSome rule.body_plain rule.tail_asserts hbehind htext
    hfollows

/-!
## Ends
-/

attribute [local simp] body Regex.first Regex.last Regex.nullable

/-- The rules whose values begin and end with a hexadecimal digit. -/
def OfHex (rule : Rule) : Prop := rule ≠ ipv6 ∧ rule ≠ fqdn

theorem first_octet {c : Nat} (h : octet.first c = true) :
    isHex c = true := by
  apply isDigit_hex
  simp only [octet, Regex.choice, Regex.concat, Regex.first, Regex.times,
    Regex.nullable, Regex.optional, digitIn, digit, Bool.or_eq_true,
    Bool.and_eq_true, decide_eq_true_eq, Bool.false_eq_true, false_and,
    or_false, isDigit] at h ⊢
  have hone : '0'.toNat ≤ '1'.toNat := by decide
  have htwo : '0'.toNat ≤ '2'.toNat := by decide
  have hsame : '2'.toNat ≤ '9'.toNat := by decide
  lia

theorem first_hex {rule : Rule} (hrule : rule.OfHex) {c : Nat}
    (h : rule.body.first c = true) : isHex c = true := by
  cases rule with
  | fingerprint =>
      simpa [body, Regex.first, Regex.times, Regex.nullable, hex] using h
  | digest =>
      simpa [body, Regex.first, Regex.times, Regex.nullable, hex] using h
  | mac =>
      simpa [body, Regex.first, Regex.times, Regex.nullable, hex] using h
  | uuid =>
      simpa [body, Regex.concat, Regex.first, Regex.times, Regex.nullable, hex]
        using h
  | compactUuid =>
      simpa [body, Regex.first, Regex.times, Regex.nullable, hex] using h
  | partialUuid =>
      simpa [body, Regex.concat, Regex.first, Regex.times, Regex.nullable, hex]
        using h
  | ipv4 =>
      apply first_octet
      rw [body, Regex.times, Regex.first, Regex.first, Regex.first] at h
      have hnullable : octet.nullable = false := rfl
      simpa [Regex.nullable, hnullable] using h
  | ipv6 => exact absurd rfl hrule.1
  | fqdn => exact absurd rfl hrule.2

theorem last_octet {c : Nat} (h : octet.last c = true) :
    isHex c = true := by
  apply isDigit_hex
  simp only [octet, Regex.choice, Regex.concat, Regex.last, Regex.times,
    Regex.nullable, Regex.optional, digitIn, digit, Bool.or_eq_true,
    Bool.and_eq_true, decide_eq_true_eq, Bool.false_eq_true, false_and,
    false_or, or_false, true_and, isDigit] at h ⊢
  have hzero : '0'.toNat ≤ '5'.toNat := by decide
  have hnine : '5'.toNat ≤ '9'.toNat := by decide
  lia

theorem last_hex {rule : Rule} (hrule : rule.OfHex) {c : Nat}
    (h : rule.body.last c = true) : isHex c = true := by
  cases rule with
  | fingerprint =>
      simpa [body, Regex.last, Regex.times, Regex.nullable, hex] using h
  | digest =>
      simpa [body, Regex.last, Regex.times, Regex.nullable, hex] using h
  | mac =>
      simpa [body, Regex.last, Regex.times, Regex.nullable, hex] using h
  | uuid =>
      simpa [body, Regex.concat, Regex.last, Regex.times, Regex.nullable, hex]
        using h
  | compactUuid =>
      simpa [body, Regex.last, Regex.times, Regex.nullable, hex] using h
  | partialUuid =>
      simpa [body, Regex.concat, Regex.last, Regex.times, Regex.nullable, hex]
        using h
  | ipv4 =>
      apply last_octet
      have hnullable : octet.nullable = false := rfl
      simpa [body, Regex.last, hnullable] using h
  | ipv6 => exact absurd rfl hrule.1
  | fqdn => exact absurd rfl hrule.2

theorem first_ipv6 {c : Nat} (h : ipv6.body.first c = true) :
    isHex c = true ∨ isColon c = true := by
  simp [body, Regex.choice, Regex.concat, Regex.first, Regex.times,
    Regex.between, Regex.upTo, Regex.nullable, groupColon, colonGroup, hex,
    colon] at h
  tauto

theorem last_ipv6 {c : Nat} (h : ipv6.body.last c = true) :
    isHex c = true ∨ isColon c = true := by
  simp [body, Regex.choice, Regex.concat, Regex.last, Regex.times,
    Regex.between, Regex.upTo, Regex.optional, Regex.nullable, groupColon,
    colonGroup, hex, colon] at h
  tauto

theorem first_fqdn {c : Nat} (h : fqdn.body.first c = true) :
    isLabel c = true := by
  have hletter : isLetter c = true -> isLabel c = true :=
    fun h => isAlnum_label (isLetter_alnum h)
  simp [body, Regex.concat, Regex.first, Regex.times, Regex.atLeast,
    Regex.nullable, label, letter] at h
  tauto

theorem last_fqdn {c : Nat} (h : fqdn.body.last c = true) :
    isLetter c = true := by
  simpa [body, Regex.concat, Regex.last, Regex.times, Regex.atLeast,
    Regex.nullable, letter] using h

theorem behind_of_hex (rule : Rule) {c : Nat} (h : isHex c = true) :
    rule.behind c = true := by
  have halnum := isHex_alnum h
  have hlabel := isAlnum_label halnum
  cases rule <;> simp [behind, h, halnum, hlabel]

theorem after_of_hex (rule : Rule) {c : Nat} (h : isHex c = true) :
    rule.after c = true := by
  have halnum := isHex_alnum h
  have hdash := not_dash_of_hex h
  cases rule <;> simp [after, h, halnum, hdash]

end Rule

/-!
## Tokens
-/

/-- More tokens than are ever handed out: their numbers look like a value. -/
def tokenLimit : Nat := 10 ^ 31

/-- A token without its brackets. -/
def tokenInner (category : Category) (n : Nat) : List Nat :=
  points "redacted" ++ '-'.toNat ::
    (points category.name ++ '-'.toNat :: (Nat.toDigits 10 n).map Char.toNat)

theorem tokenText_eq (category : Category) (n : Nat) :
    tokenText category n =
      '<'.toNat :: (tokenInner category n ++ ['>'.toNat]) := by
  have hfront : points "<redacted-" =
      '<'.toNat :: (points "redacted" ++ ['-'.toNat]) := rfl
  have hdash : points "-" = ['-'.toNat] := rfl
  have hback : points ">" = ['>'.toNat] := rfl
  rw [tokenText, tokenInner, hfront, hdash, hback]
  simp only [List.append_assoc, List.cons_append, List.nil_append]

theorem isDigit_of_toDigits {n c : Nat}
    (h : c ∈ (Nat.toDigits 10 n).map Char.toNat) : isDigit c = true := by
  rcases List.mem_map.mp h with ⟨digit, hdigit, rfl⟩
  have hrange := Nat.isDigit_of_mem_toDigits (by decide) (by decide) hdigit
  simp only [Char.isDigit, Bool.and_eq_true, decide_eq_true_eq] at hrange
  exact decide_eq_true ⟨hrange.1, hrange.2⟩

/-- A character of the name of a category. -/
def isNameChar (c : Nat) : Bool := isLetter c || isDigit c || c = '_'.toNat

theorem name_chars (category : Category) :
    forall c, c ∈ points category.name -> isNameChar c = true := by
  cases category <;> decide

theorem name_length (category : Category) :
    (points category.name).length ≤ 12 := by
  cases category <;> decide

theorem not_dash_of_name {c : Nat} (h : isNameChar c = true) :
    isDash c = false := by
  rw [isDash, decide_eq_false_iff_not]
  rintro rfl
  revert h
  decide

theorem isNameChar_of_digit {c : Nat} (h : isDigit c = true) :
    isNameChar c = true := by
  rw [isNameChar, h, Bool.or_true]
  rfl

theorem tokenInner_chars {category : Category} {n c : Nat}
    (h : c ∈ tokenInner category n) :
    isNameChar c = true ∨ isDash c = true := by
  have hword : forall c, c ∈ points "redacted" -> isNameChar c = true := by
    decide
  rcases List.mem_append.mp h with hfront | hrest
  · exact Or.inl (hword c hfront)
  · rcases List.mem_cons.mp hrest with rfl | hrest
    · exact Or.inr rfl
    · rcases List.mem_append.mp hrest with hname | hrest
      · exact Or.inl (name_chars category c hname)
      · rcases List.mem_cons.mp hrest with rfl | hdigits
        · exact Or.inr rfl
        · exact Or.inl (isNameChar_of_digit (isDigit_of_toDigits hdigits))

theorem not_point_of_inner {category : Category} {n c : Nat}
    (h : c ∈ tokenInner category n) :
    c ≠ '.'.toNat ∧ c ≠ ':'.toNat ∧ c ≠ '<'.toNat ∧ c ≠ '>'.toNat := by
  refine ⟨?_, ?_, ?_, ?_⟩ <;>
  · rintro rfl
    have hchars := tokenInner_chars h
    revert hchars
    decide

theorem countP_dash_of_name {text : List Nat}
    (h : forall c, c ∈ text -> isNameChar c = true) :
    text.countP isDash = 0 := by
  apply List.countP_eq_zero.mpr
  intro c hc hdash
  rw [not_dash_of_name (h c hc)] at hdash
  cases hdash

theorem countP_dash_inner (category : Category) (n : Nat) :
    (tokenInner category n).countP isDash = 2 := by
  have hword : (points "redacted").countP isDash = 0 := by decide
  have hdash : isDash '-'.toNat = true := rfl
  rw [tokenInner, List.countP_append, hword, List.countP_cons_of_pos hdash,
    List.countP_append, countP_dash_of_name (name_chars category),
    List.countP_cons_of_pos hdash, countP_dash_of_name fun c hc =>
      isNameChar_of_digit (isDigit_of_toDigits hc)]

theorem length_in_token {category : Category} {n : Nat} (hn : n < tokenLimit)
    {text : List Nat} (hdash : '-'.toNat ∉ text)
    (h : text <:+: tokenInner category n) : text.length ≤ 31 := by
  have hdigits : (Nat.toDigits 10 n).length ≤ 31 :=
    (Nat.length_toDigits_le_iff (by decide) (by decide)).mpr hn
  have hword : (points "redacted").length = 8 := rfl
  have hname := name_length category
  rcases infix_side hdash h with hfront | hrest
  · have := hfront.length_le
    lia
  · rcases infix_side hdash hrest with hmiddle | hback
    · have := hmiddle.length_le
      lia
    · have := hback.length_le
      rw [List.length_map] at this
      lia

namespace Rule

/-- A dot or a colon. -/
def isPoint (c : Nat) : Bool := isDot c || isColon c

theorem counts_point_colon : Regex.Counts isPoint 1 colon :=
  Regex.counts_char fun c hc => by rw [isPoint, hc, Bool.or_true]

theorem counts_point_dot : Regex.Counts isPoint 1 dot :=
  Regex.counts_char fun c hc => by
    rw [isPoint, hc]
    rfl

theorem counts_point_groupColon : Regex.Counts isPoint 1 groupColon :=
  Regex.counts_seq (Regex.counts_zero _) counts_point_colon

theorem counts_point_colonGroup : Regex.Counts isPoint 1 colonGroup :=
  Regex.counts_seq counts_point_colon (Regex.counts_zero _)

theorem counts_point_groups (front : Regex Nat) (n : Nat) :
    Regex.Counts isPoint 1
      (Regex.seq front (Regex.between 1 (n + 1) colonGroup)) := by
  have hgroups : Regex.Counts isPoint (1 * 1 + 0)
      (Regex.between 1 (n + 1) colonGroup) :=
    Regex.counts_seq (Regex.counts_times counts_point_colonGroup 1)
      (Regex.counts_zero _)
  exact Regex.counts_seq (m := 0) (Regex.counts_zero _) hgroups

theorem counts_point_ipv6 : Regex.Counts isPoint 1 ipv6.body := by
  have hseven : Regex.Counts isPoint (7 * 1 + 0)
      (Regex.seq (Regex.times 7 groupColon) (Regex.between 1 4 hex)) :=
    Regex.counts_seq (Regex.counts_times counts_point_groupColon 7)
      (Regex.counts_zero _)
  refine Regex.counts_alt
    (fun text htext => Nat.le_trans (by decide) (hseven text htext)) ?_
  refine Regex.counts_alt (Regex.counts_seq (m := 0) (Regex.counts_zero _)
    counts_point_colon) ?_
  refine Regex.counts_alt (Regex.counts_seq (m := 0) (Regex.counts_zero _)
    counts_point_colonGroup) ?_
  refine Regex.counts_alt (counts_point_groups _ 1) ?_
  refine Regex.counts_alt (counts_point_groups _ 2) ?_
  refine Regex.counts_alt (counts_point_groups _ 3) ?_
  refine Regex.counts_alt (counts_point_groups _ 4) ?_
  refine Regex.counts_alt (counts_point_groups _ 5) ?_
  exact Regex.counts_seq counts_point_colon (Regex.counts_zero _)

theorem counts_point {rule : Rule}
    (h : rule = fingerprint ∨ rule = ipv4 ∨ rule = ipv6 ∨ rule = fqdn)
    {text : List Nat} (htext : text ∈ rule.body.language) :
    0 < text.countP isPoint := by
  rcases h with rfl | rfl | rfl | rfl
  · have hpair : Regex.Counts isPoint (0 + 1)
        (Regex.seq (Regex.times 2 hex) colon) :=
      Regex.counts_seq (Regex.counts_zero _) counts_point_colon
    exact Nat.lt_of_lt_of_le (by decide) (Regex.counts_seq
      (Regex.counts_times hpair 31) (Regex.counts_zero _) text htext)
  · have hgroup : Regex.Counts isPoint (0 + 1) (Regex.seq octet dot) :=
      Regex.counts_seq (Regex.counts_zero _) counts_point_dot
    exact Nat.lt_of_lt_of_le (by decide) (Regex.counts_seq
      (Regex.counts_times hgroup 3) (Regex.counts_zero _) text htext)
  · exact counts_point_ipv6 text htext
  · exact Nat.lt_of_lt_of_le (by decide) (Regex.counts_seq (m := 0)
      (Regex.counts_zero _) (Regex.counts_seq (m := 0) (Regex.counts_zero _)
        (Regex.counts_seq (m := 0) (Regex.counts_zero _)
          (Regex.counts_seq (m := 0) (Regex.counts_zero _)
            (Regex.counts_seq counts_point_dot
              (Regex.counts_zero _))))) text htext)

theorem counts_separator {text : List Nat}
    (h : text ∈ mac.body.language) :
    5 ≤ text.countP fun c => isColon c || isDash c := by
  have hpair : Regex.Counts (fun c => isColon c || isDash c) (0 + 1)
      (Regex.seq (Regex.times 2 hex)
        (Regex.char fun c => isColon c || isDash c)) :=
    Regex.counts_seq (Regex.counts_zero _) (Regex.counts_char fun _ hc => hc)
  exact Regex.counts_seq (Regex.counts_times hpair 5) (Regex.counts_zero _)
    text h

theorem counts_dash {text : List Nat} (h : text ∈ uuid.body.language) :
    4 ≤ text.countP isDash := by
  have hdash : Regex.Counts isDash 1 dash := Regex.counts_char fun _ hc => hc
  have hmore : forall {n k : Nat} {rest : Regex Nat},
      Regex.Counts isDash n rest ->
        Regex.Counts isDash (0 + (1 + n))
          (Regex.seq (Regex.times k hex) (Regex.seq dash rest)) :=
    fun hrest => Regex.counts_seq (Regex.counts_zero _)
      (Regex.counts_seq hdash hrest)
  exact Nat.le_trans (by decide) (hmore (hmore (hmore (hmore
    (Regex.counts_zero _)))) text h)

/-- No value lies in a token, but for a truncated one that something else has
to follow. -/
theorem not_in_token {rule : Rule} (hrule : rule ≠ partialUuid)
    {category : Category} {n : Nat} (hn : n < tokenLimit) {text : List Nat}
    (htext : text ∈ rule.body.language) :
    ¬ text <:+: tokenInner category n := by
  intro hpart
  have hpoint : (rule = fingerprint ∨ rule = ipv4 ∨ rule = ipv6 ∨
      rule = fqdn) -> False := by
    intro h
    rcases List.countP_pos_iff.mp (counts_point h htext) with ⟨c, hc, hq⟩
    have hnot := not_point_of_inner (hpart.subset hc)
    rw [isPoint, isDot, isColon, Bool.or_eq_true, decide_eq_true_eq,
      decide_eq_true_eq] at hq
    exact hq.elim hnot.1 hnot.2.1
  have hlong : forall k, 31 < k -> text ∉ (Regex.times k hex).language := by
    intro k hk hmem
    rcases Regex.mem_times_char.mp hmem with ⟨hlength, hall⟩
    have hdash : '-'.toNat ∉ text := by
      intro hc
      have hhex := not_dash_of_hex (hall _ hc)
      revert hhex
      decide
    have hshort := length_in_token hn hdash hpart
    lia
  have hdashes : forall c, c ∈ text -> (isColon c || isDash c) = isDash c := by
    intro c hc
    have hnot := not_point_of_inner (hpart.subset hc)
    rw [isColon, decide_eq_false hnot.2.1, Bool.false_or]
  have htwo : text.countP isDash ≤ 2 :=
    countP_dash_inner category n ▸ hpart.sublist.countP_le
  cases rule with
  | fingerprint => exact hpoint (Or.inl rfl)
  | ipv4 => exact hpoint (Or.inr (Or.inl rfl))
  | ipv6 => exact hpoint (Or.inr (Or.inr (Or.inl rfl)))
  | fqdn => exact hpoint (Or.inr (Or.inr (Or.inr rfl)))
  | digest => exact hlong 64 (by decide) htext
  | compactUuid => exact hlong 32 (by decide) htext
  | mac =>
      have hfive := counts_separator htext
      rw [List.countP_congr fun c hc => by rw [hdashes c hc]] at hfive
      lia
  | uuid =>
      have hfour := counts_dash htext
      lia
  | partialUuid => exact hrule rfl

end Rule

end Evidence
end IntelAmt
