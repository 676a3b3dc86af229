import IntelAmt.Evidence.Documents

/-!
# Identifying keys

The string of an identifying key is replaced as a whole, unless a rule has
replaced a part of it: then the key is not looked at any more, and what the rule
has left of the string stays.
-/

namespace IntelAmt
namespace Evidence

open Foundation Errors

/-!
## What a token looks like
-/

/-- A text in brackets. -/
def Bracketed (text : List Nat) : Prop :=
  exists inner, '<'.toNat ∉ inner ∧ '>'.toNat ∉ inner ∧
    text = '<'.toNat :: (inner ++ ['>'.toNat])

theorem tokenPattern_plain : tokenPattern.plain = true := rfl

theorem mem_tokenPattern {text : List Nat} :
    isToken text = true ↔ exists name digits,
      1 ≤ name.length ∧ (forall c, c ∈ name ->
        (decide ('a'.toNat ≤ c ∧ c ≤ 'z'.toNat) || isDigit c ||
          c = '_'.toNat) = true) ∧
      1 ≤ digits.length ∧ (forall c, c ∈ digits -> isDecimal c = true) ∧
      text = points "<redacted-" ++ (name ++
        '-'.toNat :: (digits ++ points ">")) := by
  rw [isToken, Regex.fullMatch_iff tokenPattern_plain]
  constructor
  · intro h
    rcases Language.mem_mul.mp h with ⟨front, hfront, _, hrest, rfl⟩
    rcases Language.mem_mul.mp hrest with ⟨name, hname, _, hmore, rfl⟩
    rcases Language.mem_mul.mp hmore with ⟨_, ⟨c, hc, rfl⟩, _, hlast, rfl⟩
    rcases Language.mem_mul.mp hlast with ⟨digits, hdigits, _, hclose, rfl⟩
    rcases Language.mem_mul.mp hclose with ⟨back, hback, _, rfl, rfl⟩
    rw [Regex.mem_exactly.mp hfront, Regex.mem_exactly.mp hback,
      of_decide_eq_true hc]
    rw [Regex.mem_atLeast_char] at hname hdigits
    exact ⟨name, digits, hname.1, hname.2, hdigits.1, hdigits.2, rfl⟩
  · rintro ⟨name, digits, hname, hnames, hdigits, hall, rfl⟩
    exact Language.mem_mul.mpr ⟨_, Regex.mem_exactly.mpr rfl, _,
      Language.mem_mul.mpr ⟨name, Regex.mem_atLeast_char.mpr ⟨hname, hnames⟩, _,
        Language.mem_mul.mpr ⟨['-'.toNat], ⟨_, rfl, rfl⟩, _,
          Language.mem_mul.mpr
            ⟨digits, Regex.mem_atLeast_char.mpr ⟨hdigits, hall⟩, _,
              Language.mem_mul.mpr
                ⟨_, Regex.mem_exactly.mpr rfl, [], rfl, rfl⟩, rfl⟩,
          rfl⟩, rfl⟩, rfl⟩

theorem bracketed_tokenText (category : Category) (n : Nat) :
    Bracketed (tokenText category n) :=
  ⟨tokenInner category n, fun h => (not_point_of_inner h).2.2.1 rfl,
    fun h => (not_point_of_inner h).2.2.2 rfl, tokenText_eq category n⟩

theorem bracketed_of_isToken {text : List Nat} (h : isToken text = true) :
    Bracketed text := by
  rcases mem_tokenPattern.mp h with ⟨name, digits, _, hname, _, hdigits, rfl⟩
  have hout : forall c, c = '<'.toNat ∨ c = '>'.toNat ->
      c ∉ points "redacted-" ++ (name ++ '-'.toNat :: digits) := by
    intro c hc hmem
    have hclass : (decide ('a'.toNat ≤ c ∧ c ≤ 'z'.toNat) || isDigit c ||
        c = '_'.toNat) = false ∧ isDecimal c = false ∧
        c ∉ points "redacted-" ∧ c ≠ '-'.toNat := by
      rcases hc with rfl | rfl <;> decide
    rcases List.mem_append.mp hmem with hword | hmem
    · exact hclass.2.2.1 hword
    · rcases List.mem_append.mp hmem with hmem | hmem
      · exact Bool.noConfusion ((hname c hmem).symm.trans hclass.1)
      · rcases List.mem_cons.mp hmem with heq | hmem
        · exact hclass.2.2.2 heq
        · exact Bool.noConfusion ((hdigits c hmem).symm.trans hclass.2.1)
  have hfront : points "<redacted-" = '<'.toNat :: points "redacted-" := rfl
  have hback : points ">" = ['>'.toNat] := rfl
  refine ⟨_, hout _ (Or.inl rfl), hout _ (Or.inr rfl), ?_⟩
  rw [hfront, hback]
  simp only [List.append_assoc, List.cons_append]

theorem isToken_tokenText (category : Category) (n : Nat) :
    isToken (tokenText category n) = true := by
  have hname : forall c, c ∈ points category.name ->
      (decide ('a'.toNat ≤ c ∧ c ≤ 'z'.toNat) || isDigit c ||
        c = '_'.toNat) = true := by
    cases category <;> decide
  have hlength : 1 ≤ (points category.name).length := by
    cases category <;> decide
  have hdecimal : forall c, isDigit c = true -> isDecimal c = true := by
    intro c hc
    have hrange := of_decide_eq_true hc
    have hnine : '9'.toNat < 128 := by decide
    rw [isDecimal, Json.asciiPoint, if_pos (by lia)]
    exact hc
  have hdash : points "-" = ['-'.toNat] := rfl
  refine mem_tokenPattern.mpr ⟨points category.name,
    (Nat.toDigits 10 n).map Char.toNat, hlength, hname, ?_, ?_, ?_⟩
  · rw [List.length_map]
    exact Nat.length_toDigits_pos
  · exact fun c hc => hdecimal c (isDigit_of_toDigits hc)
  · rw [tokenText, hdash]
    simp only [List.append_assoc, List.cons_append, List.nil_append]

/-!
## Marked texts that are one token
-/

section Render

variable {token : List Nat -> Rule -> List Nat} {marks : List Mark}

theorem render_ne_nil (hgood : forall mark, mark ∈ marks -> Good token mark)
    (hne : marks ≠ []) : render token marks ≠ [] := by
  rcases List.exists_cons_of_ne_nil hne with ⟨mark, more, rfl⟩
  rw [render_cons]
  cases mark with
  | kept c => exact List.cons_ne_nil _ _
  | found value rule =>
      rcases hgood _ List.mem_cons_self with ⟨category, n, htoken, _⟩
      rw [Piece.render, htoken, tokenText_eq]
      exact List.cons_ne_nil _ _

theorem eq_singleton_of_bracketed
    (hgood : forall mark, mark ∈ marks -> Good token mark)
    (h : Bracketed (render token marks)) {value : List Nat} {rule : Rule}
    (hfound : Piece.found value rule ∈ marks) :
    marks = [Piece.found value rule] := by
  rcases List.append_of_mem hfound with ⟨front, back, rfl⟩
  rw [List.forall_mem_append, List.forall_mem_cons] at hgood
  rcases hgood with ⟨hfront, ⟨category, n, htoken, _⟩, hback⟩
  rcases h with ⟨inner, hopen, hclose, heq⟩
  rw [render_append, render_cons, Piece.render, htoken, tokenText_eq] at heq
  have hbefore : front = [] := by
    by_contra hne
    rcases List.exists_cons_of_ne_nil (render_ne_nil hfront hne) with
      ⟨c, more, hmore⟩
    rw [hmore, List.cons_append, List.cons.injEq] at heq
    have hmem : '<'.toNat ∈ inner ++ ['>'.toNat] := by
      rw [← heq.2]
      exact List.mem_append_right _ List.mem_cons_self
    rcases List.mem_append.mp hmem with hmem | hmem
    · exact hopen hmem
    · revert hmem
      decide
  have hbehind : back = [] := by
    by_contra hne
    rcases List.eq_nil_or_concat (render token back) with hnil | ⟨more, c, hmore⟩
    · exact render_ne_nil hback hne hnil
    · rw [hbefore, hmore, List.concat_eq_append] at heq
      have hinner : tokenInner category n ++ ['>'.toNat] ++ (more ++ [c]) =
          inner ++ ['>'.toNat] := (List.cons.inj heq).2
      rw [← List.append_assoc] at hinner
      have hpart := (List.append_inj' hinner rfl).1
      apply hclose
      rw [← hpart, List.append_assoc]
      exact List.mem_append_right _ List.mem_cons_self
  rw [hbefore, hbehind, List.nil_append]

end Render

/-!
## Strings that are replaced as a whole
-/

/-- No rule replaces anything in a text. -/
def Unmarked (text : List Nat) : Prop := forall rule, Untouched rule text

/-- The first rule that replaces anything in a text replaces all of it. -/
def Whole (text : List Nat) : Prop :=
  exists earlier rule later, rules = earlier ++ rule :: later ∧
    (forall other, other ∈ earlier -> Untouched other text) ∧
    scan rule.findText [] 0 text = [Piece.found text (some rule)]

theorem findMark_map_kept (rule : Rule) (before rest : List Nat) :
    rule.findMark (before.map Piece.kept) (rest.map Piece.kept) =
      rule.findText before rest := by
  rw [Rule.findMark, map_shadow_kept, map_shadow_kept]

theorem markRule_map_kept (text : List Nat) (rule : Rule) :
    markRule (text.map Piece.kept) rule =
      (scan rule.findText [] 0 text).flatMap Piece.placed :=
  stage_map_kept (findMark_map_kept rule) text

theorem markRule_untouched {text : List Nat} {rule : Rule} :
    markRule (text.map Piece.kept) rule = text.map Piece.kept ↔
      Untouched rule text := by
  have hkept : render (fun _ _ => []) (text.map (@Piece.kept Nat Rule)) = text :=
    render_map_kept text
  have hrender := @untouched_render (fun _ _ => []) (text.map Piece.kept)
    (fun mark hmark => by
      rcases List.mem_map.mp hmark with ⟨c, _, rfl⟩
      trivial) rule
  rw [hkept] at hrender
  exact hrender.symm

theorem markRule_found (value : List Nat) (found rule : Rule) :
    markRule [Piece.found value found] rule = [Piece.found value found] := by
  rw [markRule, stage]
  rcases scan_cases rule.findMark [] (Piece.found value found) [] with
    ⟨n, result, hsome, _⟩ | ⟨_, heq⟩
  · rcases rule.findMark_onKept _ _ _ _ hsome with ⟨run, rest, hlength, hrun⟩
    cases run with
    | nil => cases hlength
    | cons c run => cases hrun
  · rw [heq]
    rfl

theorem foldl_markRule_found (some : List Rule) (value : List Nat)
    (found : Rule) : some.foldl markRule [Piece.found value found] =
      [Piece.found value found] := by
  induction some with
  | nil => rfl
  | cons rule some ih => rw [List.foldl_cons, markRule_found, ih]

theorem foldl_markRule_cut (some : List Rule) (marks : List Mark) :
    Cut (· ∈ some) marks (some.foldl markRule marks) := by
  induction some generalizing marks with
  | nil => exact Cut.refl marks
  | cons rule some ih =>
      have hone : Cut (· ∈ rule :: some) marks (markRule marks rule) :=
        (markRule_cut marks rule).mono
          fun other hother => hother ▸ List.mem_cons_self
      exact hone.trans ((ih _).mono fun other => List.mem_cons_of_mem rule)

theorem sourceOf_foldl (some : List Rule) (text : List Nat) :
    sourceOf (some.foldl markRule (text.map Piece.kept)) = text :=
  (foldl_markRule_cut some _).sourceOf_eq.trans (sourceOf_map_kept text)

/-- By induction on the rules: while nothing is found the marks are those of
the text, and what is found stays found. -/
theorem untouched_of_foldl (some : List Rule) {text : List Nat}
    (h : forall value rule,
      Piece.found value rule ∉ some.foldl markRule (text.map Piece.kept)) :
    forall rule, rule ∈ some -> Untouched rule text := by
  induction some with
  | nil => exact fun _ hmem => absurd hmem List.not_mem_nil
  | cons rule some ih =>
      rw [List.foldl_cons] at h
      have hnone : forall value other,
          Piece.found value other ∉ markRule (text.map Piece.kept) rule :=
        fun value other hfound =>
          h value other ((foldl_markRule_cut some _).subset_found hfound)
      have hsource := sourceOf_foldl [rule] text
      have hsame := eq_map_kept hnone
      rw [List.foldl_cons, List.foldl_nil] at hsource
      rw [hsource] at hsame
      rw [hsame] at h
      exact List.forall_mem_cons.mpr ⟨markRule_untouched.mp hsame, ih h⟩

theorem foldl_untouched {some : List Rule} {text : List Nat}
    (h : forall rule, rule ∈ some -> Untouched rule text) :
    some.foldl markRule (text.map Piece.kept) = text.map Piece.kept := by
  induction some with
  | nil => rfl
  | cons rule some ih =>
      rw [List.forall_mem_cons] at h
      rw [List.foldl_cons, markRule_untouched.mpr h.1, ih h.2]

theorem exists_found {text : List Nat} (h : ¬ Unmarked text) :
    exists value rule, Piece.found value rule ∈ markText text := by
  by_contra hnone
  rw [not_exists] at hnone
  exact h fun rule => untouched_of_foldl rules
    (fun value other hfound => hnone value ⟨other, hfound⟩) rule
    (mem_rules rule)

/-- By induction on the rules: the first one that finds something has found the
only value there is. -/
theorem whole_of_foldl (some : List Rule) {text : List Nat} {found : Rule}
    (h : some.foldl markRule (text.map Piece.kept) =
      [Piece.found text found]) :
    exists earlier rule later, some = earlier ++ rule :: later ∧
      (forall other, other ∈ earlier -> Untouched other text) ∧
      scan rule.findText [] 0 text = [Piece.found text (Option.some rule)] := by
  induction some with
  | nil =>
      cases text with
      | nil => cases h
      | cons c rest => cases h
  | cons rule some ih =>
      by_cases huntouched : Untouched rule text
      · rw [List.foldl_cons, markRule_untouched.mpr huntouched] at h
        rcases ih h with ⟨earlier, other, later, rfl, hearlier, hscan⟩
        exact ⟨rule :: earlier, other, later, rfl,
          List.forall_mem_cons.mpr ⟨huntouched, hearlier⟩, hscan⟩
      · rw [List.foldl_cons] at h
        have hcut := foldl_markRule_cut some
          (markRule (text.map Piece.kept) rule)
        rw [h] at hcut
        have hmarks : markRule (text.map Piece.kept) rule =
            [Piece.found text found] := by
          rcases hcut.of_found with ⟨rest, heq, hrest⟩ |
            ⟨_, _, rest, heq, hrest⟩
          · rw [heq, hrest.of_nil]
          · rw [hrest.of_nil, List.append_nil] at heq
            exact absurd (markRule_untouched.mp heq) huntouched
        rw [markRule_map_kept] at hmarks
        have hscan := scan_eq_singleton hmarks
        have hread := read_of_scan (hscan ▸ List.mem_singleton_self _)
        have hrule : found = rule := by
          rcases hread with ⟨_, hvalue⟩
          split at hvalue
          · exact Option.some.inj hvalue
          · cases hvalue
        exact ⟨[], rule, some, rfl,
          fun _ hmem => absurd hmem List.not_mem_nil, hrule ▸ hscan⟩

/-- A text is replaced as a whole if it is the only value found in it. -/
theorem whole_iff {text : List Nat} :
    Whole text ↔ exists rule, markText text = [Piece.found text rule] := by
  constructor
  · rintro ⟨earlier, rule, later, hrules, hearlier, hscan⟩
    refine ⟨rule, ?_⟩
    rw [markText, hrules, List.foldl_append, foldl_untouched hearlier,
      List.foldl_cons, markRule_map_kept, hscan]
    exact foldl_markRule_found later text rule
  · rintro ⟨rule, hmarks⟩
    exact whole_of_foldl rules hmarks

/-!
## Strings under their keys
-/

theorem isExempt_of_identifying {key : List Nat} {category : Category}
    (h : identifying key = some category) : isExempt key = false := by
  rcases Option.map_eq_some_iff.mp h with ⟨entry, hentry, _⟩
  have hkey : points entry.1 = lower key :=
    of_decide_eq_true (List.find?_some (p := fun entry : String × Category =>
      decide (points entry.1 = lower key)) hentry)
  have hall : forall entry, entry ∈ identifyingKeys ->
      (exemptKeys.any fun exempt => points exempt = points entry.1) = false := by
    decide
  rw [isExempt, ← hkey]
  exact hall entry (List.mem_of_find?_eq_some hentry)

namespace Redactor

/-- A later state of the redactor. -/
structure Leads (redactor later : Redactor) : Prop where
  extends_ : redactor.Extends later
  sound : redactor.Sound -> later.Sound

theorem Leads.refl (redactor : Redactor) : redactor.Leads redactor :=
  ⟨Extends.refl redactor, fun h => h⟩

theorem Leads.trans {first second third : Redactor} (h : first.Leads second)
    (hlater : second.Leads third) : first.Leads third :=
  ⟨h.extends_.trans hlater.extends_, fun hsound =>
    hlater.sound (h.sound hsound)⟩

section Strings

variable {redactor : Redactor} {key : Option (List Nat)} {text : List Nat}

theorem redactString_exempt (h : key.any isExempt = true) :
    redactor.redactString key text = (redactor, text) :=
  if_pos h

theorem redactString_marked (hsound : redactor.Sound)
    (hkey : key.any isExempt = false) (h : ¬ Unmarked text) :
    redactor.redactString key text = redactor.redactText text := by
  have hne := mt (redactText_eq_iff hsound text).mp h
  rw [redactString, if_neg (Bool.eq_false_iff.mp hkey)]
  exact if_pos hne

theorem redactString_unmarked (hkey : key.any isExempt = false)
    (h : Unmarked text) :
    redactor.redactString key text =
      match key.bind identifying with
      | some category =>
          if text ≠ [] ∧ isToken text = false then
            redactor.tokenFor category text
          else (redactor, text)
      | none => (redactor, text) := by
  rw [redactString, if_neg (Bool.eq_false_iff.mp hkey),
    redactText_untouched h]
  refine (if_neg (not_not_intro rfl)).trans ?_
  cases key.bind identifying <;> rfl

theorem redactString_leads (hsound : redactor.Sound)
    (hfew : Few redactor text.length) :
    redactor.Leads (redactor.redactString key text).1 ∧
      forall category, (redactor.redactString key text).1.counts category ≤
        redactor.counts category + text.length := by
  have hsame : redactor.Leads redactor ∧ forall category,
      redactor.counts category ≤ redactor.counts category + text.length :=
    ⟨Leads.refl redactor, fun _ => Nat.le_add_right _ _⟩
  cases hkey : key.any isExempt with
  | true =>
      rw [redactString_exempt hkey]
      exact hsame
  | false =>
      by_cases h : Unmarked text
      · rw [redactString_unmarked hkey h]
        cases key.bind identifying with
        | none => exact hsame
        | some category =>
            dsimp only
            by_cases hnew : text ≠ [] ∧ isToken text = false
            · have hhanded := tokenFor_handed hsound category text
              have hlength := List.length_pos_iff.mpr hnew.1
              rw [if_pos hnew]
              refine ⟨⟨hhanded.extends_, fun _ => hhanded.sound⟩, ?_⟩
              intro other
              have hcounts := hhanded.counts other
              lia
            · rw [if_neg hnew]
              exact hsame
      · have htracks := redactText_tracks hsound hfew
        have hvalues := values_le htracks.solid
        rw [htracks.source] at hvalues
        rw [redactString_marked hsound hkey h]
        refine ⟨⟨htracks.extends_, fun _ => htracks.sound⟩, ?_⟩
        intro category
        have hcounts := htracks.counts category
        lia

end Strings

end Redactor

/-- The redactor has put a token in the place of a value, or the value is one
already. -/
def Hidden (redactor : Redactor) (value shown : List Nat) : Prop :=
  (isToken value = true ∧ shown = value) ∨
    exists category, redactor.tokens category value = some shown

theorem Hidden.bracketed {redactor : Redactor} (hsound : redactor.Sound)
    {value shown : List Nat} (h : Hidden redactor value shown) :
    Bracketed shown := by
  rcases h with ⟨htoken, rfl⟩ | ⟨category, htoken⟩
  · exact bracketed_of_isToken htoken
  · rcases hsound _ _ _ htoken with ⟨n, _, _, rfl⟩
    exact bracketed_tokenText category n

/-- The string of an identifying key is hidden if no rule replaces anything in
it, or one replaces all of it. -/
theorem redactString_hidden {redactor later : Redactor} {key : List Nat}
    {category : Category} (hkey : identifying key = some category)
    {value : List Nat} (hvalue : value ≠ []) (hsound : redactor.Sound)
    (hfew : Few redactor value.length)
    (hlater : (redactor.redactString (some key) value).1.Leads later) :
    Hidden later value (redactor.redactString (some key) value).2 ↔
      Unmarked value ∨ Whole value := by
  have hexempt : (some key).any isExempt = false :=
    isExempt_of_identifying hkey
  have hleads := @Redactor.redactString_leads redactor (some key) value hsound
    hfew
  have hlast : later.Sound := hlater.sound (hleads.1.sound hsound)
  by_cases h : Unmarked value
  · refine iff_of_true ?_ (Or.inl h)
    have hbind : (some key).bind identifying = some category := hkey
    rw [Redactor.redactString_unmarked hexempt h, hbind] at hlater ⊢
    dsimp only at hlater ⊢
    by_cases htoken : isToken value = false
    · rw [if_pos ⟨hvalue, htoken⟩] at hlater ⊢
      have hhanded := Redactor.tokenFor_handed hsound category value
      exact Or.inr ⟨category, hlater.extends_ _ _ _ hhanded.token⟩
    · rw [if_neg fun hboth => htoken hboth.2]
      exact Or.inl ⟨Bool.not_eq_false _ ▸ htoken, rfl⟩
  · have htracks := redactText_tracks hsound hfew
    rcases exists_found h with ⟨text, rule, hfound⟩
    rw [Redactor.redactString_marked hsound hexempt h] at hlater ⊢
    rw [or_iff_right h, whole_iff]
    constructor
    · intro hhidden
      have hbracketed := hhidden.bracketed hlast
      rw [htracks.shown] at hbracketed
      have hmarks := eq_singleton_of_bracketed
        (htracks.good hfew (Redactor.Extends.refl _)) hbracketed hfound
      have hsource := htracks.source
      rw [hmarks, sourceOf_cons, Piece.source] at hsource
      have htext : text = value := (List.append_nil text).symm.trans hsource
      rw [htext] at hmarks
      exact ⟨rule, hmarks⟩
    · rintro ⟨other, hmarks⟩
      have hvalues : Piece.found value other ∈ markText value := by
        rw [hmarks]
        exact List.mem_singleton_self _
      rcases Option.isSome_iff_exists.mp (htracks.known hvalues) with
        ⟨token, htoken⟩
      refine Or.inr ⟨other.category, ?_⟩
      rw [hlater.extends_ _ _ _ htoken, htracks.shown, hmarks, render_cons,
        Piece.render, Redactor.tokenOf, htoken]
      exact congrArg Option.some (List.append_nil token).symm

/-!
## Documents
-/

/-- Paths, serial numbers, asset tags and user names: what no pattern is meant
to find.  A host name can be an address, which has its own pattern. -/
def Category.onlyByKey : Category -> Bool
  | username => true
  | serial => true
  | assetTag => true
  | path => true
  | _ => false

/-- A string that is not empty, under a key of these and not in a census of
shapes. -/
def Spot.Identifying (spot : Spot) : Prop :=
  spot.census = false ∧ spot.text ≠ [] ∧
    exists category, spot.key.bind identifying = some category ∧
      category.onlyByKey = true

/-- The characters of the strings. -/
def textLength (strings : List Spot) : Nat :=
  (strings.map fun spot => spot.text.length).sum

/-- A string and what becomes of it. -/
structure Shown (redactor : Redactor) (spot shown : Spot) : Prop where
  key : shown.key = spot.key
  census : shown.census = spot.census
  hidden : spot.Identifying ->
    (Hidden redactor spot.text shown.text ↔
      Unmarked spot.text ∨ Whole spot.text)

theorem few_of_counts {redactor later : Redactor} {n k : Nat}
    (h : Few redactor (n + k))
    (hcounts : forall category,
      later.counts category ≤ redactor.counts category + n) :
    Few later k := by
  intro category
  have hlimit := h category
  have hcount := hcounts category
  lia

theorem textLength_cons (spot : Spot) (strings : List Spot) :
    textLength (spot :: strings) = spot.text.length + textLength strings := by
  rw [textLength, List.map_cons, List.sum_cons, textLength]

theorem redactSpot_leads {redactor : Redactor} {spot : Spot}
    (hsound : redactor.Sound) (hfew : Few redactor spot.text.length) :
    redactor.Leads (redactor.redactSpot spot).1 ∧
      forall category, (redactor.redactSpot spot).1.counts category ≤
        redactor.counts category + spot.text.length := by
  rw [Redactor.redactSpot]
  split
  · exact ⟨Redactor.Leads.refl redactor, fun _ => Nat.le_add_right _ _⟩
  · exact Redactor.redactString_leads hsound hfew

theorem redactSpot_shown {redactor last : Redactor} {spot : Spot}
    (hsound : redactor.Sound) (hfew : Few redactor spot.text.length)
    (hlast : (redactor.redactSpot spot).1.Leads last) :
    Shown last spot (redactor.redactSpot spot).2 := by
  rw [Redactor.redactSpot] at *
  by_cases hshape : (spot.census && isShape spot.text) = true
  · rw [if_pos hshape]
    refine ⟨rfl, rfl, fun h => ?_⟩
    rw [h.1] at hshape
    cases hshape
  · rw [if_neg hshape] at hlast ⊢
    refine ⟨rfl, rfl, ?_⟩
    rintro ⟨_, hvalue, category, hkey, _⟩
    rcases spot with ⟨key, census, text⟩
    cases key with
    | none => cases hkey
    | some key => exact redactString_hidden hkey hvalue hsound hfew hlast

/-- The walk over the strings of a document. -/
theorem threads_redact {holds : Redactor -> Spot -> Spot -> Prop}
    (hdoes : forall {redactor last : Redactor} {spot : Spot},
      redactor.Sound -> Few redactor spot.text.length ->
        (redactor.redactSpot spot).1.Leads last ->
          holds last spot (redactor.redactSpot spot).2) :
    Threads Redactor.redactSpot (fun redactor strings =>
        redactor.Sound ∧ Few redactor (textLength strings))
      Redactor.Leads holds := by
  have hfirst : forall {redactor : Redactor} {spot : Spot}
      {strings : List Spot}, Few redactor (textLength (spot :: strings)) ->
        Few redactor spot.text.length := by
    intro redactor spot strings hfew category
    have hlimit := hfew category
    rw [textLength_cons] at hlimit
    lia
  refine ⟨Redactor.Leads.refl, Redactor.Leads.trans, ?_, ?_, ?_⟩
  · intro redactor spot strings hinv
    have hleads := redactSpot_leads hinv.1 (hfirst hinv.2)
    have hfew := hinv.2
    rw [textLength_cons] at hfew
    exact ⟨hleads.1.sound hinv.1, few_of_counts hfew hleads.2⟩
  · intro redactor spot strings hinv
    exact (redactSpot_leads hinv.1 (hfirst hinv.2)).1
  · intro redactor last spot strings hinv hlast
    exact hdoes hinv.1 (hfirst hinv.2) hlast

/-- Every such string is hidden by what a document is redacted to. -/
def Hides (redactor : Redactor) (key : Option (List Nat)) (doc : Json) :
    Prop :=
  let result := redactor.redactValue key doc
  List.Forall₂ (fun spot shown =>
      shown.key = spot.key ∧ shown.census = spot.census ∧
        (spot.Identifying -> Hidden result.1 spot.text shown.text))
    (spots false key doc) (spots false key result.2)

/-- The identifying keys of a document are fully redacted if in no string of
such a key a rule replaces a part and leaves the rest. -/
theorem hides_iff {redactor : Redactor} (hsound : redactor.Sound)
    (key : Option (List Nat)) (doc : Json)
    (hfew : Few redactor (textLength (spots false key doc))) :
    Hides redactor key doc ↔
      forall spot, spot ∈ spots false key doc -> spot.Identifying ->
        Unmarked spot.text ∨ Whole spot.text := by
  have hwalk := ((threads_redact redactSpot_shown).walk ⟨hsound, hfew⟩).2
  rw [Redactor.redactValue_spots] at hwalk
  refine forall₂_iff_forall (hwalk.imp fun spot shown h => ?_)
  rw [and_iff_right h.key, and_iff_right h.census]
  exact imp_congr_right h.hidden

/-- A mapping with a path. -/
def pathDoc (path : String) : Json :=
  Json.obj [(points "path", Json.str (points path))]

theorem few_pathDoc (path : String) (h : (points path).length < 100) :
    Few Redactor.new (textLength (spots false none (pathDoc path))) := by
  intro category
  have hlength : textLength (spots false none (pathDoc path)) =
      (points path).length + 0 :=
    textLength_cons _ _
  have hlimit : 100 < tokenLimit := by decide
  have hcount : Redactor.new.counts category = 0 := rfl
  lia

theorem hides_iff_image : Hides Redactor.new none (pathDoc "/srv/x.iso") := by
  refine (hides_iff Redactor.sound_new none (pathDoc "/srv/x.iso")
    (few_pathDoc _ (by decide))).mpr ?_
  intro spot hspot _
  cases List.mem_singleton.mp hspot
  refine Or.inl fun rule => ?_
  cases rule <;> decide +kernel

/-- A directory that is named after an address: only the address goes. -/
theorem directory_and_basename_stay :
    spots false none (Redactor.new.redactValue none
        (pathDoc "/10.0.0.5/a")).2 =
      [{ key := some (points "path"), census := false,
         text := points "/<redacted-ipv4-1>/a" }] ∧
    ¬ Hides Redactor.new none (pathDoc "/10.0.0.5/a") := by
  have hshown : spots false none (Redactor.new.redactValue none
      (pathDoc "/10.0.0.5/a")).2 =
        [{ key := some (points "path"), census := false,
           text := points "/<redacted-ipv4-1>/a" }] := by
    decide +kernel
  refine ⟨hshown, ?_⟩
  intro h
  rw [Hides, hshown] at h
  rcases List.forall₂_cons.mp h with ⟨⟨_, _, hhidden⟩, _⟩
  rcases hhidden ⟨rfl, by decide, Category.path, by decide, rfl⟩ with
    ⟨_, heq⟩ | ⟨category, htoken⟩
  · revert heq
    decide
  · revert htoken
    cases category <;> decide +kernel

end Evidence
end IntelAmt
