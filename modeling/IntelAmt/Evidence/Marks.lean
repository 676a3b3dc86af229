import IntelAmt.Evidence.Readings

/-!
# Marked texts

A text together with the values that have been replaced in it.  What the rules
find in a marked text does not depend on the tokens, so the values of a text
are known before any token is handed out.
-/

namespace IntelAmt
namespace Evidence

open Foundation Errors

/-- A character that is kept, or a value and the rule that found it. -/
abbrev Mark : Type := Piece Nat Rule

/-- The text that the rules see: a token begins with a bracket. -/
def shadow : Mark -> Nat
  | Piece.kept c => c
  | Piece.found _ _ => '<'.toNat

namespace Rule

/-- A value that has been found is replaced. -/
def replaces (rule : Rule) (value : List Nat) : Bool :=
  !isToken value && !(decide (rule = fqdn) && !isDnsName value)

/-- What a rule finds, and whether it replaces it. -/
def findText (rule : Rule) : Finder Nat (Option Rule) :=
  fun before rest => (rule.pattern.find before rest).map fun found =>
    (found.1, if rule.replaces (rest.take found.1) then some rule else none)

def findMark (rule : Rule) : Finder Mark (Option Rule) :=
  fun before marks => rule.findText (before.map shadow) (marks.map shadow)

end Rule

def markRule (marks : List Mark) (rule : Rule) : List Mark :=
  stage rule.findMark marks

/-- The values of a text. -/
def markText (text : List Nat) : List Mark :=
  rules.foldl markRule (text.map Piece.kept)

namespace Rule

variable {rule : Rule}

theorem of_findText {before rest : List Nat} {n : Nat} {value : Option Rule}
    (h : rule.findText before rest = some (n, value)) :
    before.head?.any rule.behind = false ∧
      exists text later, text ∈ rule.body.language ∧ rest = text ++ later ∧
        n = text.length ∧ rule.Follows later ∧
        value = if rule.replaces text then some rule else none := by
  rcases Option.map_eq_some_iff.mp h with ⟨⟨k, groups⟩, hfind, heq⟩
  rcases of_find hfind with ⟨hbehind, text, later, htext, rfl, rfl, hfollows⟩
  cases heq
  refine ⟨hbehind, text, later, htext, rfl, rfl, hfollows, ?_⟩
  rw [List.take_left]

theorem findText_within {front back : List Nat}
    (hfront : rule.pattern.StoppedBy front)
    (hback : rule.pattern.StoppedBy back) (before rest : List Nat) :
    rule.findText (before ++ front) (rest ++ back) =
      rule.findText before rest := by
  rw [findText, findText, Regex.find_within hfront hback]
  cases hfind : rule.pattern.find before rest with
  | none => rfl
  | some found =>
      rcases found with ⟨n, groups⟩
      rcases of_find hfind with ⟨_, text, later, _, rfl, rfl, _⟩
      rw [Option.map_some, Option.map_some, List.append_assoc, List.take_left,
        List.take_left]

end Rule

theorem split_marks (marks : List Mark) :
    exists (run : List Nat) (more : List Mark),
      marks = run.map Piece.kept ++ more ∧
        (more = [] ∨ exists text rule rest,
          more = Piece.found text rule :: rest) := by
  induction marks with
  | nil => exact ⟨[], [], rfl, Or.inl rfl⟩
  | cons mark marks ih =>
      cases mark with
      | found text rule =>
          exact ⟨[], _, rfl, Or.inr ⟨text, rule, marks, rfl⟩⟩
      | kept c =>
          rcases ih with ⟨run, more, rfl, hmore⟩
          exact ⟨c :: run, more, rfl, hmore⟩

theorem map_shadow_kept (run : List Nat) :
    (run.map Piece.kept).map shadow = run := by
  rw [List.map_map]
  exact List.map_id' _

theorem stoppedBy_bracket {rule : Rule} {c : Nat}
    (hc : c = '<'.toNat ∨ c = '>'.toNat) (text : List Nat) :
    rule.pattern.StoppedBy (c :: text) := by
  rintro stop hstop
  cases hstop
  exact rule.pattern_stopsAt hc

theorem stoppedBy_nil {rule : Rule} : rule.pattern.StoppedBy [] :=
  fun _ h => nomatch h

/-- The tokens that stand for values have numbers below the limit. -/
def Good (token : List Nat -> Rule -> List Nat) : Mark -> Prop
  | Piece.kept _ => True
  | Piece.found value rule => exists category n,
      token value rule = tokenText category n ∧ n < tokenLimit

section Simulation

variable {token : List Nat -> Rule -> List Nat} {rule : Rule}

theorem stopped_more {more : List Mark}
    (hgood : forall mark, mark ∈ more -> Good token mark)
    (h : more = [] ∨ exists text found rest,
      more = Piece.found text found :: rest) :
    rule.pattern.StoppedBy (render token more) ∧
      rule.pattern.StoppedBy (more.map shadow) := by
  rcases h with rfl | ⟨text, found, rest, rfl⟩
  · exact ⟨stoppedBy_nil, stoppedBy_nil⟩
  · rcases hgood _ List.mem_cons_self with ⟨category, n, htoken, _⟩
    rw [render_cons, Piece.render, htoken, tokenText_eq]
    exact ⟨stoppedBy_bracket (Or.inl rfl) _, stoppedBy_bracket (Or.inl rfl) _⟩

theorem stopped_before {more : List Mark}
    (hgood : forall mark, mark ∈ more -> Good token mark)
    (h : more = [] ∨ exists text found rest,
      more = Piece.found text found :: rest) :
    rule.pattern.StoppedBy (render token more.reverse).reverse ∧
      rule.pattern.StoppedBy (more.map shadow) := by
  rcases h with rfl | ⟨text, found, rest, rfl⟩
  · exact ⟨stoppedBy_nil, stoppedBy_nil⟩
  · rcases hgood _ List.mem_cons_self with ⟨category, n, htoken, _⟩
    rw [reverse_render, Piece.render, htoken, tokenText_eq, ← List.cons_append,
      List.reverse_append]
    exact ⟨stoppedBy_bracket (Or.inr rfl) _, stoppedBy_bracket (Or.inl rfl) _⟩

/-- A rule finds in a marked text what it finds in the text. -/
theorem findText_render {before marks : List Mark}
    (hbefore : forall mark, mark ∈ before -> Good token mark)
    (hgood : forall mark, mark ∈ marks -> Good token mark) :
    rule.findText (render token before.reverse).reverse (render token marks) =
      rule.findMark before marks := by
  rcases split_marks before with ⟨front, more, rfl, hmore⟩
  rcases split_marks marks with ⟨run, rest, rfl, hrest⟩
  have hfront := @stopped_before token rule more
    (fun mark hmark => hbefore mark (List.mem_append_right _ hmark)) hmore
  have hback := @stopped_more token rule rest
    (fun mark hmark => hgood mark (List.mem_append_right _ hmark)) hrest
  have hreverse : (render token
      (front.map Piece.kept ++ more).reverse).reverse =
        front ++ (render token more.reverse).reverse := by
    rw [List.reverse_append, render_append, List.reverse_append,
      ← List.map_reverse, render_map_kept, List.reverse_reverse]
  rw [Rule.findMark, hreverse, render_append, render_map_kept, List.map_append,
    List.map_append, map_shadow_kept, map_shadow_kept,
    Rule.findText_within hfront.1 hback.1,
    Rule.findText_within hfront.2 hback.2]

theorem findText_inside {before front back value : List Nat} {found : Rule}
    {marks : List Mark} (hgood : Good token (Piece.found value found))
    (htoken : token value found = front ++ back) (hfront : front ≠ [])
    (hback : back ≠ []) :
    rule.findText (front.reverse ++ before) (back ++ render token marks) =
      none := by
  rcases hgood with ⟨category, n, htext, hn⟩
  rw [htext, tokenText_eq] at htoken
  cases front with
  | nil => exact absurd rfl hfront
  | cons c front =>
      rcases List.eq_nil_or_concat back with rfl | ⟨inner, last, rfl⟩
      · exact absurd rfl hback
      · rw [List.concat_eq_append, List.cons_append, List.cons.injEq,
          ← List.append_assoc] at htoken
        have hinner := List.append_inj' htoken.2 rfl
        rw [List.cons.injEq] at hinner
        rw [List.concat_eq_append, List.append_assoc, ← hinner.2.1]
        cases hfind : rule.findText _ _ with
        | none => rfl
        | some found =>
            rcases Rule.of_findText hfind with
              ⟨_, text, later, hvalue, heq, _, hfollows, _⟩
            have hclose : '>'.toNat ∉ text :=
              Rule.bracket_notMem hvalue (Or.inr rfl)
            have hstarts : text <+: inner :=
              prefix_before hclose ⟨later, heq.symm⟩
            have hpart : text <:+: tokenInner category n :=
              hinner.1 ▸ hstarts.isInfix.trans
                (List.suffix_append _ _).isInfix
            by_cases hrule : rule = Rule.partialUuid
            · subst hrule
              rcases hfollows with ⟨rest, rfl⟩
              have hdots : '>'.toNat ∉ points "-..." := by decide
              have hlonger : text ++ points "-..." <+: inner := by
                apply prefix_before (List.not_mem_append hclose hdots)
                exact ⟨rest, (List.append_assoc _ _ _).trans heq.symm⟩
              have hdot : '.'.toNat ∈ tokenInner category n := by
                rw [hinner.1]
                apply List.mem_append_right
                apply hlonger.subset
                apply List.mem_append_right
                decide
              exact absurd rfl (not_point_of_inner hdot).1
            · exact absurd hpart (Rule.not_in_token hrule hn hvalue)

end Simulation

theorem prefix_shadow {text : List Nat} (h : '<'.toNat ∉ text)
    (marks : List Mark) :
    text <+: marks.map shadow ↔ text.map Piece.kept <+: marks := by
  induction marks generalizing text with
  | nil =>
      rw [List.map_nil, List.prefix_nil, List.prefix_nil, List.map_eq_nil_iff]
  | cons mark marks ih =>
      cases text with
      | nil => exact iff_of_true List.nil_prefix List.nil_prefix
      | cons c text =>
          rw [List.mem_cons, not_or] at h
          rw [List.map_cons, List.map_cons, List.cons_prefix_cons,
            List.cons_prefix_cons, ih h.2]
          cases mark with
          | kept d => rw [shadow, Piece.kept.injEq]
          | found value rule =>
              constructor
              · exact fun heq => absurd heq.1.symm h.1
              · rintro ⟨heq, _⟩
                cases heq

namespace Rule

variable {rule : Rule} {before marks : List Mark}

theorem of_findMark {n : Nat} {value : Option Rule}
    (h : rule.findMark before marks = some (n, value)) :
    (before.map shadow).head?.any rule.behind = false ∧
      exists text later, text ∈ rule.body.language ∧
        marks = text.map Piece.kept ++ later ∧ n = text.length ∧
        rule.Follows (later.map shadow) ∧
        value = if rule.replaces text then some rule else none := by
  rcases of_findText h with
    ⟨hbehind, text, rest, htext, heq, rfl, hfollows, hvalue⟩
  rcases (prefix_shadow (bracket_notMem htext (Or.inl rfl)) marks).mp
    ⟨rest, heq.symm⟩ with ⟨later, rfl⟩
  rw [List.map_append, map_shadow_kept, List.append_cancel_left_eq] at heq
  exact ⟨hbehind, text, later, htext, rfl, rfl, heq ▸ hfollows, hvalue⟩

theorem eq_of_findMark {n : Nat} {other : Rule}
    (h : rule.findMark before marks = some (n, some other)) :
    other = rule := by
  rcases of_findMark h with ⟨_, text, _, _, _, _, _, hvalue⟩
  split at hvalue
  · exact Option.some.inj hvalue
  · cases hvalue

theorem findMark_isSome {text : List Nat} {later : List Mark}
    (hbehind : (before.map shadow).head?.any rule.behind = false)
    (htext : text ∈ rule.body.language)
    (hfollows : rule.Follows (later.map shadow)) :
    exists n value,
      rule.findMark before (text.map Piece.kept ++ later) =
        some (n + 1, value) := by
  have hsome := find_isSome hbehind htext hfollows
  rcases Option.isSome_iff_exists.mp hsome with ⟨⟨n, groups⟩, hfind⟩
  have hmark : exists value,
      rule.findMark before (text.map Piece.kept ++ later) =
        some (n, value) := by
    rw [findMark, findText, List.map_append, map_shadow_kept, hfind]
    exact ⟨_, rfl⟩
  rcases hmark with ⟨value, hmark⟩
  rcases of_findMark hmark with ⟨_, other, _, hother, _, rfl, _⟩
  rcases List.exists_cons_of_ne_nil (body_nonempty hother) with ⟨c, rest, rfl⟩
  exact ⟨rest.length, value, hmark⟩

theorem findMark_onKept (rule : Rule) : OnKept rule.findMark := by
  intro before marks n value h
  rcases of_findMark h with ⟨_, text, later, _, rfl, rfl, _⟩
  exact ⟨text, later, rfl, rfl⟩

end Rule

theorem simulates (token : List Nat -> Rule -> List Nat) (rule : Rule) :
    Simulates token (Good token) rule.findText rule.findMark where
  agrees := findText_render
  within := rule.findMark_onKept
  inside hgood htoken hfront hback _ :=
    findText_inside hgood htoken hfront hback

end Evidence
end IntelAmt
