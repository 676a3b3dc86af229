import IntelAmt.Evidence.Names

/-!
# Seams

Where a value stands at once beside another one that is replaced after the rule
for the first one has looked at it, the rule does not find the first value
because of the second one; once the token is there, it does.
-/

namespace IntelAmt
namespace Evidence

open Foundation Errors

/-- A value that is kept in a text, but would be found beside a token. -/
inductive Seam : List Mark -> Prop where
  /-- A fingerprint, a colon, and a value that begins with a hexadecimal
  digit. -/
  | colon {front back : List Mark} {text value : List Nat} {found : Rule}
      (reads : text ∈ Rule.fingerprint.body.language)
      (begins : (front.reverse.map shadow).head?.any
        Rule.fingerprint.behind = false)
      (first : value.head?.any isHex = true) :
      Seam (front ++ (text.map Piece.kept ++
        Piece.kept ':'.toNat :: Piece.found value found :: back))
  /-- An IPv6 address that ends with a colon, and a name that begins with a
  hexadecimal digit. -/
  | before {front back : List Mark} {text value : List Nat}
      (reads : text ∈ Rule.ipv6.body.language)
      (begins : (front.reverse.map shadow).head?.any
        Rule.ipv6.behind = false)
      (last : text.getLast?.any isColon = true)
      (first : value.head?.any isHex = true) :
      Seam (front ++ (text.map Piece.kept ++
        Piece.found value Rule.fqdn :: back))
  /-- A name that ends with a hexadecimal digit, and an IPv6 address that begins
  with a colon. -/
  | after {front back : List Mark} {text value : List Nat}
      (reads : text ∈ Rule.ipv6.body.language)
      (last : value.getLast?.any isHex = true)
      (first : text.head?.any isColon = true)
      (follows : Rule.ipv6.Follows (back.map shadow)) :
      Seam (front ++ Piece.found value Rule.fqdn ::
        (text.map Piece.kept ++ back))

/-!
## What a seam changes
-/

theorem replaces_of_ne {rule : Rule} (hrule : rule ≠ Rule.fqdn)
    {text : List Nat} (h : text ∈ rule.body.language) :
    rule.replaces text = true := by
  have htoken : isToken text = false := by
    apply Bool.eq_false_iff.mpr
    intro htoken
    rcases bracketed_of_isToken htoken with ⟨inner, _, _, rfl⟩
    exact Rule.bracket_notMem h (Or.inl rfl) List.mem_cons_self
  rw [Rule.replaces, htoken, decide_eq_false hrule]
  rfl

theorem markRule_ne {rule : Rule} (hrule : rule ≠ Rule.fqdn)
    {front back : List Mark} {text : List Nat}
    (hreads : text ∈ rule.body.language)
    (hbegins : (front.reverse.map shadow).head?.any rule.behind = false)
    (hfollows : rule.Follows (back.map shadow)) :
    markRule (front ++ (text.map Piece.kept ++ back)) rule ≠
      front ++ (text.map Piece.kept ++ back) := by
  intro hsame
  rw [markRule, stage_eq_iff rule.findMark_onKept] at hsame
  have hnone : forall piece, piece ∈ scan rule.findMark [] 0
      (front ++ (text.map Piece.kept ++ back)) -> piece.isFound = false := by
    intro piece hpiece
    cases piece with
    | kept mark => rfl
    | found inner value =>
        have hold := hsame _ hpiece
        rcases found_of_scan hpiece with ⟨before, rest, n, hfind, _⟩
        rcases Rule.of_findMark hfind with ⟨_, read, _, hread, _, _, _, hvalue⟩
        rw [if_pos (replaces_of_ne hrule hread)] at hvalue
        rw [hvalue] at hold
        cases hold
  rcases List.exists_cons_of_ne_nil (Rule.body_nonempty hreads) with
    ⟨c, tail, rfl⟩
  have hbehind : ((front.reverse ++ []).map shadow).head?.any rule.behind =
      false := by
    rw [List.append_nil]
    exact hbegins
  rcases Rule.findMark_isSome hbehind hreads hfollows with ⟨n, value, hsome⟩
  exact not_found_at hnone n value hsome

theorem new_of_seam {marks : List Mark} (h : Seam marks) :
    exists rule, markRule marks rule ≠ marks := by
  cases h with
  | colon reads begins _ =>
      exact ⟨Rule.fingerprint, markRule_ne (by decide) reads begins
        ⟨rfl, fun h => Bool.noConfusion (show false = true from h.2)⟩⟩
  | before reads begins _ _ =>
      exact ⟨Rule.ipv6, markRule_ne (by decide) reads begins
        (show false = false from rfl)⟩
  | @after front back text value reads _ _ follows =>
      have hplace := @markRule_ne Rule.ipv6 (by decide)
        (front ++ [Piece.found value Rule.fqdn]) back text reads (by
          rw [List.reverse_append]
          rfl) follows
      rw [List.append_assoc] at hplace
      exact ⟨Rule.ipv6, hplace⟩

/-!
## Where something new is found
-/

/-- A value that is kept when all rules are done was kept when its rule looked
at it, and not found for what stood beside it then. -/
theorem earlier_place {rule : Rule} (hrule : rule ≠ Rule.fqdn)
    {earlier later : List Rule} (hrules : rules = earlier ++ rule :: later)
    {text source : List Nat} {front back : List Mark}
    (hmarks : markText source = front ++ (text.map Piece.kept ++ back))
    (hreads : text ∈ rule.body.language) :
    exists ahead rest, Cut (· ∈ rule :: later) ahead front ∧
      Cut (· ∈ rule :: later) rest back ∧
      ((ahead.reverse.map shadow).head?.any rule.behind = false ->
        ¬ rule.Follows (rest.map shadow)) := by
  have hallowed : forall (before pieces : List Mark) (n : Nat) (value : Rule),
      rule.findMark before pieces = some (n, some value) -> value = rule :=
    fun _ _ _ _ => Rule.eq_of_findMark
  have hall : forall (before pieces : List Mark) (n : Nat)
      (value : Option Rule),
      rule.findMark before pieces = some (n, value) -> value ≠ none := by
    intro before pieces n value hfind
    rcases Rule.of_findMark hfind with ⟨_, read, _, hread, _, _, _, hvalue⟩
    rw [hvalue, if_pos (replaces_of_ne hrule hread)]
    exact Option.some_ne_none rule
  have hone : forall value : Rule, value = rule -> value ∈ rule :: later :=
    fun value heq => heq ▸ List.mem_cons_self
  have hmore : forall value : Rule, value ∈ later -> value ∈ rule :: later :=
    fun value => List.mem_cons_of_mem rule
  have hcut := foldl_markRule_cut later
    (markRule (earlier.foldl markRule (source.map Piece.kept)) rule)
  have hwhole : later.foldl markRule (markRule
      (earlier.foldl markRule (source.map Piece.kept)) rule) =
        markText source := by
    rw [markText, hrules, List.foldl_append, List.foldl_cons]
  rcases List.exists_cons_of_ne_nil (Rule.body_nonempty hreads) with
    ⟨c, tail, rfl⟩
  rw [hwhole, hmarks] at hcut
  rcases hcut.split with ⟨middle, mores, heq, hmiddle, hmores⟩
  rcases hmores.of_run with ⟨behind, rfl, hbehind⟩
  have hsearch := searches_stage rule.findMark_onKept
    (earlier.foldl markRule (source.map Piece.kept))
  rcases hsearch.of_kept hallowed hall heq with
    ⟨ahead, rests, _, hnone, hahead, hrests⟩
  rcases hrests.of_run with ⟨rest, rfl, hrest⟩
  refine ⟨ahead, rest, (hahead.mono hone).trans (hmiddle.mono hmore),
    (hrest.mono hone).trans (hbehind.mono hmore), ?_⟩
  intro hbegins hfollows
  rw [List.append_nil] at hnone
  rcases Rule.findMark_isSome hbegins hreads hfollows with ⟨n, value, hsome⟩
  exact hnone n value hsome

theorem hex_of_label {c : Nat} (hlabel : isLabel c = true)
    (h : (isHex c || isColon c || isDot c) = true) : isHex c = true := by
  have hpoint : forall d, d = ':'.toNat ∨ d = '.'.toNat ->
      isLabel d = false := by
    intro d hd
    rcases hd with rfl | rfl <;> decide
  have hcolon : isColon c = false := by
    apply Bool.eq_false_iff.mpr
    intro heq
    rw [hpoint c (Or.inl (of_decide_eq_true heq))] at hlabel
    cases hlabel
  have hdot : isDot c = false := by
    apply Bool.eq_false_iff.mpr
    intro heq
    rw [hpoint c (Or.inr (of_decide_eq_true heq))] at hlabel
    cases hlabel
  rwa [hcolon, hdot, Bool.or_false, Bool.or_false] at h

theorem first_of_head {rule : Rule} {text : List Nat} {c : Nat}
    (hreads : text ∈ rule.body.language) (hhead : text.head? = some c) :
    rule.body.first c = true := by
  cases text with
  | nil => cases hhead
  | cons d tail =>
      cases hhead
      exact Regex.first_of_mem hreads

theorem last_of_getLast {rule : Rule} {text : List Nat} {c : Nat}
    (hreads : text ∈ rule.body.language) (hlast : text.getLast? = some c) :
    rule.body.last c = true := by
  rcases List.getLast?_eq_some_iff.mp hlast with ⟨init, rfl⟩
  exact Regex.last_of_mem hreads

section Sides

variable {marks front back : List Mark} {rule : Rule} {text : List Nat}
variable {allowed : Rule -> Prop}

theorem begins_later (hseated : Seated marks)
    (hmarks : marks = front ++ (text.map Piece.kept ++ back))
    (hbegins : (front.reverse.map shadow).head?.any rule.behind = false)
    {ahead : List Mark} (hcut : Cut allowed ahead front)
    (hbefore : (ahead.reverse.map shadow).head?.any rule.behind = true) :
    exists init value found c, front = init ++ [Piece.found value found] ∧
      allowed found ∧ value.getLast? = some c ∧ rule.behind c = true ∧
      forall d, text.head? = some d -> found.after d = false := by
  rw [List.head?_map, List.head?_reverse] at hbegins hbefore
  rcases hcut.last with hsame | ⟨value, found, init, c, rfl, may, hlast, hkept⟩
  · rw [hsame] at hbefore
    exact Bool.noConfusion (hbefore.symm.trans hbegins)
  · rw [hkept] at hbefore
    refine ⟨init, value, found, c, rfl, may, hlast, hbefore, ?_⟩
    intro d hd
    cases text with
    | nil => cases hd
    | cons e tail =>
        cases hd
        apply hseated.not_after
        rw [hmarks, List.append_assoc]
        rfl

theorem ends_later (hseated : Seated marks)
    (hmarks : marks = front ++ (text.map Piece.kept ++ back))
    {rest : List Mark} (hcut : Cut allowed rest back) :
    rest.head? = back.head? ∨ exists value found more c,
      back = Piece.found value found :: more ∧ allowed found ∧
        value.head? = some c ∧ rest.head? = some (Piece.kept c) ∧
        forall d, text.getLast? = some d -> found.behind d = false := by
  rcases hcut.head with hsame | ⟨value, found, more, c, rfl, may, hhead, hkept⟩
  · exact Or.inl hsame
  · refine Or.inr ⟨value, found, more, c, rfl, may, hhead, hkept, ?_⟩
    intro d hd
    rcases List.getLast?_eq_some_iff.mp hd with ⟨init, rfl⟩
    apply hseated.not_behind
    rw [hmarks, List.map_append, List.append_assoc, ← List.append_assoc front]
    rfl

end Sides

/-- A fingerprint that is found anew has a colon and a value behind it. -/
theorem seam_of_fingerprint {front rest back : List Mark} {text : List Nat}
    {allowed : Rule -> Prop} (hreads : text ∈ Rule.fingerprint.body.language)
    (hbegins : (front.reverse.map shadow).head?.any
      Rule.fingerprint.behind = false) (hcut : Cut allowed rest back)
    (hsame : rest.head? = back.head?)
    (hfollows : Rule.fingerprint.Follows (back.map shadow))
    (hstays : ¬ Rule.fingerprint.Follows (rest.map shadow)) :
    Seam (front ++ (text.map Piece.kept ++ back)) := by
  have hshadow : (rest.map shadow).head? = (back.map shadow).head? := by
    rw [List.head?_map, List.head?_map, hsame]
  have hcolon : (rest.map shadow).head?.any isColon = true ∧
      (rest.map shadow).tail.head?.any isHex = true := by
    by_contra hnot
    refine hstays ⟨?_, hnot⟩
    rw [hshadow]
    exact hfollows.1
  cases rest with
  | nil => cases hcolon.1
  | cons mark rest =>
      cases mark with
      | found value found => cases hcolon.1
      | kept c =>
          have hc : c = ':'.toNat := of_decide_eq_true hcolon.1
          subst hc
          cases back with
          | nil => cases hsame
          | cons mark back =>
              cases hsame
              rcases hcut.of_kept with ⟨more, heq, hmore⟩
              cases heq
              have hhex := hcolon.2
              rw [List.map_cons, List.tail_cons, List.head?_map] at hhex
              rcases hmore.head with hnext |
                ⟨value, found, last, d, rfl, _, hhead, hkept⟩
              · rw [hnext, ← List.head?_map] at hhex
                exact absurd ⟨rfl, hhex⟩ hfollows.2
              · rw [hkept] at hhex
                apply Seam.colon hreads hbegins
                rw [hhead]
                exact hhex

/-- A value that begins and ends with a hexadecimal digit is found anew only if
it is a fingerprint. -/
theorem seam_of_hex {rule : Rule} (hhex : rule.OfHex) {front back : List Mark}
    {text source : List Nat}
    (hmarks : markText source = front ++ (text.map Piece.kept ++ back))
    (hreads : text ∈ rule.body.language)
    (hbegins : (front.reverse.map shadow).head?.any rule.behind = false)
    (hfollows : rule.Follows (back.map shadow)) : Seam (markText source) := by
  have hseated := markText_seated source
  have hne := Rule.body_nonempty hreads
  rcases List.append_of_mem (mem_rules rule) with ⟨earlier, later, hrules⟩
  rcases earlier_place hhex.2 hrules hmarks hreads with
    ⟨ahead, rest, hahead, hrest, hnot⟩
  have hbefore : (ahead.reverse.map shadow).head?.any rule.behind = false := by
    apply Bool.eq_false_iff.mpr
    intro hbad
    rcases begins_later hseated hmarks hbegins hahead hbad with
      ⟨init, value, found, c, _, _, _, _, hafter⟩
    rcases List.exists_cons_of_ne_nil hne with ⟨d, tail, rfl⟩
    have hdigit := Rule.first_hex hhex (first_of_head hreads rfl)
    have hafter := hafter d rfl
    rw [Rule.after_of_hex found hdigit] at hafter
    cases hafter
  have hsame : rest.head? = back.head? := by
    rcases ends_later hseated hmarks hrest with
      hsame | ⟨value, found, more, c, _, _, _, _, hbehind⟩
    · exact hsame
    · have hlast := List.getLast?_eq_some_getLast hne
      have hdigit := Rule.last_hex hhex (last_of_getLast hreads hlast)
      have hbehind := hbehind _ hlast
      rw [Rule.behind_of_hex found hdigit] at hbehind
      cases hbehind
  have hshadow : (rest.map shadow).head? = (back.map shadow).head? := by
    rw [List.head?_map, List.head?_map, hsame]
  have hstays := hnot hbefore
  by_cases hpartial : rule = Rule.partialUuid
  · subst hpartial
    have hdots : '<'.toNat ∉ points "-..." := by decide
    have hkept := hrest.prefix_kept ((prefix_shadow hdots back).mp hfollows)
    exact absurd ((prefix_shadow hdots rest).mpr hkept) hstays
  · by_cases hprint : rule = Rule.fingerprint
    · subst hprint
      rw [hmarks]
      exact seam_of_fingerprint hreads hbegins hrest hsame hfollows hstays
    · rw [Rule.follows_iff hprint hpartial] at hfollows hstays
      rw [hshadow] at hstays
      exact absurd hfollows hstays

theorem letter_of_last {value : List Nat} {c : Nat}
    (hreads : value ∈ Rule.fqdn.body.language)
    (hlast : value.getLast? = some c) : isLabel c = true :=
  isAlnum_label (isLetter_alnum (Rule.last_fqdn (last_of_getLast hreads hlast)))

theorem follows_ipv6 {rest : List Nat} : Rule.ipv6.Follows rest ↔
    rest.head?.any Rule.ipv6.after = false :=
  Iff.rfl

/-- An address that is found anew stands beside a name. -/
theorem seam_of_ipv6 {front back : List Mark} {text source : List Nat}
    (hmarks : markText source = front ++ (text.map Piece.kept ++ back))
    (hreads : text ∈ Rule.ipv6.body.language)
    (hbegins : (front.reverse.map shadow).head?.any Rule.ipv6.behind = false)
    (hfollows : Rule.ipv6.Follows (back.map shadow)) :
    Seam (markText source) := by
  have hseated := markText_seated source
  have hne := Rule.body_nonempty hreads
  have hrules : rules = [Rule.fingerprint, Rule.digest, Rule.mac, Rule.uuid,
      Rule.compactUuid, Rule.partialUuid, Rule.ipv4] ++
        Rule.ipv6 :: [Rule.fqdn] := rfl
  rcases earlier_place (by decide) hrules hmarks hreads with
    ⟨ahead, rest, hahead, hrest, hnot⟩
  by_cases hbefore :
      (ahead.reverse.map shadow).head?.any Rule.ipv6.behind = false
  · rcases ends_later hseated hmarks hrest with
      hsame | ⟨value, found, more, c, rfl, hfound, hhead, hkept, hbehind⟩
    · have hstays := hnot hbefore
      rw [follows_ipv6, List.head?_map] at hfollows hstays
      rw [hsame] at hstays
      exact absurd hfollows hstays
    · have hlast := List.getLast?_eq_some_getLast hne
      have hbehind := hbehind _ hlast
      rcases Rule.last_ipv6 (last_of_getLast hreads hlast) with hhex | hcolon
      · rw [Rule.behind_of_hex found hhex] at hbehind
        cases hbehind
      · have hname : found = Rule.fqdn := by
          rcases List.mem_cons.mp hfound with heq | hmem
          · rw [heq, Rule.behind, hcolon, Bool.or_true] at hbehind
            cases hbehind
          · exact List.mem_singleton.mp hmem
        subst hname
        have hvalue := hseated.reads (hmarks ▸ List.mem_append_right _
          (List.mem_append_right _ List.mem_cons_self))
        have hlabel := Rule.first_fqdn (first_of_head hvalue hhead)
        have hafter : Rule.ipv6.after c = true := by
          have hstays := hnot hbefore
          rw [follows_ipv6, List.head?_map, hkept] at hstays
          exact Bool.not_eq_false _ ▸ hstays
        rw [hmarks]
        apply Seam.before hreads hbegins
        · rw [hlast]
          exact hcolon
        · rw [hhead]
          exact hex_of_label hlabel hafter
  · rcases begins_later hseated hmarks hbegins hahead
      (Bool.not_eq_false _ ▸ hbefore) with
      ⟨init, value, found, c, rfl, hfound, hlast, hbehind, hafter⟩
    rcases List.exists_cons_of_ne_nil hne with ⟨d, tail, rfl⟩
    have hafter := hafter d rfl
    rcases Rule.first_ipv6 (first_of_head hreads rfl) with hhex | hcolon
    · rw [Rule.after_of_hex found hhex] at hafter
      cases hafter
    · have hname : found = Rule.fqdn := by
        rcases List.mem_cons.mp hfound with heq | hmem
        · rw [heq, Rule.after, hcolon, Bool.or_true] at hafter
          cases hafter
        · exact List.mem_singleton.mp hmem
      subst hname
      have hvalue := hseated.reads (hmarks ▸ List.mem_append_left _
        (List.mem_append_right _ (List.mem_singleton_self _)))
      rw [hmarks, List.append_assoc]
      apply Seam.after hreads
      · rw [hlast]
        exact hex_of_label (letter_of_last hvalue hlast) hbehind
      · exact hcolon
      · exact hfollows

theorem markText_again (source : List Nat) :
    markRule (markText source) Rule.fqdn = markText source := by
  have hrules : rules = rules.dropLast ++ [Rule.fqdn] := rfl
  rw [markText, hrules, List.foldl_append, List.foldl_cons, List.foldl_nil]
  exact markRule_fqdn_again
    (foldl_markRule_seated _ (seated_map_kept source))

/-- Something new is found among the marks of a text where it has a seam, and
only there. -/
theorem new_iff_seam (source : List Nat) :
    (exists rule, markRule (markText source) rule ≠ markText source) ↔
      Seam (markText source) := by
  constructor
  · intro h
    rcases h with ⟨rule, hnew⟩
    by_cases hname : rule = Rule.fqdn
    · subst hname
      exact absurd (markText_again source) hnew
    · rw [markRule, Ne, stage_eq_iff rule.findMark_onKept] at hnew
      rcases Classical.not_forall.mp hnew with ⟨piece, hpiece⟩
      rcases Classical.not_imp.mp hpiece with ⟨hmem, hisNew⟩
      cases piece with
      | kept mark => exact absurd rfl hisNew
      | found inner value =>
          rcases found_at hmem with ⟨front, rest, n, hmarks, hfind, _⟩
          rw [List.append_nil] at hfind
          rcases Rule.of_findMark hfind with
            ⟨hbegins, text, back, hreads, rfl, _, hfollows, _⟩
          by_cases haddress : rule = Rule.ipv6
          · subst haddress
            exact seam_of_ipv6 hmarks hreads hbegins hfollows
          · exact seam_of_hex ⟨haddress, hname⟩ hmarks hreads hbegins hfollows
  · exact new_of_seam

end Evidence
end IntelAmt
