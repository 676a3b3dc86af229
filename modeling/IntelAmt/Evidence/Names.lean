import IntelAmt.Foundation.Regex.Preferences
import IntelAmt.Evidence.Neighbours

/-!
# Names

The rule for DNS names finds the name with the most labels, and where it ends is
settled by its last dot.  So the rule finds nothing new in a text in which it
has replaced the names.
-/

namespace IntelAmt
namespace Evidence

open Foundation Errors

/-!
## What a name consists of
-/

/-- A label and the dot behind it. -/
def labelDot : Regex Nat := Regex.seq (Regex.atLeast 1 label) dot

/-- The last two labels of a name. -/
def nameEnd : Regex Nat :=
  Regex.concat [Regex.star true label, letter, Regex.star true label, dot,
    Regex.atLeast 2 letter]

theorem fqdn_body :
    Rule.fqdn.body = Regex.seq (Regex.star true labelDot) nameEnd :=
  rfl

theorem dot_ends (rest : List Nat) :
    ('.'.toNat :: rest).head?.any isLabel = false := by
  rw [List.head?_cons, Option.any_some]
  decide

theorem mem_labelDot {text : List Nat} :
    text ∈ labelDot.language ↔ exists word, 1 ≤ word.length ∧
      (forall c, c ∈ word -> isLabel c = true) ∧
      text = word ++ ['.'.toNat] := by
  constructor
  · intro h
    rcases Language.mem_mul.mp h with ⟨word, hword, _, ⟨c, hc, rfl⟩, rfl⟩
    rcases Regex.mem_atLeast_char.mp hword with ⟨hlength, hall⟩
    rw [of_decide_eq_true hc]
    exact ⟨word, hlength, hall, rfl⟩
  · intro h
    rcases h with ⟨word, hlength, hall, rfl⟩
    exact Language.mem_mul.mpr ⟨word,
      Regex.mem_atLeast_char.mpr ⟨hlength, hall⟩, ['.'.toNat], ⟨_, rfl, rfl⟩,
      rfl⟩

theorem mem_nameEnd {text : List Nat} :
    text ∈ nameEnd.language ↔ exists word top,
      (forall c, c ∈ word -> isLabel c = true) ∧
      (exists c, c ∈ word ∧ isLetter c = true) ∧ 2 ≤ top.length ∧
      (forall c, c ∈ top -> isLetter c = true) ∧
      text = word ++ '.'.toNat :: top := by
  constructor
  · intro h
    rcases Language.mem_mul.mp h with ⟨front, hfront, _, hone, rfl⟩
    rcases Language.mem_mul.mp hone with ⟨_, ⟨c, hc, rfl⟩, _, htwo, rfl⟩
    rcases Language.mem_mul.mp htwo with ⟨back, hback, _, hthree, rfl⟩
    rcases Language.mem_mul.mp hthree with ⟨_, ⟨d, hd, rfl⟩, _, hfour, rfl⟩
    rcases Language.mem_mul.mp hfour with ⟨top, htop, _, rfl, rfl⟩
    rcases Regex.mem_atLeast_char.mp htop with ⟨hlength, hletters⟩
    have hlabel := isAlnum_label (isLetter_alnum hc)
    refine ⟨front ++ c :: back, top, ?_, ⟨c, ?_, hc⟩, hlength, hletters, ?_⟩
    · exact List.forall_mem_append.mpr ⟨Regex.mem_star_char.mp hfront,
        List.forall_mem_cons.mpr ⟨hlabel, Regex.mem_star_char.mp hback⟩⟩
    · exact List.mem_append_right _ List.mem_cons_self
    · rw [of_decide_eq_true hd]
      simp only [List.append_assoc, List.cons_append, List.nil_append,
        List.append_nil]
  · intro h
    rcases h with ⟨word, top, hall, ⟨c, hmem, hc⟩, hlength, hletters, rfl⟩
    rcases List.append_of_mem hmem with ⟨front, back, rfl⟩
    rw [List.forall_mem_append, List.forall_mem_cons] at hall
    have htop : top ∈ (Regex.concat [Regex.atLeast 2 letter]).language :=
      Language.mem_mul.mpr ⟨top, Regex.mem_atLeast_char.mpr
        ⟨hlength, hletters⟩, [], rfl, List.append_nil top⟩
    have hdot : '.'.toNat :: top ∈
        (Regex.concat [dot, Regex.atLeast 2 letter]).language :=
      Language.mem_mul.mpr ⟨['.'.toNat], ⟨_, rfl, rfl⟩, top, htop, rfl⟩
    have hback : back ++ '.'.toNat :: top ∈ (Regex.concat
        [Regex.star true label, dot, Regex.atLeast 2 letter]).language :=
      Language.mem_mul.mpr
        ⟨back, Regex.mem_star_char.mpr hall.2.2, _, hdot, rfl⟩
    have hletter : c :: (back ++ '.'.toNat :: top) ∈ (Regex.concat
        [letter, Regex.star true label, dot,
          Regex.atLeast 2 letter]).language :=
      Language.mem_mul.mpr ⟨[c], ⟨c, hc, rfl⟩, _, hback, rfl⟩
    exact Language.mem_mul.mpr ⟨front, Regex.mem_star_char.mpr hall.1, _,
      hletter, by rw [List.append_assoc, List.cons_append]⟩

theorem labelDot_unique {one other rest more : List Nat}
    (hone : one ∈ labelDot.language) (hother : other ∈ labelDot.language)
    (h : one ++ rest = other ++ more) : one = other := by
  rcases mem_labelDot.mp hone with ⟨word, _, hword, rfl⟩
  rcases mem_labelDot.mp hother with ⟨second, _, hsecond, rfl⟩
  rw [List.append_assoc, List.append_assoc] at h
  rw [(Regex.class_unique hword hsecond (dot_ends rest)
    (dot_ends more) h).1]

theorem nameEnd_unique {last ending later more : List Nat}
    (hlast : last ∈ nameEnd.language) (hending : ending ∈ nameEnd.language)
    (hlater : Rule.fqdn.Follows later) (hmore : Rule.fqdn.Follows more)
    (h : last ++ later = ending ++ more) : last = ending := by
  have hletter : forall {rest : List Nat}, Rule.fqdn.Follows rest ->
      rest.head?.any isLetter = false := by
    intro rest hfollows
    have hafter := hfollows.after
    cases rest with
    | nil => rfl
    | cons c rest =>
        apply Bool.eq_false_iff.mpr
        intro hc
        have halnum := isLetter_alnum hc
        rw [List.head?_cons, Option.any_some, Rule.after, halnum] at hafter
        cases hafter
  rcases mem_nameEnd.mp hlast with ⟨word, top, hword, _, _, htop, rfl⟩
  rcases mem_nameEnd.mp hending with ⟨second, other, hsecond, _, _, hother, rfl⟩
  rw [List.append_assoc, List.append_assoc, List.cons_append,
    List.cons_append] at h
  have hwords := Regex.class_unique hword hsecond (dot_ends _)
    (dot_ends _) h
  have htops := Regex.class_unique htop hother (hletter hlater) (hletter hmore)
    (List.cons.inj hwords.2).2
  rw [hwords.1, htops.1]

theorem label_fqdn {top text : List Nat}
    (htop : forall c, c ∈ top -> isLabel c = true)
    (htext : text ∈ Rule.fqdn.body.language) :
    exists heads ending, heads ∈ KStar.kstar labelDot.language ∧
      ending ∈ nameEnd.language ∧ top ++ text = heads ++ ending := by
  rw [fqdn_body] at htext
  rcases Language.mem_mul.mp htext with ⟨heads, hheads, ending, hending, rfl⟩
  rcases Language.mem_kstar.mp hheads with ⟨parts, rfl, hparts⟩
  cases parts with
  | nil =>
      rcases mem_nameEnd.mp hending with
        ⟨word, last, hword, ⟨c, hmem, hc⟩, hlength, hletters, rfl⟩
      refine ⟨[], top ++ (word ++ '.'.toNat :: last),
        Language.nil_mem_kstar _, mem_nameEnd.mpr ?_, rfl⟩
      exact ⟨top ++ word, last, List.forall_mem_append.mpr ⟨htop, hword⟩,
        ⟨c, List.mem_append_right _ hmem, hc⟩, hlength, hletters,
        (List.append_assoc _ _ _).symm⟩
  | cons part parts =>
      rw [List.forall_mem_cons] at hparts
      rcases mem_labelDot.mp hparts.1 with ⟨word, hlength, hword, rfl⟩
      refine ⟨((top ++ word ++ ['.'.toNat]) :: parts).flatten, ending,
        Language.mem_kstar.mpr ⟨_, rfl, ?_⟩, hending, ?_⟩
      · refine List.forall_mem_cons.mpr ⟨mem_labelDot.mpr ⟨top ++ word, ?_,
          List.forall_mem_append.mpr ⟨htop, hword⟩, rfl⟩, hparts.2⟩
        rw [List.length_append]
        lia
      · simp only [List.flatten_cons, List.append_assoc]

theorem mem_kstar_append {words : Language Nat} {one other : List Nat}
    (hone : one ∈ KStar.kstar words) (hother : other ∈ KStar.kstar words) :
    one ++ other ∈ KStar.kstar words := by
  rw [← kstar_mul_kstar]
  exact Language.append_mem_mul hone hother

theorem of_findText_fqdn {before rest : List Nat} {n : Nat}
    {value : Option Rule}
    (h : Rule.fqdn.findText before rest = some (n, value)) :
    exists heads last later, heads ∈ KStar.kstar labelDot.language ∧
      last ∈ nameEnd.language ∧ rest = heads ++ (last ++ later) ∧
      n = heads.length + last.length ∧ Rule.fqdn.Follows later ∧
      forall other ending more, other ∈ KStar.kstar labelDot.language ->
        ending ∈ nameEnd.language -> rest = other ++ (ending ++ more) ->
        Rule.fqdn.Follows more -> other.length ≤ heads.length := by
  rcases Option.map_eq_some_iff.mp h with ⟨⟨k, groups⟩, hfind, heq⟩
  cases heq
  have hunique : forall one other rest more : List Nat,
      one ∈ labelDot.language -> other ∈ labelDot.language ->
        one ++ rest = other ++ more -> one = other :=
    fun _ _ _ _ => labelDot_unique
  exact Regex.find_longest rfl rfl (Rule.tail_asserts Rule.fqdn) hunique hfind

/-- No name stands at once behind a name that is found: the two would be
one. -/
theorem not_joined {before text name more : List Nat} {value : Option Rule}
    (h : Rule.fqdn.findText before (text ++ (name ++ more)) =
      some (text.length, value))
    (hname : name ∈ Rule.fqdn.body.language)
    (hmore : Rule.fqdn.Follows more) : False := by
  rcases of_findText_fqdn h with
    ⟨heads, last, later, hheads, hlast, hrest, hlength, _, hlongest⟩
  rw [← List.append_assoc heads] at hrest
  rcases List.append_inj hrest (by rw [List.length_append, hlength]) with
    ⟨rfl, hlater⟩
  rcases mem_nameEnd.mp hlast with ⟨word, top, hword, ⟨c, hc, _⟩, _, htop, rfl⟩
  have hlabels : forall c, c ∈ top -> isLabel c = true :=
    fun c hc => isAlnum_label (isLetter_alnum (htop c hc))
  rcases label_fqdn hlabels hname with
    ⟨front, ending, hfront, hending, hjoined⟩
  have hdot : word ++ ['.'.toNat] ∈ labelDot.language :=
    mem_labelDot.mpr ⟨word, List.length_pos_of_mem hc, hword, rfl⟩
  have hone : word ++ ['.'.toNat] ∈ KStar.kstar labelDot.language :=
    le_kstar (a := labelDot.language) hdot
  have hother := mem_kstar_append hheads (mem_kstar_append hone hfront)
  have hless := hlongest _ ending more hother hending (by
    simp only [List.append_assoc, List.cons_append, List.nil_append]
    rw [← List.append_assoc top, hjoined, List.append_assoc]) hmore
  simp only [List.length_append, List.length_cons, List.length_nil] at hless
  lia

theorem same_name {before before' text name more more' rest rest' : List Nat}
    {value value' : Option Rule}
    (htext : Rule.fqdn.findText before (text ++ more) =
      some (text.length, value))
    (hname : Rule.fqdn.findText before' (name ++ rest) =
      some (name.length, value'))
    (hthere : name ++ rest = text ++ more') (hmore : Rule.fqdn.Follows more')
    (hhere : text ++ more = name ++ rest')
    (hrest : Rule.fqdn.Follows rest') : text = name := by
  rcases of_findText_fqdn htext with
    ⟨heads, last, later, hheads, hlast, hsplit, hlength, _, hlongest⟩
  rcases of_findText_fqdn hname with
    ⟨front, ending, behind, hfront, hending, hpart, hsize, hfollows, hbest⟩
  rw [← List.append_assoc heads] at hsplit
  rw [← List.append_assoc front] at hpart
  have hfirst := (List.append_inj hsplit (by
    rw [List.length_append, hlength])).1
  have hsecond := (List.append_inj hpart (by
    rw [List.length_append, hsize])).1
  have hless := hlongest front ending rest' hfront hending (by
    rw [hhere, hsecond, List.append_assoc]) hrest
  have hmost := hbest heads last more' hheads hlast (by
    rw [hthere, hfirst, List.append_assoc]) hmore
  have hboth : front ++ (ending ++ rest) = heads ++ (last ++ more') := by
    rw [← List.append_assoc, ← List.append_assoc, ← hfirst, ← hsecond, hthere]
  rcases List.append_inj hboth (Nat.le_antisymm hless hmost) with
    ⟨hheads', hlasts⟩
  have hbehind : behind = rest :=
    (List.append_inj hpart (by rw [List.length_append, hsize])).2.symm
  rw [hfirst, hsecond, hheads', nameEnd_unique hlast hending hmore
    (hbehind ▸ hfollows) hlasts.symm]

/-!
## Names are found once
-/

/-- What stands before a place in two searches: the same to the rule, or in the
second one a name that the first one has just found there. -/
def Behind (before behind marks : List Mark) : Prop :=
  (before.map shadow).head?.any Rule.fqdn.behind =
      (behind.map shadow).head?.any Rule.fqdn.behind ∨
    exists run front, behind.head? = some (Piece.found run Rule.fqdn) ∧
      before = (run.map Piece.kept).reverse ++ front ∧
      Rule.fqdn.findMark front (run.map Piece.kept ++ marks) =
        some (run.length, some Rule.fqdn)

theorem last_label {run : List Nat} (h : run ∈ Rule.fqdn.body.language) :
    exists c, run.getLast? = some c ∧ Rule.fqdn.behind c = true := by
  rcases List.eq_nil_or_concat run with rfl | ⟨front, c, rfl⟩
  · exact absurd rfl (Rule.body_nonempty h)
  · rw [List.concat_eq_append] at h ⊢
    have hletter := Rule.last_fqdn (Regex.last_of_mem h)
    refine ⟨c, List.getLast?_concat, ?_⟩
    rw [Rule.behind, isAlnum_label (isLetter_alnum hletter)]
    rfl

theorem follows_fqdn {rest : List Nat} : Rule.fqdn.Follows rest ↔
    rest.head?.any Rule.fqdn.after = false :=
  Iff.rfl

theorem follows_before {marks later : List Mark} {name : List Nat}
    (hname : name ∈ Rule.fqdn.body.language)
    (hcut : Cut (· = Rule.fqdn) marks later)
    (hbeside : (name.map Piece.kept ++ later).IsChain Beside)
    (hfollows : Rule.fqdn.Follows (later.map shadow)) :
    Rule.fqdn.Follows (marks.map shadow) := by
  rcases hcut.head with hsame | ⟨run, value, rest, c, rfl, hvalue, _, _⟩
  · rw [follows_fqdn, List.head?_map] at hfollows ⊢
    rwa [hsame]
  · subst hvalue
    rcases last_label hname with ⟨d, hlast, hbehind⟩
    have hbeside := (List.isChain_append.mp hbeside).2.2 (Piece.kept d)
      (by rw [List.getLast?_map, hlast]; rfl) _ rfl
    exact Bool.noConfusion (hbehind.symm.trans hbeside)

theorem follows_after {marks later : List Mark}
    (hcut : Cut (· = Rule.fqdn) marks later)
    (hfollows : Rule.fqdn.Follows (marks.map shadow)) :
    Rule.fqdn.Follows (later.map shadow) := by
  rcases hcut.head with hsame | ⟨run, value, rest, c, rfl, _, _, _⟩
  · rw [follows_fqdn, List.head?_map] at hfollows ⊢
    rwa [← hsame]
  · rfl

theorem allowed_fqdn (before pieces : List Mark) (n : Nat) (value : Rule)
    (h : Rule.fqdn.findMark before pieces = some (n, some value)) :
    value = Rule.fqdn :=
  Rule.eq_of_findMark h

theorem Behind.same {before behind marks : List Mark}
    (h : Behind before behind marks)
    (hbefore : (before.map shadow).head?.any Rule.fqdn.behind = false) :
    (behind.map shadow).head?.any Rule.fqdn.behind = false := by
  rcases h with hsame | ⟨run, front, _, rfl, hfind⟩
  · exact hsame ▸ hbefore
  · rcases last_label (of_findMark_run hfind).2.1 with ⟨c, hlast, hc⟩
    rw [List.head?_map, List.head?_append, List.head?_reverse,
      List.getLast?_map, hlast] at hbefore
    exact Bool.noConfusion (hc.symm.trans hbefore)

theorem findText_of_findMark {before more : List Mark} {run : List Nat}
    {found : Option (Nat × Option Rule)}
    (h : Rule.fqdn.findMark before (run.map Piece.kept ++ more) = found) :
    Rule.fqdn.findText (before.map shadow) (run ++ more.map shadow) =
      found := by
  rw [Rule.findMark, List.map_append, map_shadow_kept] at h
  exact h

theorem shadow_runs {one other : List Nat} {more rest : List Mark}
    (h : one.map Piece.kept ++ more = other.map Piece.kept ++ rest) :
    one ++ more.map shadow = other ++ rest.map shadow := by
  have hmap := congrArg (List.map shadow) h
  rwa [List.map_append, List.map_append, map_shadow_kept, map_shadow_kept]
    at hmap

/-- By induction on the search: in what it makes of the marks nothing new is
found.  A name that is found once more is the one that was found there, and a
name that would be found at once behind a new one belongs to that. -/
theorem searches_again {before behind marks later : List Mark}
    (h : Searches Rule.fqdn.findMark before marks later)
    (hbehind : Behind before behind marks) (hbeside : later.IsChain Beside) :
    forall piece, piece ∈ scan Rule.fqdn.findMark behind 0 later ->
      piece.isNew = false := by
  induction h generalizing behind with
  | nil before => exact fun _ hmem => absurd hmem List.not_mem_nil
  | @new before more later run value hne hfinds hrest ih =>
      have hvalue := Rule.eq_of_findMark hfinds
      subst hvalue
      rw [List.isChain_cons] at hbeside
      rcases scan_cases Rule.fqdn.findMark behind (Piece.found run Rule.fqdn)
        later with ⟨n, result, hsome, _⟩ | ⟨_, heq⟩
      · rcases Rule.findMark_onKept _ _ _ _ _ hsome with
          ⟨other, rest, hlength, hrun⟩
        cases other with
        | nil => cases hlength
        | cons c other => cases hrun
      · rw [heq]
        exact List.forall_mem_cons.mpr ⟨rfl, ih
          (Or.inr ⟨run, before, rfl, rfl, hfinds⟩) hbeside.2⟩
  | @old before more later run hne hfinds hrest ih =>
      rcases of_findMark_run hfinds with ⟨hbefore, hrun, hfollows, hnone⟩
      have hcut := hrest.cut allowed_fqdn
      have hlater := follows_after hcut hfollows
      rcases Rule.findMark_isSome (hbehind.same hbefore) hrun hlater with
        ⟨n, value, hsome⟩
      rcases Rule.of_findMark hsome with
        ⟨_, name, rest, hname, hsplit, hlength, hrestfollows, hvalue⟩
      have hwhole : Cut (· = Rule.fqdn) (run.map Piece.kept ++ more)
          (name.map Piece.kept ++ rest) :=
        hsplit ▸ hcut.append_same _
      rcases hwhole.of_run with ⟨first, hfirst, hmore⟩
      have hsame : run = name := by
        rw [hsplit, hlength] at hsome
        exact same_name (findText_of_findMark hfinds)
          (findText_of_findMark hsome) (shadow_runs hsplit).symm hlater
          (shadow_runs hfirst)
          (follows_before hname hmore (hsplit ▸ hbeside) hrestfollows)
      subst hsame
      rw [hlength, hvalue, ← hnone] at hsome
      have hmap : run.map (@Piece.kept Nat Rule) ≠ [] :=
        mt List.map_eq_nil_iff.mp hne
      rw [scan_found hmap (by rw [hsome, List.length_map])]
      refine List.forall_mem_cons.mpr ⟨rfl, ih (Or.inl ?_)
        hbeside.right_of_append⟩
      rcases List.exists_cons_of_ne_nil (mt List.reverse_eq_nil_iff.mp hmap)
        with ⟨mark, back, hback⟩
      rw [hback]
      rfl
  | @pass before more later piece hnone hrest ih =>
      rcases scan_cases Rule.fqdn.findMark behind piece later with
        ⟨n, value, hsome, _⟩ | ⟨_, heq⟩
      · exfalso
        rcases Rule.of_findMark hsome with
          ⟨hplace, name, rest, hname, hsplit, _, hfollows, _⟩
        have hwhole : Cut (· = Rule.fqdn) (piece :: more)
            (name.map Piece.kept ++ rest) :=
          hsplit ▸ Cut.same piece (hrest.cut allowed_fqdn)
        rcases hwhole.of_run with ⟨first, hfirst, hmore⟩
        have hthere := follows_before hname hmore (hsplit ▸ hbeside) hfollows
        rcases hbehind with hsame | ⟨run, front, _, rfl, hfind⟩
        · rcases Rule.findMark_isSome (hsame.trans hplace) hname hthere with
            ⟨k, found, hfound⟩
          rw [← hfirst] at hfound
          exact hnone k found hfound
        · have htext := findText_of_findMark hfind
          rw [hfirst, List.map_append, map_shadow_kept] at htext
          exact not_joined htext hname hthere
      · rw [heq]
        exact List.forall_mem_cons.mpr ⟨rfl, ih (Or.inl rfl)
          (List.isChain_cons.mp hbeside).2⟩

/-- The rule for names finds nothing new in what it has made. -/
theorem markRule_fqdn_again {marks : List Mark} (h : Seated marks) :
    markRule (markRule marks Rule.fqdn) Rule.fqdn =
      markRule marks Rule.fqdn := by
  rw [markRule, stage_eq_iff Rule.fqdn.findMark_onKept]
  exact searches_again (searches_stage Rule.fqdn.findMark_onKept marks)
    (Or.inl rfl) (markRule_seated h Rule.fqdn).beside

end Evidence
end IntelAmt
