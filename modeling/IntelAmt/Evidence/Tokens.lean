import IntelAmt.Evidence.Marks

/-!
# The tokens of a text

The redactor hands out a token for every value that is replaced, and keeps it;
the text that it makes is the marked text with these tokens.
-/

namespace IntelAmt
namespace Evidence

open Foundation Errors

namespace Redactor

/-- Every token that is kept has been handed out. -/
def Sound (redactor : Redactor) : Prop :=
  forall category value token, redactor.tokens category value = some token ->
    exists n, 0 < n ∧ n ≤ redactor.counts category ∧
      token = tokenText category n

/-- All tokens are still kept later. -/
def Extends (redactor later : Redactor) : Prop :=
  forall category value token, redactor.tokens category value = some token ->
    later.tokens category value = some token

theorem Extends.refl (redactor : Redactor) : redactor.Extends redactor :=
  fun _ _ _ h => h

theorem Extends.trans {first second third : Redactor}
    (h : first.Extends second) (hlater : second.Extends third) :
    first.Extends third :=
  fun category value token htoken =>
    hlater category value token (h category value token htoken)

theorem sound_new : Sound new :=
  fun _ _ _ h => nomatch h

/-- What a token costs. -/
structure Handed (redactor : Redactor) (category : Category)
    (value : List Nat) (result : Redactor × List Nat) : Prop where
  sound : result.1.Sound
  extends_ : redactor.Extends result.1
  token : result.1.tokens category value = some result.2
  counts (other : Category) :
    result.1.counts other ≤ redactor.counts other + 1

section Mint

variable (redactor : Redactor) (category : Category) (value : List Nat)

theorem mint_token : (redactor.mint category value).tokens category value =
    some (tokenText category (redactor.counts category + 1)) := by
  rw [mint]
  dsimp only
  rw [Function.update_self, Function.update_self]

theorem mint_other {other : Category} {text : List Nat}
    (h : ¬ (other = category ∧ text = value)) :
    (redactor.mint category value).tokens other text =
      redactor.tokens other text := by
  rw [mint]
  dsimp only
  by_cases heq : other = category
  · subst heq
    rw [Function.update_self, Function.update_of_ne]
    exact fun htext => h ⟨rfl, htext⟩
  · rw [Function.update_of_ne heq]

theorem mint_counts (other : Category) :
    (redactor.mint category value).counts other =
      redactor.counts other + if other = category then 1 else 0 := by
  rw [mint]
  dsimp only
  by_cases heq : other = category
  · subst heq
    rw [Function.update_self, if_pos rfl]
  · rw [Function.update_of_ne heq, if_neg heq, Nat.add_zero]

end Mint

theorem mint_sound {redactor : Redactor} (h : redactor.Sound)
    (category : Category) (value : List Nat) :
    (redactor.mint category value).Sound := by
  intro other text token htoken
  rw [mint_counts]
  by_cases hpair : other = category ∧ text = value
  · rcases hpair with ⟨rfl, rfl⟩
    rw [mint_token, Option.some.injEq] at htoken
    rw [if_pos rfl]
    exact ⟨_, Nat.succ_pos _, Nat.le_refl _, htoken.symm⟩
  · rw [mint_other redactor category value hpair] at htoken
    rcases h other text token htoken with ⟨n, hpos, hle, heq⟩
    exact ⟨n, hpos, Nat.le_add_right_of_le hle, heq⟩

theorem mint_extends {redactor : Redactor} {category : Category}
    {value : List Nat} (h : redactor.tokens category value = none) :
    redactor.Extends (redactor.mint category value) := by
  intro other text token htoken
  rw [mint_other redactor category value, htoken]
  rintro ⟨rfl, rfl⟩
  rw [h] at htoken
  cases htoken

theorem tokenFor_handed {redactor : Redactor} (h : redactor.Sound)
    (category : Category) (value : List Nat) :
    Handed redactor category value (redactor.tokenFor category value) := by
  rw [tokenFor]
  cases htoken : redactor.tokens category value with
  | some token =>
      exact ⟨h, Extends.refl redactor, htoken, fun _ => Nat.le_succ _⟩
  | none =>
      refine ⟨mint_sound h category value, mint_extends htoken,
        mint_token redactor category value, ?_⟩
      intro other
      have hcounts := mint_counts redactor category value other
      change (redactor.mint category value).counts other ≤ _
      rw [hcounts]
      split <;> lia

/-- The token that stands for a value of a rule. -/
def tokenOf (redactor : Redactor) (value : List Nat) (rule : Rule) :
    List Nat :=
  (redactor.tokens rule.category value).getD []

theorem replace_eq (redactor : Redactor) (rule : Rule) (value : List Nat) :
    redactor.replace rule.category value =
      if rule.replaces value then redactor.tokenFor rule.category value
      else (redactor, value) := by
  have hfqdn : rule.category = Category.fqdn ↔ rule = Rule.fqdn := by
    cases rule <;> decide
  rw [replace, Rule.replaces]
  simp only [hfqdn]
  by_cases htoken : isToken value = true
  · rw [if_pos htoken, htoken]
    rfl
  · rw [if_neg htoken, Bool.eq_false_iff.mpr htoken]
    by_cases hname : rule = Rule.fqdn ∧ isDnsName value = false
    · rw [if_pos hname, decide_eq_true hname.1, hname.2]
      rfl
    · rw [if_neg hname, if_pos]
      simp only [Bool.not_false, Bool.true_and, Bool.not_eq_true',
        Bool.and_eq_false_iff, decide_eq_false_iff_not,
        Bool.not_eq_false']
      rw [not_and_or, Bool.not_eq_false] at hname
      exact hname

/-- The values that have been found, with the rule if they are replaced. -/
def retag (rule : Rule) : Piece Nat (List (Nat × List Nat)) ->
    Piece Nat (Option Rule) :=
  Piece.retag fun value _ => if rule.replaces value then some rule else none

/-- What one rule does to a text that has been searched. -/
structure Substituted (redactor : Redactor)
    (found : List (Piece Nat (Option Rule)))
    (result : Redactor × List Nat) : Prop where
  sound : result.1.Sound
  extends_ : redactor.Extends result.1
  text {later : Redactor} : result.1.Extends later ->
    result.2 = found.flatMap (Piece.rewritten later.tokenOf)
  known {value : List Nat} {rule : Rule} :
    Piece.found value (some rule) ∈ found ->
      (result.1.tokens rule.category value).isSome = true
  counts (category : Category) : result.1.counts category ≤
    redactor.counts category + found.countP Piece.isNew

theorem sub_substituted {redactor : Redactor} (h : redactor.Sound)
    (rule : Rule) (found : List (Piece Nat (List (Nat × List Nat)))) :
    Substituted redactor (found.map (retag rule))
      (sub rule.category redactor found) := by
  induction found generalizing redactor with
  | nil =>
      exact ⟨h, Extends.refl redactor, fun _ => rfl,
        fun hmem => absurd hmem List.not_mem_nil, fun _ => Nat.le_refl _⟩
  | cons piece found ih =>
      cases piece with
      | kept c =>
          have hrest := ih h
          refine ⟨hrest.sound, hrest.extends_, ?_, ?_, hrest.counts⟩
          · intro later hlater
            exact congrArg (c :: ·) (hrest.text hlater)
          · intro value other hmem
            rcases List.mem_cons.mp hmem with hkept | hmem
            · cases hkept
            · exact hrest.known hmem
      | found value groups =>
          rw [sub, replace_eq]
          by_cases hreplaces : rule.replaces value = true
          · have htag : retag rule (Piece.found value groups) =
                Piece.found value (some rule) := by
              rw [retag, Piece.retag, if_pos hreplaces]
            have hhanded := tokenFor_handed h rule.category value
            have hrest := ih hhanded.sound
            rw [if_pos hreplaces, List.map_cons, htag]
            refine ⟨hrest.sound, hhanded.extends_.trans hrest.extends_, ?_, ?_,
              ?_⟩
            · intro later hlater
              have htoken : later.tokenOf value rule =
                  (redactor.tokenFor rule.category value).2 := by
                rw [tokenOf, hlater _ _ _
                  (hrest.extends_ _ _ _ hhanded.token)]
                rfl
              rw [List.flatMap_cons, Piece.rewritten, htoken,
                ← hrest.text hlater]
            · intro other found hmem
              rcases List.mem_cons.mp hmem with hhead | hmem
              · cases hhead
                rw [hrest.extends_ _ _ _ hhanded.token]
                rfl
              · exact hrest.known hmem
            · intro category
              have hone := hhanded.counts category
              have hmore := hrest.counts category
              have hnew : (Piece.found value (some rule) ::
                  found.map (retag rule)).countP Piece.isNew =
                  (found.map (retag rule)).countP Piece.isNew + 1 :=
                List.countP_cons_of_pos rfl
              rw [hnew]
              dsimp only at hmore ⊢
              lia
          · have htag : retag rule (Piece.found value groups) =
                Piece.found value none := by
              rw [retag, Piece.retag, if_neg hreplaces]
            have hrest := ih h
            rw [if_neg hreplaces, List.map_cons, htag]
            refine ⟨hrest.sound, hrest.extends_, ?_, ?_, hrest.counts⟩
            · intro later hlater
              exact congrArg (value ++ ·) (hrest.text hlater)
            · intro other found hmem
              rcases List.mem_cons.mp hmem with hhead | hmem
              · cases hhead
              · exact hrest.known hmem

theorem redactRule_substituted {redactor : Redactor} (h : redactor.Sound)
    (rule : Rule) (text : List Nat) :
    Substituted redactor (scan rule.findText [] 0 text)
      (redactRule (redactor, text) rule) := by
  have hscan : scan rule.findText [] 0 text =
      (scan rule.pattern.find [] 0 text).map (retag rule) :=
    scan_retag rule.pattern.find
      (fun value _ => if rule.replaces value then some rule else none) [] 0 text
  rw [hscan]
  exact sub_substituted h rule _

end Redactor

/-!
## Texts and their marks
-/

/-- The values of a text are not empty. -/
def Solid (marks : List Mark) : Prop :=
  forall mark, mark ∈ marks -> mark.source ≠ []

theorem values_le {marks : List Mark} (h : Solid marks) :
    marks.countP Piece.isFound ≤ (sourceOf marks).length := by
  induction marks with
  | nil => exact Nat.le_refl 0
  | cons mark marks ih =>
      have hrest := ih fun other hother => h other (List.mem_cons_of_mem _ hother)
      have hpos := List.length_pos_iff.mpr (h mark List.mem_cons_self)
      have hcons : ([mark] ++ marks).countP Piece.isFound =
          [mark].countP Piece.isFound + marks.countP Piece.isFound :=
        List.countP_append
      have hone : [mark].countP Piece.isFound ≤ 1 := List.countP_le_length
      rw [List.singleton_append] at hcons
      rw [sourceOf_cons, List.length_append, hcons]
      lia

/-- The redactor has made the text of the marks. -/
structure Tracks (start : Redactor) (text : List Nat)
    (state : Redactor × List Nat) (marks : List Mark) : Prop where
  sound : state.1.Sound
  extends_ : start.Extends state.1
  shown : state.2 = render state.1.tokenOf marks
  known {value : List Nat} {rule : Rule} :
    Piece.found value rule ∈ marks ->
      (state.1.tokens rule.category value).isSome = true
  counts (category : Category) : state.1.counts category ≤
    start.counts category + marks.countP Piece.isFound
  source : sourceOf marks = text
  solid : Solid marks

/-- Too few tokens have been handed out for their numbers to look like a
value, even if every character of a text becomes one. -/
def Few (redactor : Redactor) (length : Nat) : Prop :=
  forall category, redactor.counts category + length < tokenLimit

section Tracks

variable {start : Redactor} {text : List Nat} {state : Redactor × List Nat}
variable {marks : List Mark}

theorem Tracks.good (h : Tracks start text state marks)
    (hfew : Few start text.length) {later : Redactor}
    (hlater : state.1.Extends later) :
    forall mark, mark ∈ marks -> Good later.tokenOf mark := by
  intro mark hmark
  cases mark with
  | kept c => trivial
  | found value rule =>
      rcases Option.isSome_iff_exists.mp (h.known hmark) with ⟨token, htoken⟩
      rcases h.sound _ _ _ htoken with ⟨n, _, hle, rfl⟩
      refine ⟨rule.category, n, ?_, ?_⟩
      · rw [Redactor.tokenOf, hlater _ _ _ htoken]
        rfl
      · have hcounts := h.counts rule.category
        have hvalues := values_le h.solid
        have hlimit := hfew rule.category
        rw [h.source] at hvalues
        lia

theorem Tracks.shown_later (h : Tracks start text state marks)
    {later : Redactor} (hlater : state.1.Extends later) :
    state.2 = render later.tokenOf marks := by
  rw [h.shown]
  apply List.flatMap_congr
  intro mark hmark
  cases mark with
  | kept c => rfl
  | found value rule =>
      rcases Option.isSome_iff_exists.mp (h.known hmark) with ⟨token, htoken⟩
      rw [Piece.render, Piece.render, Redactor.tokenOf, Redactor.tokenOf,
        htoken, hlater _ _ _ htoken]

theorem found_of_stage {find : Finder Mark (Option Rule)}
    (hwithin : OnKept find) {value : List Nat} {rule : Rule}
    (h : Piece.found value rule ∈ stage find marks) :
    Piece.found value rule ∈ marks ∨
      Piece.found (value.map Piece.kept) (some rule) ∈
        scan find [] 0 marks := by
  rcases List.mem_flatMap.mp h with ⟨piece, hpiece, hmem⟩
  have hsource := sourceOf_scan find [] 0 marks
  rw [List.drop_zero] at hsource
  cases piece with
  | kept mark =>
      rw [Piece.settle, List.mem_singleton] at hmem
      refine Or.inl (hsource ▸ List.mem_flatMap.mpr ⟨_, hpiece, ?_⟩)
      exact hmem ▸ List.mem_singleton_self mark
  | found inner result =>
      rcases scan_onKept hwithin hpiece with ⟨run, rfl⟩
      cases result with
      | none =>
          rcases List.mem_map.mp hmem with ⟨c, _, heq⟩
          cases heq
      | some other =>
          rw [Piece.settle, List.mem_singleton, sourceOf_map_kept] at hmem
          cases hmem
          exact Or.inr hpiece

theorem markRule_cut (marks : List Mark) (rule : Rule) :
    Cut (· = rule) marks (markRule marks rule) :=
  cut_scan rule.findMark_onKept (fun _ _ _ _ h => Rule.eq_of_findMark h) [] 0
    marks

theorem Tracks.step (h : Tracks start text state marks)
    (hfew : Few start text.length) (rule : Rule) :
    Tracks start text (Redactor.redactRule state rule)
      (markRule marks rule) := by
  have hs : Redactor.Substituted state.1 (scan rule.findText [] 0 state.2)
      (Redactor.redactRule state rule) :=
    Redactor.redactRule_substituted h.sound rule state.2
  have hgood := h.good hfew hs.extends_
  have hsimulates := simulates
    (Redactor.redactRule state rule).1.tokenOf rule
  have hscan := scan_render_all hsimulates hgood
  rw [← h.shown_later hs.extends_] at hscan
  have hcut := markRule_cut marks rule
  refine ⟨hs.sound, h.extends_.trans hs.extends_, ?_, ?_, ?_,
    hcut.sourceOf_eq.trans h.source, hcut.nonempty h.solid⟩
  · rw [hs.text (Redactor.Extends.refl _), h.shown_later hs.extends_]
    exact render_stage hsimulates hgood
  · intro value other hfound
    rcases found_of_stage rule.findMark_onKept hfound with hold | hnew
    · rcases Option.isSome_iff_exists.mp (h.known hold) with ⟨token, htoken⟩
      rw [hs.extends_ _ _ _ htoken]
      rfl
    · apply hs.known
      rw [hscan]
      refine List.mem_flatMap.mpr ⟨_, hnew, ?_⟩
      have hkept : (value.map Piece.kept).flatMap (Piece.render
          (Redactor.redactRule state rule).1.tokenOf) = value :=
        render_map_kept value
      rw [Piece.expand, hkept]
      exact List.mem_singleton_self _
  · intro category
    have hone := hs.counts category
    have hmore := h.counts category
    rw [hscan, countP_expand] at hone
    rw [markRule, countP_stage rule.findMark_onKept]
    lia

theorem tracks_start (hsound : start.Sound) (text : List Nat) :
    Tracks start text (start, text) (text.map Piece.kept) := by
  refine ⟨hsound, Redactor.Extends.refl start, (render_map_kept text).symm, ?_,
    ?_, sourceOf_map_kept text, ?_⟩
  · intro value rule hfound
    rcases List.mem_map.mp hfound with ⟨c, _, heq⟩
    cases heq
  · exact fun category => Nat.le_add_right _ _
  · intro mark hmark
    rcases List.mem_map.mp hmark with ⟨c, _, rfl⟩
    exact List.cons_ne_nil c []

/-- The text that is made is the marked text with tokens. -/
theorem redactText_tracks (hsound : start.Sound)
    (hfew : Few start text.length) :
    Tracks start text (start.redactText text) (markText text) := by
  have hfold : forall (some : List Rule) {state : Redactor × List Nat}
      {marks : List Mark}, Tracks start text state marks ->
        Tracks start text (some.foldl Redactor.redactRule state)
          (some.foldl markRule marks) := by
    intro some
    induction some with
    | nil => exact fun h => h
    | cons rule some ih => exact fun h => ih (h.step hfew rule)
  exact hfold rules (tracks_start hsound text)

end Tracks

/-!
## Texts that stay as they are
-/

/-- A rule replaces nothing in a text. -/
def Untouched (rule : Rule) (text : List Nat) : Prop :=
  forall piece, piece ∈ scan rule.findText [] 0 text -> piece.isNew = false

instance (rule : Rule) (text : List Nat) : Decidable (Untouched rule text) :=
  inferInstanceAs (Decidable (forall piece,
    piece ∈ scan rule.findText [] 0 text -> piece.isNew = false))

theorem untouched_render {token : List Nat -> Rule -> List Nat}
    {marks : List Mark} (hgood : forall mark, mark ∈ marks -> Good token mark)
    (rule : Rule) :
    Untouched rule (render token marks) ↔ markRule marks rule = marks := by
  have hscan := scan_render_all (simulates token rule) hgood
  have hcount := countP_expand token (scan rule.findMark [] 0 marks)
  have hzero : forall {sigma : Type} (found : List (Piece sigma (Option Rule))),
      (forall piece, piece ∈ found -> piece.isNew = false) ↔
        found.countP Piece.isNew = 0 := by
    intro sigma found
    rw [List.countP_eq_zero]
    exact forall₂_congr fun _ _ => Bool.eq_false_iff
  rw [markRule, stage_eq_iff rule.findMark_onKept, hzero, ← hcount, ← hscan,
    ← hzero]
  exact Iff.rfl

/-- A value that a rule has found is one that it reads. -/
theorem read_of_scan {rule : Rule} {text value : List Nat}
    {result : Option Rule}
    (h : Piece.found value result ∈ scan rule.findText [] 0 text) :
    value ∈ rule.body.language ∧
      result = if rule.replaces value then some rule else none := by
  rcases found_of_scan h with ⟨front, rest, n, hfind, rfl⟩
  rcases Rule.of_findText hfind with ⟨_, read, later, hread, rfl, rfl, _, hr⟩
  rw [List.take_left]
  exact ⟨hread, hr⟩

theorem count_bracket_inner (category : Category) (n : Nat) :
    (tokenText category n).count '<'.toNat = 1 := by
  have hnone : (tokenInner category n).count '<'.toNat = 0 :=
    List.count_eq_zero.mpr fun h => (not_point_of_inner h).2.2.1 rfl
  rw [tokenText_eq, List.count_cons_self, List.count_append, hnone]
  rfl

theorem count_redactRule {redactor : Redactor} (h : redactor.Sound)
    (rule : Rule) (text : List Nat) :
    (Redactor.redactRule (redactor, text) rule).2.count '<'.toNat =
      text.count '<'.toNat +
        (scan rule.findText [] 0 text).countP Piece.isNew := by
  have hs := Redactor.redactRule_substituted h rule text
  have hsource := sourceOf_scan rule.findText [] 0 text
  rw [List.drop_zero] at hsource
  have hpieces : forall found : List (Piece Nat (Option Rule)),
      (forall piece, piece ∈ found ->
        piece ∈ scan rule.findText [] 0 text) ->
      (found.flatMap (Piece.rewritten
        (Redactor.redactRule (redactor, text) rule).1.tokenOf)).count
          '<'.toNat =
        (sourceOf found).count '<'.toNat + found.countP Piece.isNew := by
    intro found hfound
    induction found with
    | nil => rfl
    | cons piece found ih =>
        rw [List.forall_mem_cons] at hfound
        have hcons : ([piece] ++ found).countP Piece.isNew =
            [piece].countP Piece.isNew + found.countP Piece.isNew :=
          List.countP_append
        have hone : (piece.rewritten
            (Redactor.redactRule (redactor, text) rule).1.tokenOf).count
              '<'.toNat =
            piece.source.count '<'.toNat + [piece].countP Piece.isNew := by
          cases piece with
          | kept c => rfl
          | found value result =>
              cases result with
              | none => rfl
              | some other =>
                  have hread := (read_of_scan hfound.1).1
                  have hzero : value.count '<'.toNat = 0 :=
                    List.count_eq_zero.mpr
                      (Rule.bracket_notMem hread (Or.inl rfl))
                  rcases Option.isSome_iff_exists.mp (hs.known hfound.1) with
                    ⟨token, htoken⟩
                  rcases hs.sound _ _ _ htoken with ⟨n, _, _, rfl⟩
                  rw [Piece.rewritten, Redactor.tokenOf, htoken,
                    Option.getD_some, count_bracket_inner, Piece.source, hzero]
                  rfl
        rw [List.singleton_append] at hcons
        rw [List.flatMap_cons, List.count_append, sourceOf_cons,
          List.count_append, hcons, hone, ih hfound.2]
        lia
  rw [hs.text (Redactor.Extends.refl _), hpieces _ fun _ hmem => hmem, hsource]

theorem sub_untouched {rule : Rule} (redactor : Redactor)
    {found : List (Piece Nat (List (Nat × List Nat)))}
    (h : forall piece, piece ∈ found ->
      (Redactor.retag rule piece).isNew = false) :
    Redactor.sub rule.category redactor found =
      (redactor, sourceOf found) := by
  induction found with
  | nil => rfl
  | cons piece found ih =>
      rw [List.forall_mem_cons] at h
      cases piece with
      | kept c =>
          rw [Redactor.sub, ih h.2]
          rfl
      | found value groups =>
          have hkept : ¬ rule.replaces value = true := by
            intro hreplaces
            have hold := h.1
            rw [Redactor.retag, Piece.retag, if_pos hreplaces] at hold
            cases hold
          rw [Redactor.sub, Redactor.replace_eq, if_neg hkept, ih h.2]
          rfl

theorem redactRule_untouched {rule : Rule} {text : List Nat}
    (h : Untouched rule text) (redactor : Redactor) :
    Redactor.redactRule (redactor, text) rule = (redactor, text) := by
  have hscan : scan rule.findText [] 0 text =
      (scan rule.pattern.find [] 0 text).map (Redactor.retag rule) :=
    scan_retag rule.pattern.find
      (fun value _ => if rule.replaces value then some rule else none) [] 0 text
  have hsource := sourceOf_scan rule.pattern.find [] 0 text
  rw [List.drop_zero] at hsource
  rw [Untouched, hscan] at h
  have hsub := sub_untouched redactor fun piece hpiece =>
    h _ (List.mem_map_of_mem hpiece)
  rw [Redactor.redactRule]
  dsimp only
  rw [hsub, hsource]

/-- By induction on the rules: every one of them keeps the brackets of the
text, and adds one for every value that it replaces. -/
theorem foldl_redactRule (some : List Rule) {redactor : Redactor}
    (h : redactor.Sound) (text : List Nat) :
    text.count '<'.toNat ≤
        (some.foldl Redactor.redactRule (redactor, text)).2.count
          '<'.toNat ∧
      ((some.foldl Redactor.redactRule (redactor, text)).2.count '<'.toNat =
          text.count '<'.toNat ->
        forall rule, rule ∈ some -> Untouched rule text) := by
  induction some generalizing redactor text with
  | nil => exact ⟨Nat.le_refl _, fun _ _ hmem => absurd hmem List.not_mem_nil⟩
  | cons rule some ih =>
      have hcount := count_redactRule h rule text
      have hs := Redactor.redactRule_substituted h rule text
      have hrest := ih hs.sound (Redactor.redactRule (redactor, text) rule).2
      rw [List.foldl_cons]
      refine ⟨Nat.le_trans (by lia) hrest.1, ?_⟩
      intro hsame
      have hfewer := hrest.1
      rw [hsame] at hfewer
      have hzero : (scan rule.findText [] 0 text).countP Piece.isNew = 0 := by
        lia
      have huntouched : Untouched rule text := fun piece hpiece =>
        Bool.eq_false_iff.mpr (List.countP_eq_zero.mp hzero piece hpiece)
      rw [redactRule_untouched huntouched] at hsame
      exact List.forall_mem_cons.mpr ⟨huntouched, (ih h text).2 hsame⟩

theorem mem_rules (rule : Rule) : rule ∈ rules := by
  cases rule <;> decide

theorem redactText_untouched {text : List Nat}
    (h : forall rule, Untouched rule text) (redactor : Redactor) :
    redactor.redactText text = (redactor, text) := by
  have hfold : forall some : List Rule,
      some.foldl Redactor.redactRule (redactor, text) = (redactor, text) := by
    intro some
    induction some with
    | nil => rfl
    | cons rule some ih =>
        rw [List.foldl_cons, redactRule_untouched (h rule), ih]
  exact hfold rules

theorem redactText_eq_iff {redactor : Redactor} (h : redactor.Sound)
    (text : List Nat) :
    (redactor.redactText text).2 = text ↔
      forall rule, Untouched rule text := by
  constructor
  · intro hsame rule
    exact (foldl_redactRule rules h text).2
      (congrArg (List.count '<'.toNat) hsame) rule (mem_rules rule)
  · intro huntouched
    rw [redactText_untouched huntouched]

end Evidence
end IntelAmt
