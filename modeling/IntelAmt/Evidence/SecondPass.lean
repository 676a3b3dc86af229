import IntelAmt.Evidence.Seams

/-!
# The second pass

Redacting a redacted document once more, with a new redactor: what has been
replaced as a whole stays, and so does a text in which tokens stand, unless the
text has a seam, or stands under an identifying key that was not looked at
before.
-/

namespace IntelAmt
namespace Evidence

open Foundation Errors

/-- A string that a second pass leaves as the first one has made it. -/
def Spot.Settled (spot : Spot) : Prop :=
  spot.key.any isExempt = true ∨
    (spot.census && isShape spot.text) = true ∨
    (spot.key.bind identifying ≠ none ∧
      (Unmarked spot.text ∨ Whole spot.text)) ∨
    (spot.key.bind identifying = none ∧ ¬ Seam (markText spot.text))

/-!
## Strings that are passed for a second time
-/

theorem redactString_fixes_iff {redactor : Redactor} (hsound : redactor.Sound)
    {key : Option (List Nat)} (hkey : key.any isExempt = false)
    {text : List Nat} :
    redactor.redactString key text = (redactor, text) ↔
      Unmarked text ∧ (key.bind identifying = none ∨ text = [] ∨
        isToken text = true) := by
  by_cases h : Unmarked text
  · rw [Redactor.redactString_unmarked hkey h, and_iff_right h]
    cases hidentifying : key.bind identifying with
    | none => exact iff_of_true rfl (Or.inl rfl)
    | some category =>
        dsimp only
        by_cases hnew : text ≠ [] ∧ isToken text = false
        · rw [if_pos hnew]
          refine iff_of_false ?_ ?_
          · intro hsame
            have hhanded := Redactor.tokenFor_handed hsound category text
            rcases hhanded.sound _ _ _ hhanded.token with ⟨n, _, _, htoken⟩
            have hshown : (redactor.tokenFor category text).2 = text :=
              congrArg Prod.snd hsame
            rw [htoken] at hshown
            have htext : isToken text = true :=
              hshown ▸ isToken_tokenText category n
            exact Bool.noConfusion (htext.symm.trans hnew.2)
          · intro hcases
            rcases hcases with hnone | hempty | htoken
            · cases hnone
            · exact hnew.1 hempty
            · exact Bool.noConfusion (htoken.symm.trans hnew.2)
        · rw [if_neg hnew]
          refine iff_of_true rfl (Or.inr ?_)
          rw [not_and_or, Bool.not_eq_false, not_not] at hnew
          exact hnew
  · refine iff_of_false ?_ fun hboth => h hboth.1
    intro hsame
    rw [Redactor.redactString_marked hsound hkey h] at hsame
    exact h ((redactText_eq_iff hsound text).mp (congrArg Prod.snd hsame))

theorem unmarked_tokenText {category : Category} {n : Nat}
    (hn : n < tokenLimit) : Unmarked (tokenText category n) := by
  intro rule
  have hgood : forall mark, mark ∈ [Piece.found ([] : List Nat) rule] ->
      Good (fun _ _ => tokenText category n) mark := by
    intro mark hmark
    rw [List.mem_singleton.mp hmark]
    exact ⟨category, n, rfl, hn⟩
  have hrender := untouched_render hgood rule
  have hshown : render (fun _ _ => tokenText category n)
      [Piece.found ([] : List Nat) rule] = tokenText category n :=
    List.append_nil _
  rw [hshown] at hrender
  exact hrender.mpr (markRule_found [] rule rule)

section Strings

variable {redactor : Redactor} {key : Option (List Nat)} {text : List Nat}

/-- A token that has been handed out for a string. -/
theorem handed_small (hsound : redactor.Sound)
    (hfew : Few redactor text.length) {category : Category}
    {token : List Nat}
    (h : (redactor.redactString key text).1.tokens category text =
      some token) :
    exists n, n < tokenLimit ∧ token = tokenText category n := by
  have hleads := @Redactor.redactString_leads redactor key text hsound hfew
  rcases hleads.1.sound hsound _ _ _ h with ⟨n, _, hle, rfl⟩
  have hcounts := hleads.2 category
  have hlimit := hfew category
  exact ⟨n, by lia, rfl⟩

theorem fixes_unmarked (hsound : redactor.Sound)
    (hfew : Few redactor text.length) (hkey : key.any isExempt = false)
    (h : Unmarked text) :
    Redactor.new.redactString key (redactor.redactString key text).2 =
      (Redactor.new, (redactor.redactString key text).2) := by
  rw [redactString_fixes_iff Redactor.sound_new hkey]
  have hsmall := fun category token =>
    @handed_small redactor key text hsound hfew category token
  rw [Redactor.redactString_unmarked hkey h] at hsmall ⊢
  cases hidentifying : key.bind identifying with
  | none => exact ⟨h, Or.inl rfl⟩
  | some category =>
      rw [hidentifying] at hsmall
      dsimp only at hsmall ⊢
      by_cases hnew : text ≠ [] ∧ isToken text = false
      · rw [if_pos hnew] at hsmall ⊢
        have hhanded := Redactor.tokenFor_handed hsound category text
        rcases hsmall category _ hhanded.token with ⟨n, hn, htoken⟩
        rw [htoken]
        exact ⟨unmarked_tokenText hn,
          Or.inr (Or.inr (isToken_tokenText category n))⟩
      · rw [if_neg hnew]
        rw [not_and_or, Bool.not_eq_false, not_not] at hnew
        exact ⟨h, Or.inr hnew⟩

theorem whole_of_token {state : Redactor × List Nat}
    (h : Tracks redactor text state (markText text))
    (hgood : forall mark, mark ∈ markText text -> Good state.1.tokenOf mark)
    {value : List Nat} {rule : Rule}
    (hfound : Piece.found value rule ∈ markText text)
    (htoken : isToken state.2 = true) : Whole text := by
  have hbracketed := bracketed_of_isToken htoken
  rw [h.shown] at hbracketed
  have hmarks := eq_singleton_of_bracketed hgood hbracketed hfound
  have hsource := h.source
  rw [hmarks, sourceOf_cons, Piece.source] at hsource
  have htext : value = text := (List.append_nil value).symm.trans hsource
  rw [htext] at hmarks
  exact whole_iff.mpr ⟨rule, hmarks⟩

theorem token_of_single {state : Redactor × List Nat}
    (h : Tracks redactor text state (markText text)) {rule : Rule}
    (hmarks : markText text = [Piece.found text rule]) :
    isToken state.2 = true := by
  have hfound : Piece.found text rule ∈ markText text := by
    rw [hmarks]
    exact List.mem_singleton_self _
  rcases Option.isSome_iff_exists.mp (h.known hfound) with ⟨token, htoken⟩
  rcases h.sound _ _ _ htoken with ⟨n, _, _, rfl⟩
  have hshown : state.2 = tokenText rule.category n := by
    rw [h.shown, hmarks, render_cons, Piece.render, Redactor.tokenOf, htoken]
    exact List.append_nil _
  rw [hshown]
  exact isToken_tokenText rule.category n

/-- What a string with values becomes stays as it is, if it has no seam, or is
a single token where the key asks for one. -/
theorem fixes_marked (hsound : redactor.Sound)
    (hfew : Few redactor text.length) (hkey : key.any isExempt = false)
    (h : ¬ Unmarked text) :
    Redactor.new.redactString key (redactor.redactString key text).2 =
        (Redactor.new, (redactor.redactString key text).2) ↔
      (key.bind identifying ≠ none ∧ Whole text) ∨
        (key.bind identifying = none ∧ ¬ Seam (markText text)) := by
  have htracks := redactText_tracks hsound hfew
  have hgood := htracks.good hfew (Redactor.Extends.refl _)
  rcases exists_found h with ⟨value, rule, hfound⟩
  have hseam : Unmarked (redactor.redactText text).2 ↔
      ¬ Seam (markText text) := by
    rw [htracks.shown, ← new_iff_seam, not_exists]
    exact forall_congr' fun rule =>
      (untouched_render hgood rule).trans not_not.symm
  rw [redactString_fixes_iff Redactor.sound_new hkey,
    Redactor.redactString_marked hsound hkey h, hseam]
  by_cases hnone : key.bind identifying = none
  · constructor
    · exact fun hboth => Or.inr ⟨hnone, hboth.1⟩
    · intro hcases
      rcases hcases with hwhole | hclean
      · exact absurd hnone hwhole.1
      · exact ⟨hclean.2, Or.inl hnone⟩
  · constructor
    · intro hboth
      refine Or.inl ⟨hnone, ?_⟩
      rcases hboth.2 with hkeyless | hempty | htoken
      · exact absurd hkeyless hnone
      · rw [htracks.shown] at hempty
        exact absurd hempty
          (render_ne_nil hgood (List.ne_nil_of_mem hfound))
      · exact whole_of_token htracks hgood hfound htoken
    · intro hcases
      rcases hcases with hwhole | hclean
      · rcases whole_iff.mp hwhole.2 with ⟨other, hmarks⟩
        have hsingle : ¬ Seam (markText text) := by
          rw [← new_iff_seam, hmarks, not_exists]
          exact fun rule => not_not_intro (markRule_found text other rule)
        exact ⟨hsingle, Or.inr (Or.inr (token_of_single htracks hmarks))⟩
      · exact absurd hclean.1 hnone

theorem bracket_of_changed (hsound : redactor.Sound)
    (hfew : Few redactor text.length)
    (h : (redactor.redactString key text).2 ≠ text) :
    '<'.toNat ∈ (redactor.redactString key text).2 := by
  have hsmall := fun category token =>
    @handed_small redactor key text hsound hfew category token
  cases hkey : key.any isExempt with
  | true =>
      rw [Redactor.redactString_exempt hkey] at h
      exact absurd rfl h
  | false =>
      by_cases hmarked : Unmarked text
      · rw [Redactor.redactString_unmarked hkey hmarked] at h hsmall ⊢
        cases hidentifying : key.bind identifying with
        | none =>
            rw [hidentifying] at h
            exact absurd rfl h
        | some category =>
            rw [hidentifying] at h hsmall
            dsimp only at h hsmall ⊢
            by_cases hnew : text ≠ [] ∧ isToken text = false
            · rw [if_pos hnew] at hsmall ⊢
              have hhanded := Redactor.tokenFor_handed hsound category text
              rcases hsmall category _ hhanded.token with ⟨n, _, htoken⟩
              rw [htoken, tokenText_eq]
              exact List.mem_cons_self
            · rw [if_neg hnew] at h
              exact absurd rfl h
      · have htracks := redactText_tracks hsound hfew
        have hgood := htracks.good hfew (Redactor.Extends.refl _)
        rcases exists_found hmarked with ⟨value, rule, hfound⟩
        rcases hgood _ hfound with ⟨category, n, htoken, _⟩
        rw [Redactor.redactString_marked hsound hkey hmarked, htracks.shown]
        refine List.mem_flatMap.mpr ⟨_, hfound, ?_⟩
        rw [Piece.render, htoken, tokenText_eq]
        exact List.mem_cons_self

end Strings

theorem not_shape_of_bracket {text : List Nat} (h : '<'.toNat ∈ text) :
    isShape text = false := by
  have hall : forall shape, shape ∈ propertyShapes ->
      '<'.toNat ∉ points shape := by
    decide
  apply Bool.eq_false_iff.mpr
  intro hshape
  rcases List.any_eq_true.mp hshape with ⟨shape, hmem, heq⟩
  rw [← of_decide_eq_true heq] at h
  exact hall shape hmem h

/-!
## Documents
-/

/-- What becomes of a string of a document stays as it is where the string is
settled, and only there. -/
theorem fixes_iff_settled {redactor : Redactor} {spot : Spot}
    (hsound : redactor.Sound) (hfew : Few redactor spot.text.length) :
    Redactor.new.Fixes (redactor.redactSpot spot).2 ↔ spot.Settled := by
  rcases spot with ⟨key, census, text⟩
  rw [Redactor.redactSpot, Spot.Settled]
  dsimp only at hfew ⊢
  by_cases hshape : (census && isShape text) = true
  · rw [if_pos hshape]
    exact iff_of_true (Redactor.fixes_iff.mpr (Or.inl hshape))
      (Or.inr (Or.inl hshape))
  · rw [if_neg hshape, Redactor.fixes_iff, or_iff_right hshape]
    dsimp only [Spot.with]
    have hstays : ¬ (census && isShape
        (redactor.redactString key text).2) = true := by
      intro hagain
      by_cases hsame : (redactor.redactString key text).2 = text
      · rw [hsame] at hagain
        exact hshape hagain
      · rw [not_shape_of_bracket (bracket_of_changed hsound hfew hsame),
          Bool.and_false] at hagain
        cases hagain
    rw [or_iff_right hstays]
    cases hkey : key.any isExempt with
    | true =>
        rw [Redactor.redactString_exempt hkey]
        exact iff_of_true rfl (Or.inl rfl)
    | false =>
        rw [or_iff_right Bool.false_ne_true]
        by_cases hmarked : Unmarked text
        · refine iff_of_true (fixes_unmarked hsound hfew hkey hmarked) ?_
          by_cases hnone : key.bind identifying = none
          · refine Or.inr ⟨hnone, ?_⟩
            rw [← new_iff_seam, not_exists, markText, foldl_untouched fun rule _ =>
              hmarked rule]
            exact fun rule =>
              not_not_intro (markRule_untouched.mpr (hmarked rule))
          · exact Or.inl ⟨hnone, Or.inl hmarked⟩
        · rw [fixes_marked hsound hfew hkey hmarked, or_iff_right hmarked]

theorem redactString_same {redactor : Redactor} (hsound : redactor.Sound)
    {key : Option (List Nat)} {text : List Nat}
    (h : (redactor.redactString key text).2 = text) :
    redactor.redactString key text = (redactor, text) := by
  cases hkey : key.any isExempt with
  | true => exact Redactor.redactString_exempt hkey
  | false =>
      by_cases hmarked : Unmarked text
      · rw [Redactor.redactString_unmarked hkey hmarked] at h ⊢
        cases hidentifying : key.bind identifying with
        | none => rfl
        | some category =>
            rw [hidentifying] at h
            dsimp only at h ⊢
            by_cases hnew : text ≠ [] ∧ isToken text = false
            · rw [if_pos hnew] at h
              have hhanded := Redactor.tokenFor_handed hsound category text
              rcases hhanded.sound _ _ _ hhanded.token with ⟨n, _, _, htoken⟩
              have htext : isToken text = true := by
                rw [← h, htoken]
                exact isToken_tokenText category n
              exact Bool.noConfusion (htext.symm.trans hnew.2)
            · rw [if_neg hnew]
      · rw [Redactor.redactString_marked hsound hkey hmarked] at h
        exact absurd ((redactText_eq_iff hsound text).mp h) hmarked

theorem fixes_of_same {redactor : Redactor} (hsound : redactor.Sound)
    {spot : Spot} (h : (redactor.redactSpot spot).2 = spot) :
    redactor.Fixes spot := by
  rw [Redactor.fixes_iff]
  by_cases hshape : (spot.census && isShape spot.text) = true
  · exact Or.inl hshape
  · rw [Redactor.redactSpot, if_neg hshape] at h
    exact Or.inr (redactString_same hsound (congrArg Spot.text h))

theorem fixes_of_thread {redactor : Redactor} (hsound : redactor.Sound)
    {strings : List Spot}
    (h : (thread Redactor.redactSpot redactor strings).2 = strings) :
    forall spot, spot ∈ strings -> redactor.Fixes spot := by
  induction strings with
  | nil => exact fun _ hmem => absurd hmem List.not_mem_nil
  | cons spot strings ih =>
      rw [thread_cons, List.cons.injEq] at h
      have hfixes := fixes_of_same hsound h.1
      rw [hfixes] at h
      exact List.forall_mem_cons.mpr ⟨hfixes, ih h.2⟩

theorem redactValue_same_iff {redactor : Redactor} (hsound : redactor.Sound)
    (key : Option (List Nat)) (doc : Json) :
    redactor.redactValue key doc = (redactor, doc) ↔
      forall spot, spot ∈ spots false key doc -> redactor.Fixes spot := by
  constructor
  · intro hsame
    have hspots := Redactor.redactValue_spots doc redactor key
    rw [hsame] at hspots
    exact fixes_of_thread hsound (congrArg Prod.snd hspots)
  · exact Redactor.redactValue_same doc redactor key

/-- Redacting a document once more with a new redactor changes nothing, and
hands out no token, if every string is settled, and only then. -/
theorem second_pass_iff {redactor : Redactor} (hsound : redactor.Sound)
    (key : Option (List Nat)) (doc : Json)
    (hfew : Few redactor (textLength (spots false key doc))) :
    Redactor.new.redactValue key (redactor.redactValue key doc).2 =
        (Redactor.new, (redactor.redactValue key doc).2) ↔
      forall spot, spot ∈ spots false key doc -> spot.Settled := by
  have hthreads := @threads_redact (fun _ spot shown =>
    Redactor.new.Fixes shown ↔ spot.Settled)
    fun hsound hfew _ => fixes_iff_settled hsound hfew
  have hwalk := (hthreads.walk ⟨hsound, hfew⟩).2
  rw [Redactor.redactValue_spots] at hwalk
  rw [redactValue_same_iff Redactor.sound_new]
  exact forall_iff_forall hwalk

theorem second_pass_iff_image :
    Redactor.new.redactValue none
        (Redactor.new.redactValue none (pathDoc "/srv/x.iso")).2 =
      (Redactor.new,
        (Redactor.new.redactValue none (pathDoc "/srv/x.iso")).2) := by
  refine (second_pass_iff Redactor.sound_new none (pathDoc "/srv/x.iso")
    (few_pathDoc _ (by decide))).mpr ?_
  intro spot hspot
  cases List.mem_singleton.mp hspot
  refine Or.inr (Or.inr (Or.inl ⟨by decide, Or.inl fun rule => ?_⟩))
  cases rule <;> decide +kernel

/-- A path in which an address has been replaced is replaced by the second
pass. -/
theorem path_is_renamed :
    spots false none (Redactor.new.redactValue none
        (Redactor.new.redactValue none (pathDoc "/10.0.0.5/a")).2).2 =
      [{ key := some (points "path"), census := false,
         text := points "<redacted-path-1>" }] ∧
    Redactor.new.redactValue none
        (Redactor.new.redactValue none (pathDoc "/10.0.0.5/a")).2 ≠
      (Redactor.new,
        (Redactor.new.redactValue none (pathDoc "/10.0.0.5/a")).2) := by
  have hfirst : spots false none (Redactor.new.redactValue none
      (pathDoc "/10.0.0.5/a")).2 =
        [{ key := some (points "path"), census := false,
           text := points "/<redacted-ipv4-1>/a" }] := by
    decide +kernel
  have hsecond : spots false none (Redactor.new.redactValue none
      (Redactor.new.redactValue none (pathDoc "/10.0.0.5/a")).2).2 =
        [{ key := some (points "path"), census := false,
           text := points "<redacted-path-1>" }] := by
    decide +kernel
  refine ⟨hsecond, ?_⟩
  intro hsame
  rw [hsame] at hsecond
  have hboth := hfirst.symm.trans hsecond
  revert hboth
  decide

example : (Redactor.new.redactText
      (Redactor.new.redactText (points "1::dead.com")).2).2 =
    points "<redacted-ipv6-1><redacted-fqdn-1>" := by
  decide +kernel

end Evidence
end IntelAmt
