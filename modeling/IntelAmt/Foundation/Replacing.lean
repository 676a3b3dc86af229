import IntelAmt.Foundation.Cuts

/-!
# Replacing literals

Literals that are replaced one after the other by a marker in brackets.  A
literal without brackets that is not in the marker is found only where the text
had it from the beginning.
-/

namespace IntelAmt
namespace Foundation

variable {alpha : Type}

theorem prefix_before {stop : alpha} {secret front back : List alpha}
    (hstop : stop ∉ secret) (h : secret <+: front ++ stop :: back) :
    secret <+: front := by
  induction front generalizing secret with
  | nil =>
      cases secret with
      | nil => exact List.nil_prefix
      | cons c secret =>
          rw [List.nil_append, List.cons_prefix_cons] at h
          exact absurd (h.1 ▸ List.mem_cons_self) hstop
  | cons d front ih =>
      cases secret with
      | nil => exact List.nil_prefix
      | cons c secret =>
          rw [List.cons_append, List.cons_prefix_cons] at h
          rw [List.cons_prefix_cons]
          exact ⟨h.1, ih (fun hmem => hstop (List.mem_cons_of_mem _ hmem)) h.2⟩

theorem prefix_render {start : alpha} {tail secret : List alpha}
    (hstart : start ∉ secret) (pieces : List (Piece alpha Unit)) :
    secret <+: render (fun _ _ => start :: tail) pieces ↔
      secret.map Piece.kept <+: pieces := by
  induction pieces generalizing secret with
  | nil =>
      change secret <+: [] ↔ _
      rw [List.prefix_nil, List.prefix_nil, List.map_eq_nil_iff]
  | cons piece rest ih =>
      cases secret with
      | nil => exact iff_of_true List.nil_prefix List.nil_prefix
      | cons c secret =>
          rw [List.mem_cons, not_or] at hstart
          rw [render_cons, List.map_cons, List.cons_prefix_cons]
          cases piece with
          | kept d =>
              change c :: secret <+: d :: render _ rest ↔ _
              rw [List.cons_prefix_cons, ih hstart.2, Piece.kept.injEq]
          | found text value =>
              change c :: secret <+: start :: _ ↔ _
              rw [List.cons_prefix_cons]
              constructor
              · exact fun h => absurd h.1.symm hstart.1
              · rintro ⟨h, _⟩
                cases h

/-- A literal that the marker neither contains nor can be joined to. -/
structure Foreign (start stop : alpha) (word secret : List alpha) : Prop where
  nonempty : secret ≠ []
  start : start ∉ secret
  stop : stop ∉ secret
  word : ¬ secret <:+: word

theorem Foreign.not_inside {start stop : alpha} {word secret : List alpha}
    (h : Foreign start stop word secret)
    {front back rest : List alpha}
    (heq : start :: (word ++ [stop]) = front ++ back) (hfront : front ≠ [])
    (hback : back ≠ []) : ¬ secret <+: back ++ rest := by
  intro hstarts
  cases front with
  | nil => exact hfront rfl
  | cons c front =>
      rw [List.cons_append, List.cons.injEq] at heq
      rcases List.eq_nil_or_concat back with rfl | ⟨inner, last, rfl⟩
      · exact hback rfl
      · rw [List.concat_eq_append, ← List.append_assoc] at heq
        rw [List.concat_eq_append] at hstarts
        have hword := List.append_inj' heq.2 rfl
        rw [List.cons.injEq] at hword
        rw [← hword.2.1, List.append_assoc] at hstarts
        apply h.word
        rw [hword.1]
        exact (prefix_before h.stop hstarts).isInfix.trans
          (List.suffix_append _ _).isInfix

section Literals

variable [DecidableEq alpha]

def literal (secret : List alpha) : Finder alpha (Option Unit) :=
  fun _ rest =>
    if secret <+: rest then some (secret.length, some ()) else none

/-- `text.replace(secret, marker)`. -/
def replace (marker text secret : List alpha) : List alpha :=
  (scan (literal secret) [] 0 text).flatMap
    (Piece.rewritten fun _ _ => marker)

def replaceAll (marker : List alpha) (secrets : List (List alpha))
    (text : List alpha) : List alpha :=
  secrets.foldl (replace marker) text

/-- The literal among the pieces of a text. -/
def literalPiece (secret : List alpha) :
    Finder (Piece alpha Unit) (Option Unit) :=
  fun _ rest =>
    if secret.map Piece.kept <+: rest then some (secret.length, some ())
    else none

variable {start stop : alpha} {word secret : List alpha}

theorem literalPiece_found {before pieces : List (Piece alpha Unit)} {n : Nat}
    {value : Option Unit}
    (h : literalPiece secret before pieces = some (n, value)) :
    n = secret.length ∧ value = some () ∧
      secret.map Piece.kept <+: pieces := by
  by_cases hstarts : secret.map Piece.kept <+: pieces
  · rw [literalPiece, if_pos hstarts] at h
    cases h
    exact ⟨rfl, rfl, hstarts⟩
  · rw [literalPiece, if_neg hstarts] at h
    cases h

theorem literalPiece_onKept (secret : List alpha) :
    OnKept (literalPiece secret) := by
  intro before pieces n value h
  rcases literalPiece_found h with ⟨rfl, _, rest, heq⟩
  exact ⟨secret, rest, rfl, heq.symm⟩

theorem Foreign.simulates (h : Foreign start stop word secret) :
    Simulates (fun _ _ => start :: (word ++ [stop])) (fun _ => True)
      (literal secret) (literalPiece secret) where
  agrees _ _ := if_congr (prefix_render h.start _) rfl rfl
  within := literalPiece_onKept secret
  inside _ heq hfront hback _ := if_neg (h.not_inside heq hfront hback)

/-- Replacing a literal is finding it among the pieces. -/
theorem Foreign.replace_render (h : Foreign start stop word secret)
    (pieces : List (Piece alpha Unit)) :
    replace (start :: (word ++ [stop]))
        (render (fun _ _ => start :: (word ++ [stop])) pieces) secret =
      render (fun _ _ => start :: (word ++ [stop]))
        (stage (literalPiece secret) pieces) :=
  render_stage h.simulates fun _ _ => trivial

theorem found_of_literal {run : List alpha} {value : Unit}
    (before : List (Piece alpha Unit)) (skip : Nat)
    (pieces : List (Piece alpha Unit))
    (h : Piece.found run value ∈
      (scan (literalPiece secret) before skip pieces).flatMap Piece.settle) :
    run = secret ∨ Piece.found run value ∈ pieces := by
  induction pieces generalizing before skip with
  | nil => exact absurd h List.not_mem_nil
  | cons piece rest ih =>
      have hrest : forall before skip, Piece.found run value ∈
          (scan (literalPiece secret) before skip rest).flatMap Piece.settle ->
          run = secret ∨ Piece.found run value ∈ piece :: rest :=
        fun before skip hmem =>
          (ih before skip hmem).imp_right (List.mem_cons_of_mem piece)
      cases skip with
      | succ skip => exact hrest _ _ h
      | zero =>
          rcases scan_cases (literalPiece secret) before piece rest with
            ⟨n, result, hsome, heq⟩ | ⟨_, heq⟩
          · rcases literalPiece_found hsome with ⟨hn, rfl, more, hmore⟩
            rw [heq, List.flatMap_cons, Piece.settle] at h
            rcases List.mem_append.mp h with hfound | hmem
            · have hsource : piece :: rest.take n =
                  secret.map Piece.kept := by
                rw [← List.take_succ_cons, ← hmore]
                exact List.take_left' ((List.length_map _).trans hn.symm)
              rw [List.mem_singleton, hsource, sourceOf_map_kept] at hfound
              cases hfound
              exact Or.inl rfl
            · exact hrest _ _ hmem
          · rw [heq, List.flatMap_cons, Piece.settle] at h
            rcases List.mem_append.mp h with hkept | hmem
            · rw [List.mem_singleton] at hkept
              exact Or.inr (hkept ▸ List.mem_cons_self)
            · exact hrest _ _ hmem

theorem literal_gone (hne : secret ≠ []) (before : List (Piece alpha Unit))
    (skip : Nat) (pieces : List (Piece alpha Unit)) :
    ¬ secret.map Piece.kept <:+:
      (scan (literalPiece secret) before skip pieces).flatMap
        Piece.settle := by
  induction pieces generalizing before skip with
  | nil =>
      intro h
      exact hne (List.map_eq_nil_iff.mp (List.infix_nil.mp h))
  | cons piece rest ih =>
      cases skip with
      | succ skip => exact ih _ _
      | zero =>
          rcases List.exists_cons_of_ne_nil hne with ⟨c, tail, rfl⟩
          have hcut := cut_scan (literalPiece_onKept (c :: tail))
            (fun _ _ _ _ _ => trivial) before 0 (piece :: rest)
          rw [List.drop_zero] at hcut
          rcases scan_cases (literalPiece (c :: tail)) before piece rest with
            ⟨n, result, hsome, heq⟩ | ⟨hnone, heq⟩
          · rcases literalPiece_found hsome with ⟨_, rfl, _⟩
            rw [heq]
            intro h
            rcases List.infix_cons_iff.mp h with hstarts | hpart
            · rw [List.map_cons, List.cons_prefix_cons] at hstarts
              cases hstarts.1
            · exact ih _ _ hpart
          · rw [heq] at hcut ⊢
            intro h
            rcases List.infix_cons_iff.mp h with hstarts | hpart
            · exact hnone tail.length (some ())
                (if_pos (hcut.prefix_kept hstarts))
            · exact ih _ _ hpart

end Literals

/-!
## All literals
-/

/-- Every secret in the text lies before the part or behind it. -/
def Apart (secrets : List (List alpha)) (before part after : List alpha) :
    Prop :=
  forall secret, secret ∈ secrets -> forall front back,
    before ++ part ++ after = front ++ secret ++ back ->
      front.length + secret.length ≤ before.length ∨
        before.length + part.length ≤ front.length

/-- The text comes apart into characters that are kept and into secrets, each
of which is replaced by the marker; a part that no secret overlaps is kept, at
its place. -/
structure Redacts (marker : List alpha) (secrets : List (List alpha))
    (text result : List alpha) (pieces : List (Piece alpha Unit)) : Prop where
  source : sourceOf pieces = text
  shown : render (fun _ _ => marker) pieces = result
  removed {run : List alpha} {value : Unit} :
    Piece.found run value ∈ pieces -> run ∈ secrets
  kept {before part after : List alpha} : text = before ++ part ++ after ->
    Apart secrets before part after ->
      exists front back, pieces = front ++ part.map Piece.kept ++ back ∧
        sourceOf front = before ∧ sourceOf back = after

theorem Apart.drop {secrets : List (List alpha)}
    {ahead before part after : List alpha}
    (h : Apart secrets (ahead ++ before) part after) :
    Apart secrets before part after := by
  intro secret hsecret front back heq
  have hlonger := h secret hsecret (ahead ++ front) back (by
    rw [List.append_assoc, List.append_assoc, ← List.append_assoc before, heq]
    simp only [List.append_assoc])
  simp only [List.length_append] at hlonger
  lia

section Parts

variable {secrets : List (List alpha)}
variable (hnonempty : forall secret, secret ∈ secrets -> secret ≠ [])
include hnonempty

theorem kept_part {pieces : List (Piece alpha Unit)}
    (hremoved : forall run value, Piece.found run value ∈ pieces ->
      run ∈ secrets)
    {part after : List alpha} (hsource : sourceOf pieces = part ++ after)
    (hapart : Apart secrets [] part after) :
    exists back, pieces = part.map Piece.kept ++ back ∧
      sourceOf back = after := by
  induction part generalizing pieces with
  | nil => exact ⟨pieces, rfl, hsource⟩
  | cons c part ih =>
      cases pieces with
      | nil => cases hsource
      | cons piece rest =>
          have hrest : forall run value, Piece.found run value ∈ rest ->
              run ∈ secrets :=
            fun run value hmem =>
              hremoved run value (List.mem_cons_of_mem _ hmem)
          cases piece with
          | kept d =>
              rw [sourceOf_cons] at hsource
              rcases List.cons.inj hsource with ⟨rfl, htail⟩
              have hshorter : Apart secrets [] part after := by
                intro secret hsecret front back heq
                have hlonger := hapart secret hsecret (d :: front) back
                  (congrArg (d :: ·) heq)
                have hne := List.length_pos_iff.mpr (hnonempty secret hsecret)
                simp only [List.length_nil, List.length_cons] at hlonger ⊢
                lia
              rcases ih hrest htail hshorter with ⟨back, rfl, hback⟩
              exact ⟨back, rfl, hback⟩
          | found run value =>
              have hrun := hremoved run value List.mem_cons_self
              have hne := List.length_pos_iff.mpr (hnonempty run hrun)
              have hoverlap := hapart run hrun [] (sourceOf rest) hsource.symm
              simp only [List.length_nil, List.length_cons] at hoverlap
              lia

/-- By induction on the pieces: what is found in front of the part ends in
front of it. -/
theorem kept_of_apart {pieces : List (Piece alpha Unit)}
    (hremoved : forall run value, Piece.found run value ∈ pieces ->
      run ∈ secrets)
    {before part after : List alpha}
    (hsource : sourceOf pieces = before ++ part ++ after)
    (hapart : Apart secrets before part after) :
    exists front back, pieces = front ++ part.map Piece.kept ++ back ∧
      sourceOf front = before ∧ sourceOf back = after := by
  induction pieces generalizing before with
  | nil =>
      rcases List.append_eq_nil_iff.mp hsource.symm with ⟨hfront, rfl⟩
      rcases List.append_eq_nil_iff.mp hfront with ⟨rfl, rfl⟩
      exact ⟨[], [], rfl, rfl, rfl⟩
  | cons piece rest ih =>
      have hrest : forall run value, Piece.found run value ∈ rest ->
          run ∈ secrets :=
        fun run value hmem => hremoved run value (List.mem_cons_of_mem _ hmem)
      cases before with
      | nil =>
          rcases kept_part hnonempty hremoved hsource hapart with
            ⟨back, heq, hback⟩
          exact ⟨[], back, heq, rfl, hback⟩
      | cons c before =>
          have hahead : exists later, c :: before = piece.source ++ later := by
            rw [sourceOf_cons] at hsource
            cases piece with
            | kept d =>
                rcases List.cons.inj hsource with ⟨rfl, _⟩
                exact ⟨before, rfl⟩
            | found run value =>
                have hends := hapart run (hremoved run value List.mem_cons_self)
                  [] (sourceOf rest) hsource.symm
                simp only [List.length_nil, List.length_cons] at hends
                have hshort : run.length ≤ (c :: before).length := by
                  rw [List.length_cons]
                  lia
                rw [List.append_assoc] at hsource
                exact (List.prefix_of_prefix_length_le ⟨_, hsource⟩
                  (List.prefix_append _ _) hshort).imp fun _ h => h.symm
          rcases hahead with ⟨later, hlater⟩
          rw [hlater] at hsource hapart ⊢
          rw [sourceOf_cons, List.append_assoc, List.append_assoc,
            List.append_right_inj, ← List.append_assoc] at hsource
          rcases ih hrest hsource hapart.drop with
            ⟨front, back, rfl, rfl, hback⟩
          exact ⟨piece :: front, back, rfl, sourceOf_cons piece front, hback⟩

end Parts

theorem infix_append_cases {part front back : List alpha}
    (h : part <:+: front ++ back) :
    (exists ahead rest, front = ahead ++ rest ∧ rest ≠ [] ∧
      part <+: rest ++ back) ∨ part <:+: back := by
  induction front with
  | nil => exact Or.inr h
  | cons c front ih =>
      rcases List.infix_cons_iff.mp h with hstarts | hpart
      · exact Or.inl ⟨[], c :: front, rfl, List.cons_ne_nil _ _, hstarts⟩
      · rcases ih hpart with ⟨ahead, rest, rfl, hne, hrest⟩ | hback
        · exact Or.inl ⟨c :: ahead, rest, rfl, hne, hrest⟩
        · exact Or.inr hback

theorem infix_side {stop : alpha} {part front back : List alpha}
    (hstop : stop ∉ part) (h : part <:+: front ++ stop :: back) :
    part <:+: front ∨ part <:+: back := by
  rcases infix_append_cases h with ⟨ahead, rest, rfl, _, hstarts⟩ | hback
  · exact Or.inl ((prefix_before hstop hstarts).isInfix.trans
      (List.suffix_append _ _).isInfix)
  · rcases List.infix_cons_iff.mp hback with hstarts | hback
    · have hnil : part <+: [] := prefix_before hstop hstarts
      exact Or.inl (List.prefix_nil.mp hnil ▸ List.nil_infix)
    · exact Or.inr hback

section Run

variable {start stop : alpha} {word : List alpha}

theorem Foreign.infix_render {secret : List alpha}
    (h : Foreign start stop word secret) {pieces : List (Piece alpha Unit)}
    (hpart : secret <:+:
      render (fun _ _ => start :: (word ++ [stop])) pieces) :
    secret.map Piece.kept <:+: pieces := by
  induction pieces with
  | nil =>
      exact absurd (List.infix_nil.mp hpart) h.nonempty
  | cons piece rest ih =>
      rw [render_cons] at hpart
      rcases infix_append_cases hpart with
        ⟨ahead, tail, heq, hne, hstarts⟩ | hrest
      · cases ahead with
        | nil =>
            rw [List.nil_append] at heq
            rw [← heq, ← render_cons] at hstarts
            exact ((prefix_render h.start _).mp hstarts).isInfix
        | cons c ahead =>
            cases piece with
            | kept d =>
                rw [List.cons_append] at heq
                have htail := (List.cons.inj heq).2
                exact absurd (List.append_eq_nil_iff.mp htail.symm).2 hne
            | found text value =>
                exact absurd hstarts
                  (h.not_inside heq (List.cons_ne_nil _ _) hne)
      · exact (ih hrest).trans (List.suffix_cons piece rest).isInfix

variable [DecidableEq alpha] {secrets : List (List alpha)}

/-- The pieces of a text when one literal after the other has been found. -/
def cutLiterals (secrets : List (List alpha))
    (pieces : List (Piece alpha Unit)) : List (Piece alpha Unit) :=
  secrets.foldl (fun pieces secret => stage (literalPiece secret) pieces) pieces

theorem cut_stage_literal (secret : List alpha)
    (pieces : List (Piece alpha Unit)) :
    Cut (fun _ => True) pieces (stage (literalPiece secret) pieces) :=
  cut_scan (literalPiece_onKept secret) (fun _ _ _ _ _ => trivial) [] 0 pieces

theorem replaceAll_render
    (hforeign : forall secret, secret ∈ secrets ->
      Foreign start stop word secret) (pieces : List (Piece alpha Unit)) :
    replaceAll (start :: (word ++ [stop])) secrets
        (render (fun _ _ => start :: (word ++ [stop])) pieces) =
      render (fun _ _ => start :: (word ++ [stop]))
        (cutLiterals secrets pieces) := by
  induction secrets generalizing pieces with
  | nil => rfl
  | cons secret secrets ih =>
      rw [List.forall_mem_cons] at hforeign
      rw [replaceAll, List.foldl_cons, hforeign.1.replace_render]
      exact ih hforeign.2 _

theorem sourceOf_cutLiterals (pieces : List (Piece alpha Unit)) :
    sourceOf (cutLiterals secrets pieces) = sourceOf pieces := by
  induction secrets generalizing pieces with
  | nil => rfl
  | cons secret secrets ih =>
      exact (ih _).trans (cut_stage_literal secret pieces).sourceOf_eq

theorem found_of_cutLiterals {pieces : List (Piece alpha Unit)}
    {run : List alpha} {value : Unit}
    (h : Piece.found run value ∈ cutLiterals secrets pieces) :
    run ∈ secrets ∨ Piece.found run value ∈ pieces := by
  induction secrets generalizing pieces with
  | nil => exact Or.inr h
  | cons secret secrets ih =>
      rcases ih h with hmem | hfound
      · exact Or.inl (List.mem_cons_of_mem _ hmem)
      · rcases found_of_literal [] 0 pieces hfound with rfl | hmem
        · exact Or.inl List.mem_cons_self
        · exact Or.inr hmem

/-- A literal that is gone does not come back. -/
theorem cutLiterals_gone {run : List alpha} {pieces : List (Piece alpha Unit)}
    (h : ¬ run.map Piece.kept <:+: pieces) :
    ¬ run.map Piece.kept <:+: cutLiterals secrets pieces := by
  induction secrets generalizing pieces with
  | nil => exact h
  | cons secret secrets ih =>
      exact ih fun hpart => h ((cut_stage_literal secret pieces).infix_kept
        hpart)

theorem cutLiterals_all_gone
    (hnonempty : forall secret, secret ∈ secrets -> secret ≠ [])
    {secret : List alpha} (hsecret : secret ∈ secrets)
    (pieces : List (Piece alpha Unit)) :
    ¬ secret.map Piece.kept <:+: cutLiterals secrets pieces := by
  induction secrets generalizing pieces with
  | nil => exact absurd hsecret List.not_mem_nil
  | cons first secrets ih =>
      rw [List.forall_mem_cons] at hnonempty
      rcases List.mem_cons.mp hsecret with rfl | hlater
      · change ¬ _ <:+: cutLiterals secrets (stage (literalPiece secret) pieces)
        exact cutLiterals_gone (literal_gone hnonempty.1 [] 0 pieces)
      · exact ih hnonempty.2 hlater _

/-- Replacing literals leaves none of them, and keeps everything that none of
them overlaps. -/
theorem replaceAll_redacts
    (hforeign : forall secret, secret ∈ secrets ->
      Foreign start stop word secret) (text : List alpha) :
    (exists pieces, Redacts (start :: (word ++ [stop])) secrets text
      (replaceAll (start :: (word ++ [stop])) secrets text) pieces) ∧
    forall secret, secret ∈ secrets ->
      ¬ secret <:+: replaceAll (start :: (word ++ [stop])) secrets text := by
  have hnonempty : forall secret, secret ∈ secrets -> secret ≠ [] :=
    fun secret hsecret => (hforeign secret hsecret).nonempty
  have hshown := replaceAll_render hforeign (text.map Piece.kept)
  rw [render_map_kept] at hshown
  have hsource : sourceOf (cutLiterals secrets (text.map Piece.kept)) = text :=
    (sourceOf_cutLiterals _).trans (sourceOf_map_kept text)
  have hremoved : forall run value, Piece.found run value ∈
      cutLiterals secrets (text.map Piece.kept) -> run ∈ secrets := by
    intro run value hfound
    rcases found_of_cutLiterals hfound with hmem | hmem
    · exact hmem
    · rcases List.mem_map.mp hmem with ⟨c, _, heq⟩
      cases heq
  refine ⟨⟨cutLiterals secrets (text.map Piece.kept), hsource, hshown.symm,
    hremoved _ _, ?_⟩, ?_⟩
  · rintro before part after rfl hapart
    exact kept_of_apart hnonempty hremoved hsource hapart
  · intro secret hsecret hpart
    rw [hshown] at hpart
    exact cutLiterals_all_gone hnonempty hsecret _
      ((hforeign secret hsecret).infix_render hpart)

end Run

end Foundation
end IntelAmt
