import Mathlib.Data.List.Infix

/-!
# Pieces

A text that is searched from left to right, and the pieces into which it comes
apart: the characters that are kept and the parts that are found.  A text that
has been searched already is searched again piece by piece, where what has been
found is a single piece.
-/

namespace IntelAmt
namespace Foundation

inductive Piece (alpha rho : Type) where
  | kept (c : alpha)
  | found (text : List alpha) (value : rho)
deriving DecidableEq

variable {alpha rho sigma : Type}

def Piece.source : Piece alpha rho -> List alpha
  | Piece.kept c => [c]
  | Piece.found text _ => text

def sourceOf (pieces : List (Piece alpha rho)) : List alpha :=
  pieces.flatMap Piece.source

/-- The text of a piece, where something stands for what has been found. -/
def Piece.render (token : List alpha -> rho -> List alpha) :
    Piece alpha rho -> List alpha
  | Piece.kept c => [c]
  | Piece.found text value => token text value

def render (token : List alpha -> rho -> List alpha)
    (pieces : List (Piece alpha rho)) : List alpha :=
  pieces.flatMap (Piece.render token)

/-- The text before a place, its last character first, and the text behind it
give the length of what is found there, and what it is. -/
abbrev Finder (alpha rho : Type) : Type :=
  List alpha -> List alpha -> Option (Nat × rho)

/-- The search of a text.  The number says how many characters belong to what
has been found last; nothing is found that has no characters. -/
def scan (find : Finder alpha rho) :
    List alpha -> Nat -> List alpha -> List (Piece alpha rho)
  | _, _, [] => []
  | before, skip + 1, c :: rest => scan find (c :: before) skip rest
  | before, 0, c :: rest =>
      match find before (c :: rest) with
      | some (n + 1, value) =>
          Piece.found (c :: rest.take n) value :: scan find (c :: before) n rest
      | _ => Piece.kept c :: scan find (c :: before) 0 rest

theorem scan_cases (find : Finder alpha rho) (before : List alpha) (c : alpha)
    (rest : List alpha) :
    (exists n value, find before (c :: rest) = some (n + 1, value) ∧
      scan find before 0 (c :: rest) =
        Piece.found (c :: rest.take n) value ::
          scan find (c :: before) n rest) ∨
    ((forall n value, find before (c :: rest) ≠ some (n + 1, value)) ∧
      scan find before 0 (c :: rest) =
        Piece.kept c :: scan find (c :: before) 0 rest) := by
  rw [scan]
  split
  · next n value hsome => exact Or.inl ⟨n, value, hsome, rfl⟩
  · next hnone => exact Or.inr ⟨hnone, rfl⟩

theorem sourceOf_cons (piece : Piece alpha rho)
    (pieces : List (Piece alpha rho)) :
    sourceOf (piece :: pieces) = piece.source ++ sourceOf pieces :=
  List.flatMap_cons

theorem sourceOf_append (front back : List (Piece alpha rho)) :
    sourceOf (front ++ back) = sourceOf front ++ sourceOf back :=
  List.flatMap_append

theorem sourceOf_scan (find : Finder alpha rho) (before : List alpha)
    (skip : Nat) (text : List alpha) :
    sourceOf (scan find before skip text) = text.drop skip := by
  induction text generalizing before skip with
  | nil =>
      rw [scan, List.drop_nil]
      rfl
  | cons c rest ih =>
      cases skip with
      | succ skip =>
          rw [scan, List.drop_succ_cons]
          exact ih _ _
      | zero =>
          rcases scan_cases find before c rest with
            ⟨n, value, _, heq⟩ | ⟨_, heq⟩
          · rw [heq, sourceOf_cons, ih, Piece.source, List.cons_append,
              List.take_append_drop, List.drop_zero]
          · rw [heq, sourceOf_cons, ih]
            rfl

theorem found_at {find : Finder alpha rho} {before : List alpha} {skip : Nat}
    {text found : List alpha} {value : rho}
    (h : Piece.found found value ∈ scan find before skip text) :
    exists front rest n, text = front ++ rest ∧
      find (front.reverse ++ before) rest = some (n, value) ∧
      found = rest.take n := by
  induction text generalizing before skip with
  | nil => exact absurd h List.not_mem_nil
  | cons c rest ih =>
      have hlater : forall {skip : Nat},
          Piece.found found value ∈ scan find (c :: before) skip rest ->
          exists front later n, c :: rest = front ++ later ∧
            find (front.reverse ++ before) later = some (n, value) ∧
            found = later.take n := by
        intro skip hmem
        rcases ih hmem with ⟨front, later, n, rfl, hfind, hfound⟩
        refine ⟨c :: front, later, n, rfl, ?_, hfound⟩
        rw [List.reverse_cons, List.append_assoc]
        exact hfind
      cases skip with
      | succ skip => exact hlater h
      | zero =>
          rcases scan_cases find before c rest with
            ⟨n, result, hsome, heq⟩ | ⟨_, heq⟩
          · rw [heq] at h
            rcases List.mem_cons.mp h with hfound | hmem
            · cases hfound
              exact ⟨[], c :: rest, n + 1, rfl, hsome, rfl⟩
            · exact hlater hmem
          · rw [heq] at h
            rcases List.mem_cons.mp h with hkept | hmem
            · cases hkept
            · exact hlater hmem

theorem found_of_scan {find : Finder alpha rho} {before : List alpha}
    {skip : Nat} {text found : List alpha} {value : rho}
    (h : Piece.found found value ∈ scan find before skip text) :
    exists front rest n, find front rest = some (n, value) ∧
      found = rest.take n := by
  rcases found_at h with ⟨front, rest, n, _, hfind, hfound⟩
  exact ⟨_, rest, n, hfind, hfound⟩

theorem source_ne_nil_of_scan {find : Finder alpha rho} {before : List alpha}
    {skip : Nat} {text : List alpha} {piece : Piece alpha rho}
    (h : piece ∈ scan find before skip text) : piece.source ≠ [] := by
  induction text generalizing before skip with
  | nil => exact absurd h List.not_mem_nil
  | cons c rest ih =>
      cases skip with
      | succ skip => exact ih h
      | zero =>
          rcases scan_cases find before c rest with
            ⟨n, value, _, heq⟩ | ⟨_, heq⟩
          · rw [heq] at h
            rcases List.mem_cons.mp h with rfl | hmem
            · exact List.cons_ne_nil _ _
            · exact ih hmem
          · rw [heq] at h
            rcases List.mem_cons.mp h with rfl | hmem
            · exact List.cons_ne_nil _ _
            · exact ih hmem

/-- The same pieces with other values. -/
def Piece.retag (g : List alpha -> rho -> sigma) :
    Piece alpha rho -> Piece alpha sigma
  | Piece.kept c => Piece.kept c
  | Piece.found text value => Piece.found text (g text value)

theorem scan_retag (find : Finder alpha rho) (g : List alpha -> rho -> sigma)
    (before : List alpha) (skip : Nat) (text : List alpha) :
    scan (fun before rest => (find before rest).map fun found =>
        (found.1, g (rest.take found.1) found.2)) before skip text =
      (scan find before skip text).map (Piece.retag g) := by
  induction text generalizing before skip with
  | nil => rfl
  | cons c rest ih =>
      cases skip with
      | succ skip => exact ih _ _
      | zero =>
          rcases scan_cases find before c rest with
            ⟨n, value, hsome, heq⟩ | ⟨hnone, heq⟩
          · rw [heq, List.map_cons, ← ih, scan, hsome]
            rfl
          · rw [heq, List.map_cons, ← ih, scan]
            split
            · next n value hsome =>
                rcases Option.map_eq_some_iff.mp hsome with
                  ⟨⟨k, other⟩, hfind, hpair⟩
                cases hpair
                exact absurd hfind (hnone n other)
            · rfl

/-!
## Searching again
-/

/-- What a search makes of the pieces: what is found becomes a single piece, or
stays as it is. -/
def Piece.settle : Piece (Piece alpha rho) (Option rho) ->
    List (Piece alpha rho)
  | Piece.kept piece => [piece]
  | Piece.found pieces none => pieces
  | Piece.found pieces (some value) => [Piece.found (sourceOf pieces) value]

def stage (find : Finder (Piece alpha rho) (Option rho))
    (pieces : List (Piece alpha rho)) : List (Piece alpha rho) :=
  (scan find [] 0 pieces).flatMap Piece.settle

/-- The text of what a search of a text finds or keeps. -/
def Piece.rewritten (token : List alpha -> rho -> List alpha) :
    Piece alpha (Option rho) -> List alpha
  | Piece.kept c => [c]
  | Piece.found text none => text
  | Piece.found text (some value) => token text value

/-- What is found among the pieces of a text, as a piece of the text. -/
def Piece.expand (token : List alpha -> rho -> List alpha) :
    Piece (Piece alpha rho) sigma -> List (Piece alpha sigma)
  | Piece.kept piece => (piece.render token).map Piece.kept
  | Piece.found pieces value =>
      [Piece.found (pieces.flatMap (Piece.render token)) value]

/-- Only characters that are kept are found. -/
def OnKept (findPiece : Finder (Piece alpha rho) sigma) : Prop :=
  forall (before pieces : List (Piece alpha rho)) (n : Nat)
    (value : sigma), findPiece before pieces = some (n, value) ->
      exists (run : List alpha) (rest : List (Piece alpha rho)),
        run.length = n ∧ pieces = run.map Piece.kept ++ rest

/-- The search of a text and the search of its pieces come to the same, if
pieces are good. -/
structure Simulates (token : List alpha -> rho -> List alpha)
    (good : Piece alpha rho -> Prop) (find : Finder alpha sigma)
    (findPiece : Finder (Piece alpha rho) sigma) : Prop where
  agrees {before pieces : List (Piece alpha rho)} :
    (forall piece, piece ∈ before -> good piece) ->
    (forall piece, piece ∈ pieces -> good piece) ->
      find (render token before.reverse).reverse (render token pieces) =
        findPiece before pieces
  within : OnKept findPiece
  inside {before front back text : List alpha} {value : rho}
    {pieces : List (Piece alpha rho)} :
    good (Piece.found text value) -> token text value = front ++ back ->
    front ≠ [] -> back ≠ [] -> (forall piece, piece ∈ pieces -> good piece) ->
      find (front.reverse ++ before) (back ++ render token pieces) = none

section Rendering

variable {token : List alpha -> rho -> List alpha}

theorem render_cons (piece : Piece alpha rho)
    (pieces : List (Piece alpha rho)) :
    render token (piece :: pieces) =
      Piece.render token piece ++ render token pieces :=
  List.flatMap_cons

theorem render_append (front back : List (Piece alpha rho)) :
    render token (front ++ back) = render token front ++ render token back :=
  List.flatMap_append

theorem render_map_kept (run : List alpha) :
    render token (run.map Piece.kept) = run := by
  induction run with
  | nil => rfl
  | cons c rest ih =>
      rw [List.map_cons, render_cons, ih]
      rfl

theorem sourceOf_map_kept (run : List alpha) :
    sourceOf (run.map (@Piece.kept alpha rho)) = run := by
  induction run with
  | nil => rfl
  | cons c rest ih =>
      rw [List.map_cons, sourceOf_cons, ih]
      rfl

theorem eq_map_kept {pieces : List (Piece alpha rho)}
    (h : forall text value, Piece.found text value ∉ pieces) :
    pieces = (sourceOf pieces).map Piece.kept := by
  induction pieces with
  | nil => rfl
  | cons piece pieces ih =>
      cases piece with
      | kept c =>
          rw [sourceOf_cons, Piece.source, List.singleton_append, List.map_cons,
            ← ih fun text value hmem =>
              h text value (List.mem_cons_of_mem _ hmem)]
      | found text value => exact absurd List.mem_cons_self (h text value)

theorem reverse_render (piece : Piece alpha rho)
    (before : List (Piece alpha rho)) :
    (render token (piece :: before).reverse).reverse =
      (Piece.render token piece).reverse ++
        (render token before.reverse).reverse := by
  rw [List.reverse_cons, render_append, List.reverse_append, render_cons]
  change (Piece.render token piece ++ []).reverse ++ _ = _
  rw [List.append_nil]

end Rendering

/-- A piece of a text, as one of the pieces that are all kept. -/
def Piece.lift : Piece alpha sigma -> Piece (Piece alpha rho) sigma
  | Piece.kept c => Piece.kept (Piece.kept c)
  | Piece.found text value => Piece.found (text.map Piece.kept) value

theorem scan_map_kept {find : Finder alpha sigma}
    {findPiece : Finder (Piece alpha rho) sigma}
    (h : forall before rest, findPiece (before.map Piece.kept)
      (rest.map Piece.kept) = find before rest)
    (before : List alpha) (skip : Nat) (text : List alpha) :
    scan findPiece (before.map Piece.kept) skip (text.map Piece.kept) =
      (scan find before skip text).map Piece.lift := by
  induction text generalizing before skip with
  | nil => rfl
  | cons c rest ih =>
      have hnext := ih (c :: before)
      have hfind := h before (c :: rest)
      rw [List.map_cons] at hnext hfind ⊢
      cases skip with
      | succ skip => exact hnext skip
      | zero =>
          rcases scan_cases find before c rest with
            ⟨n, value, hsome, heq⟩ | ⟨hnone, heq⟩
          · rw [hsome] at hfind
            rw [heq, List.map_cons, ← hnext, scan, hfind]
            dsimp only
            rw [Piece.lift, List.map_cons, List.map_take]
          · rw [heq, List.map_cons, ← hnext]
            rcases scan_cases findPiece (before.map Piece.kept) (Piece.kept c)
              (rest.map Piece.kept) with ⟨n, value, hsome, _⟩ | ⟨_, hpieces⟩
            · exact absurd (hfind ▸ hsome) (hnone n value)
            · exact hpieces

/-- What a search makes of a text. -/
def Piece.placed : Piece alpha (Option rho) -> List (Piece alpha rho)
  | Piece.kept c => [Piece.kept c]
  | Piece.found text none => text.map Piece.kept
  | Piece.found text (some value) => [Piece.found text value]

theorem stage_map_kept {find : Finder alpha (Option rho)}
    {findPiece : Finder (Piece alpha rho) (Option rho)}
    (h : forall before rest, findPiece (before.map Piece.kept)
      (rest.map Piece.kept) = find before rest) (text : List alpha) :
    stage findPiece (text.map Piece.kept) =
      (scan find [] 0 text).flatMap Piece.placed := by
  have hscan : scan findPiece [] 0 (text.map Piece.kept) = _ :=
    scan_map_kept h [] 0 text
  rw [stage, hscan, List.flatMap_map]
  apply List.flatMap_congr
  intro piece _
  cases piece with
  | kept c => rfl
  | found found value =>
      cases value with
      | none => rfl
      | some value =>
          rw [Piece.lift, Piece.settle, sourceOf_map_kept, Piece.placed]

theorem scan_eq_singleton {find : Finder alpha (Option rho)}
    {text : List alpha} {value : rho}
    (h : (scan find [] 0 text).flatMap Piece.placed =
      [Piece.found text value]) :
    scan find [] 0 text = [Piece.found text (some value)] := by
  have hmem : Piece.found text value ∈
      (scan find [] 0 text).flatMap Piece.placed :=
    h ▸ List.mem_singleton_self _
  rcases List.mem_flatMap.mp hmem with ⟨piece, hpiece, hplaced⟩
  have hfound : piece = Piece.found text (some value) := by
    cases piece with
    | kept c => cases List.mem_singleton.mp hplaced
    | found inner result =>
        cases result with
        | none =>
            rcases List.mem_map.mp hplaced with ⟨c, _, heq⟩
            cases heq
        | some other =>
            cases List.mem_singleton.mp hplaced
            rfl
  have hsource := sourceOf_scan find [] 0 text
  rcases List.append_of_mem hpiece with ⟨front, back, heq⟩
  rw [List.drop_zero, heq, hfound, sourceOf_append, sourceOf_cons,
    Piece.source] at hsource
  have hlength := congrArg List.length hsource
  rw [List.length_append, List.length_append] at hlength
  have hempty : forall pieces : List (Piece alpha (Option rho)),
      (forall other, other ∈ pieces -> other ∈ scan find [] 0 text) ->
      (sourceOf pieces).length = 0 -> pieces = [] := by
    intro pieces hpieces hzero
    cases pieces with
    | nil => rfl
    | cons other pieces =>
        rw [sourceOf_cons, List.length_append] at hzero
        have hne := source_ne_nil_of_scan (hpieces other List.mem_cons_self)
        have hpos := List.length_pos_iff.mpr hne
        lia
  have hfront := hempty front (fun other hother => heq ▸
    List.mem_append_left _ hother) (by lia)
  have hback := hempty back (fun other hother => heq ▸
    List.mem_append_right _ (List.mem_cons_of_mem _ hother)) (by lia)
  rw [heq, hfront, hback, hfound]
  rfl

section Simulation

variable {token : List alpha -> rho -> List alpha}
variable {good : Piece alpha rho -> Prop} {find : Finder alpha sigma}
variable {findPiece : Finder (Piece alpha rho) sigma}

theorem scan_kept {before back rest : List alpha}
    (h : forall front c behind, back = front ++ c :: behind ->
      forall n value, find (front.reverse ++ before) (c :: behind ++ rest) ≠
        some (n + 1, value)) :
    scan find before 0 (back ++ rest) =
      back.map Piece.kept ++ scan find (back.reverse ++ before) 0 rest := by
  induction back generalizing before with
  | nil => rfl
  | cons c behind ih =>
      have hhead := h [] c behind rfl
      have htail := @ih (c :: before) (by
        intro front d behind' heq
        have hd := h (c :: front) d behind' (by rw [heq, List.cons_append])
        rwa [List.reverse_cons, List.append_assoc] at hd)
      rw [List.cons_append, List.map_cons, List.reverse_cons,
        List.append_assoc]
      rcases scan_cases find before c (behind ++ rest) with
        ⟨n, value, hsome, _⟩ | ⟨_, heq⟩
      · exact absurd hsome (hhead n value)
      · rw [heq, htail]
        rfl

/-- Searching a text is searching its pieces. -/
theorem scan_render (h : Simulates token good find findPiece)
    (before : List (Piece alpha rho)) (skip : Nat)
    (pieces : List (Piece alpha rho))
    (hbefore : forall piece, piece ∈ before -> good piece)
    (hgood : forall piece, piece ∈ pieces -> good piece)
    (hskip : exists (run : List alpha) (rest : List (Piece alpha rho)),
      run.length = skip ∧ pieces = run.map Piece.kept ++ rest) :
    scan find (render token before.reverse).reverse skip
        (render token pieces) =
      (scan findPiece before skip pieces).flatMap (Piece.expand token) := by
  induction pieces generalizing before skip with
  | nil => rfl
  | cons piece rest ih =>
      have hlater : forall other, other ∈ piece :: before -> good other :=
        List.forall_mem_cons.mpr ⟨hgood _ List.mem_cons_self, hbefore⟩
      have hrest : forall other, other ∈ rest -> good other :=
        fun other hother => hgood other (List.mem_cons_of_mem _ hother)
      have hnext := fun n hn => ih (piece :: before) n hlater hrest hn
      have hzero := hnext 0 ⟨[], rest, rfl, rfl⟩
      have hagrees := h.agrees hbefore hgood
      simp only [reverse_render] at hnext hzero
      rw [render_cons] at hagrees ⊢
      cases skip with
      | succ skip =>
          rcases hskip with ⟨run, more, hlength, heq⟩
          cases run with
          | nil => cases hlength
          | cons c run =>
              rw [List.map_cons, List.cons_append, List.cons.injEq] at heq
              have hmore := hnext skip ⟨run, more, Nat.succ.inj hlength, heq.2⟩
              rw [heq.1] at hmore ⊢
              exact hmore
      | zero =>
          cases piece with
          | found text value =>
              have hnone : forall n result,
                  findPiece before (Piece.found text value :: rest) ≠
                    some (n + 1, result) := by
                intro n result hsome
                rcases h.within _ _ _ _ hsome with ⟨run, more, hlength, heq⟩
                cases run with
                | nil => cases hlength
                | cons c run => cases heq
              have htoken : forall front c behind,
                  token text value = front ++ c :: behind ->
                  forall n result,
                    find (front.reverse ++ (render token before.reverse).reverse)
                        (c :: behind ++ render token rest) ≠
                      some (n + 1, result) := by
                intro front c behind heq n result
                cases front with
                | nil =>
                    rw [Piece.render, heq] at hagrees
                    exact hagrees.trans_ne (hnone n result)
                | cons d front =>
                    rw [h.inside (hgood _ List.mem_cons_self) heq
                      (List.cons_ne_nil _ _) (List.cons_ne_nil _ _) hrest]
                    exact Option.some_ne_none _ |>.symm
              rcases scan_cases findPiece before (Piece.found text value) rest
                with ⟨n, result, hsome, _⟩ | ⟨_, hpieces⟩
              · exact absurd hsome (hnone n result)
              · rw [hpieces, Piece.render, scan_kept htoken, List.flatMap_cons,
                  ← hzero]
                rfl
          | kept c =>
              change find _ (c :: render token rest) = _ at hagrees
              change scan find _ 0 (c :: render token rest) = _
              rcases scan_cases find (render token before.reverse).reverse c
                (render token rest) with
                ⟨n, value, hsome, htext⟩ | ⟨hnone, htext⟩
              · rw [hagrees] at hsome
                rcases h.within _ _ _ _ hsome with ⟨run, more, hlength, heq⟩
                cases run with
                | nil => cases hlength
                | cons d run =>
                    rw [List.map_cons, List.cons_append, List.cons.injEq] at heq
                    have hrun := Nat.succ.inj hlength
                    have hmore := hnext n ⟨run, more, hrun, heq.2⟩
                    have htake : (render token rest).take n = run := by
                      rw [heq.2, render_append, render_map_kept, ← hrun]
                      exact List.take_left
                    have htakes : rest.take n = run.map Piece.kept := by
                      rw [heq.2, ← hrun]
                      exact List.take_left' (List.length_map _)
                    have hkept : (Piece.kept c ::
                        run.map Piece.kept).flatMap (Piece.render token) =
                          c :: run :=
                      render_map_kept (c :: run)
                    rw [htext, scan, hsome, List.flatMap_cons, Piece.expand,
                      htake, htakes, hkept, ← hmore]
                    rfl
              · rcases scan_cases findPiece before (Piece.kept c) rest with
                  ⟨n, value, hsome, _⟩ | ⟨_, hpieces⟩
                · rw [← hagrees] at hsome
                  exact absurd hsome (hnone n value)
                · rw [htext, hpieces]
                  exact congrArg (Piece.kept c :: ·) hzero

theorem scan_render_all (h : Simulates token good find findPiece)
    {pieces : List (Piece alpha rho)}
    (hgood : forall piece, piece ∈ pieces -> good piece) :
    scan find [] 0 (render token pieces) =
      (scan findPiece [] 0 pieces).flatMap (Piece.expand token) :=
  scan_render h [] 0 pieces (fun _ hmem => absurd hmem List.not_mem_nil) hgood
    ⟨[], pieces, rfl, rfl⟩

end Simulation

theorem scan_onKept {findPiece : Finder (Piece alpha rho) sigma}
    (hwithin : OnKept findPiece) {before : List (Piece alpha rho)} {skip : Nat}
    {pieces found : List (Piece alpha rho)} {value : sigma}
    (h : Piece.found found value ∈ scan findPiece before skip pieces) :
    exists run : List alpha, found = run.map Piece.kept := by
  rcases found_of_scan h with ⟨front, rest, n, hfind, rfl⟩
  rcases hwithin _ _ _ _ hfind with ⟨run, more, hlength, rfl⟩
  exact ⟨run, List.take_left' ((List.length_map _).trans hlength)⟩

/-- Something is found that becomes a single piece. -/
def Piece.isNew : Piece alpha (Option rho) -> Bool
  | Piece.found _ (some _) => true
  | _ => false

def Piece.isFound : Piece alpha rho -> Bool
  | Piece.found _ _ => true
  | Piece.kept _ => false

theorem not_found_at {find : Finder alpha rho} {before front rest : List alpha}
    {c : alpha}
    (h : forall piece, piece ∈ scan find before 0 (front ++ c :: rest) ->
      piece.isFound = false) (n : Nat) (value : rho) :
    find (front.reverse ++ before) (c :: rest) ≠ some (n + 1, value) := by
  induction front generalizing before with
  | nil =>
      rcases scan_cases find before c rest with
        ⟨k, result, _, heq⟩ | ⟨hnone, _⟩
      · have hfound := h _ (heq ▸ List.mem_cons_self)
        cases hfound
      · exact hnone n value
  | cons d front ih =>
      rw [List.cons_append] at h
      rcases scan_cases find before d (front ++ c :: rest) with
        ⟨k, result, _, heq⟩ | ⟨_, heq⟩
      · have hfound := h _ (heq ▸ List.mem_cons_self)
        cases hfound
      · rw [heq, List.forall_mem_cons] at h
        have hplace := ih h.2
        rwa [List.reverse_cons, List.append_assoc]

theorem countP_isFound_kept (run : List alpha) :
    (run.map (@Piece.kept alpha rho)).countP Piece.isFound = 0 := by
  rw [List.countP_map]
  exact List.countP_eq_zero.mpr fun _ _ => Bool.false_ne_true

theorem countP_expand (token : List alpha -> rho -> List alpha)
    (found : List (Piece (Piece alpha rho) (Option rho))) :
    (found.flatMap (Piece.expand token)).countP Piece.isNew =
      found.countP Piece.isNew := by
  induction found with
  | nil => rfl
  | cons piece found ih =>
      have hcons : ([piece] ++ found).countP Piece.isNew =
          [piece].countP Piece.isNew + found.countP Piece.isNew :=
        List.countP_append
      have hpiece : (piece.expand token).countP Piece.isNew =
          [piece].countP Piece.isNew := by
        cases piece with
        | kept piece =>
            rw [Piece.expand, List.countP_map]
            exact List.countP_eq_zero.mpr fun _ _ => Bool.false_ne_true
        | found inner value => cases value <;> rfl
      rw [List.singleton_append] at hcons
      rw [List.flatMap_cons, List.countP_append, ih, hpiece, hcons]

/-- A search adds as many pieces that are found as it finds new ones. -/
theorem countP_stage {findPiece : Finder (Piece alpha rho) (Option rho)}
    (hwithin : OnKept findPiece) (pieces : List (Piece alpha rho)) :
    (stage findPiece pieces).countP Piece.isFound =
      pieces.countP Piece.isFound +
        (scan findPiece [] 0 pieces).countP Piece.isNew := by
  have hsettle : forall found : List (Piece (Piece alpha rho) (Option rho)),
      (forall inner value, Piece.found inner value ∈ found ->
        exists run : List alpha, inner = run.map Piece.kept) ->
      (found.flatMap Piece.settle).countP Piece.isFound =
        (sourceOf found).countP Piece.isFound +
          found.countP Piece.isNew := by
    intro found hkept
    induction found with
    | nil => rfl
    | cons piece found ih =>
        have hrest := ih fun inner value hmem =>
          hkept inner value (List.mem_cons_of_mem _ hmem)
        have hpiece : piece.settle.countP Piece.isFound =
            piece.source.countP Piece.isFound +
              [piece].countP Piece.isNew := by
          cases piece with
          | kept piece => rfl
          | found inner value =>
              rcases hkept inner value List.mem_cons_self with ⟨run, rfl⟩
              cases value with
              | none => rfl
              | some value =>
                  rw [Piece.source, countP_isFound_kept]
                  rfl
        have hcons : ([piece] ++ found).countP Piece.isNew =
            [piece].countP Piece.isNew + found.countP Piece.isNew :=
          List.countP_append
        rw [List.singleton_append] at hcons
        rw [List.flatMap_cons, List.countP_append, sourceOf_cons,
          List.countP_append, hcons, hpiece, hrest]
        lia
  have hsource := sourceOf_scan findPiece [] 0 pieces
  rw [List.drop_zero] at hsource
  have hstage := hsettle (scan findPiece [] 0 pieces) fun inner value hmem =>
    scan_onKept hwithin hmem
  rwa [hsource] at hstage

/-- A search that finds nothing new changes nothing. -/
theorem stage_eq_iff {findPiece : Finder (Piece alpha rho) (Option rho)}
    (hwithin : OnKept findPiece) (pieces : List (Piece alpha rho)) :
    stage findPiece pieces = pieces ↔
      forall piece, piece ∈ scan findPiece [] 0 pieces ->
        piece.isNew = false := by
  have hcount := countP_stage hwithin pieces
  constructor
  · intro heq piece hpiece
    rw [heq] at hcount
    have hzero : (scan findPiece [] 0 pieces).countP Piece.isNew = 0 := by
      lia
    exact Bool.eq_false_iff.mpr (List.countP_eq_zero.mp hzero piece hpiece)
  · intro hnew
    have hsource := sourceOf_scan findPiece [] 0 pieces
    rw [List.drop_zero] at hsource
    have hsettle : stage findPiece pieces =
        sourceOf (scan findPiece [] 0 pieces) := by
      apply List.flatMap_congr
      intro piece hpiece
      have hold := hnew piece hpiece
      cases piece with
      | kept piece => rfl
      | found inner value =>
          cases value with
          | none => rfl
          | some value => cases hold
    rw [hsettle, hsource]

theorem render_stage {token : List alpha -> rho -> List alpha}
    {good : Piece alpha rho -> Prop} {find : Finder alpha (Option rho)}
    {findPiece : Finder (Piece alpha rho) (Option rho)}
    (h : Simulates token good find findPiece)
    {pieces : List (Piece alpha rho)}
    (hgood : forall piece, piece ∈ pieces -> good piece) :
    (scan find [] 0 (render token pieces)).flatMap (Piece.rewritten token) =
      render token (stage findPiece pieces) := by
  have hexpand : forall piece, piece ∈ scan findPiece [] 0 pieces ->
      (piece.expand token).flatMap (Piece.rewritten token) =
        render token piece.settle := by
    intro piece hpiece
    cases piece with
    | kept piece =>
        have hkept : render token [piece] = piece.render token :=
          List.flatMap_singleton _ _
        rw [Piece.expand, List.flatMap_map, Piece.settle, hkept]
        exact List.flatMap_singleton' _
    | found found value =>
        rcases scan_onKept h.within hpiece with ⟨run, rfl⟩
        have hrun : (run.map Piece.kept).flatMap (Piece.render token) = run :=
          render_map_kept run
        rw [Piece.expand, List.flatMap_singleton, hrun]
        cases value with
        | none => exact hrun.symm
        | some value =>
            rw [Piece.settle, sourceOf_map_kept]
            exact (List.flatMap_singleton _ _).symm
  have hsettle : render token (stage findPiece pieces) =
      (scan findPiece [] 0 pieces).flatMap fun piece =>
        render token piece.settle :=
    List.flatMap_assoc
  rw [scan_render_all h hgood, List.flatMap_assoc, hsettle]
  exact List.flatMap_congr hexpand

end Foundation
end IntelAmt
