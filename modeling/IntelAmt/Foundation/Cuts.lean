import IntelAmt.Foundation.Pieces

/-!
# Cuts

A search of pieces replaces some runs of characters that are kept by pieces
that are found; everything else stays where it is.
-/

namespace IntelAmt
namespace Foundation

variable {alpha rho sigma : Type}

/-- Some of the characters that are kept are found later, with values that are
allowed. -/
inductive Cut (allowed : rho -> Prop) :
    List (Piece alpha rho) -> List (Piece alpha rho) -> Prop where
  | nil : Cut allowed [] []
  | same (piece : Piece alpha rho) {pieces later : List (Piece alpha rho)}
      (rest : Cut allowed pieces later) :
      Cut allowed (piece :: pieces) (piece :: later)
  | cut {run : List alpha} {value : rho} (nonempty : run ≠ [])
      (may : allowed value) {pieces later : List (Piece alpha rho)}
      (rest : Cut allowed pieces later) :
      Cut allowed (run.map Piece.kept ++ pieces)
        (Piece.found run value :: later)

namespace Cut

variable {allowed : rho -> Prop}
variable {pieces later front back : List (Piece alpha rho)}

theorem refl (pieces : List (Piece alpha rho)) :
    Cut allowed pieces pieces := by
  induction pieces with
  | nil => exact nil
  | cons piece rest ih => exact same piece ih

theorem append_same (run : List (Piece alpha rho))
    (h : Cut allowed pieces later) :
    Cut allowed (run ++ pieces) (run ++ later) := by
  induction run with
  | nil => exact h
  | cons piece rest ih => exact same piece ih

theorem mono {more : rho -> Prop} (h : Cut allowed pieces later)
    (hmore : forall value, allowed value -> more value) :
    Cut more pieces later := by
  induction h with
  | nil => exact nil
  | same piece _ ih => exact same piece ih
  | cut hne may _ ih => exact cut hne (hmore _ may) ih

theorem sourceOf_eq (h : Cut allowed pieces later) :
    sourceOf later = sourceOf pieces := by
  induction h with
  | nil => rfl
  | same piece _ ih => rw [sourceOf_cons, sourceOf_cons, ih]
  | cut _ _ _ ih =>
      rw [sourceOf_cons, sourceOf_append, sourceOf_map_kept, ih, Piece.source]

theorem nonempty (h : Cut allowed pieces later)
    (hpieces : forall piece, piece ∈ pieces -> piece.source ≠ []) :
    forall piece, piece ∈ later -> piece.source ≠ [] := by
  induction h with
  | nil => exact hpieces
  | same piece _ ih =>
      rw [List.forall_mem_cons] at hpieces ⊢
      exact ⟨hpieces.1, ih hpieces.2⟩
  | cut hne _ _ ih =>
      rw [List.forall_mem_append] at hpieces
      exact List.forall_mem_cons.mpr ⟨hne, ih hpieces.2⟩

theorem subset_found (h : Cut allowed pieces later) {text : List alpha}
    {value : rho} (hfound : Piece.found text value ∈ pieces) :
    Piece.found text value ∈ later := by
  induction h with
  | nil => exact hfound
  | same piece _ ih =>
      rcases List.mem_cons.mp hfound with rfl | hfound
      · exact List.mem_cons_self
      · exact List.mem_cons_of_mem _ (ih hfound)
  | cut _ _ _ ih =>
      rcases List.mem_append.mp hfound with hkept | hfound
      · rcases List.mem_map.mp hkept with ⟨c, _, heq⟩
        cases heq
      · exact List.mem_cons_of_mem _ (ih hfound)

theorem of_kept {c : alpha} (h : Cut allowed pieces (Piece.kept c :: later)) :
    exists rest, pieces = Piece.kept c :: rest ∧ Cut allowed rest later := by
  cases h with
  | same _ rest => exact ⟨_, rfl, rest⟩

theorem of_run {run : List alpha}
    (h : Cut allowed pieces (run.map Piece.kept ++ later)) :
    exists rest, pieces = run.map Piece.kept ++ rest ∧
      Cut allowed rest later := by
  induction run generalizing pieces with
  | nil => exact ⟨pieces, rfl, h⟩
  | cons c run ih =>
      rcases of_kept h with ⟨more, rfl, hmore⟩
      rcases ih hmore with ⟨rest, rfl, hrest⟩
      exact ⟨rest, rfl, hrest⟩

theorem of_found {text : List alpha} {value : rho}
    (h : Cut allowed pieces (Piece.found text value :: later)) :
    (exists rest, pieces = Piece.found text value :: rest ∧
      Cut allowed rest later) ∨
    (text ≠ [] ∧ allowed value ∧ exists rest,
      pieces = text.map Piece.kept ++ rest ∧ Cut allowed rest later) := by
  cases h with
  | same _ rest => exact Or.inl ⟨_, rfl, rest⟩
  | cut hne may rest => exact Or.inr ⟨hne, may, _, rfl, rest⟩

theorem of_nil (h : Cut allowed pieces []) : pieces = [] := by
  cases h
  rfl

theorem append (hfront : Cut allowed pieces front)
    {more : List (Piece alpha rho)} (hback : Cut allowed more back) :
    Cut allowed (pieces ++ more) (front ++ back) := by
  induction hfront with
  | nil => exact hback
  | same piece _ ih => exact same piece ih
  | cut hne may _ ih =>
      rw [List.append_assoc]
      exact cut hne may ih

theorem split (h : Cut allowed pieces (front ++ back)) :
    exists before more, pieces = before ++ more ∧
      Cut allowed before front ∧ Cut allowed more back := by
  induction front generalizing pieces with
  | nil => exact ⟨[], pieces, rfl, nil, h⟩
  | cons piece front ih =>
      cases piece with
      | kept c =>
          rcases of_kept h with ⟨rest, rfl, hrest⟩
          rcases ih hrest with ⟨before, more, rfl, hbefore, hmore⟩
          exact ⟨_ :: before, more, rfl, same _ hbefore, hmore⟩
      | found text value =>
          rcases of_found h with ⟨rest, rfl, hrest⟩ |
            ⟨hne, may, rest, rfl, hrest⟩
          · rcases ih hrest with ⟨before, more, rfl, hbefore, hmore⟩
            exact ⟨_ :: before, more, rfl, same _ hbefore, hmore⟩
          · rcases ih hrest with ⟨before, more, rfl, hbefore, hmore⟩
            exact ⟨_, more, (List.append_assoc _ _ _).symm,
              cut hne may hbefore, hmore⟩

theorem prefix_kept (h : Cut allowed pieces later) {run : List alpha}
    (hrun : run.map Piece.kept <+: later) : run.map Piece.kept <+: pieces := by
  rcases hrun with ⟨back, rfl⟩
  rcases of_run h with ⟨rest, rfl, _⟩
  exact List.prefix_append _ _

theorem infix_kept (h : Cut allowed pieces later) {run : List alpha}
    (hrun : run.map Piece.kept <:+: later) : run.map Piece.kept <:+: pieces := by
  rcases hrun with ⟨front, back, rfl⟩
  rw [List.append_assoc] at h
  rcases split h with ⟨before, more, rfl, _, hmore⟩
  rcases of_run hmore with ⟨rest, rfl, _⟩
  rw [← List.append_assoc]
  exact List.infix_append _ _ _

theorem head (h : Cut allowed pieces later) :
    pieces.head? = later.head? ∨ exists run value rest c,
      later = Piece.found run value :: rest ∧ allowed value ∧
        run.head? = some c ∧ pieces.head? = some (Piece.kept c) := by
  cases h with
  | nil => exact Or.inl rfl
  | same piece _ => exact Or.inl rfl
  | cut hne may _ =>
      rcases List.exists_cons_of_ne_nil hne with ⟨c, run, rfl⟩
      exact Or.inr ⟨c :: run, _, _, c, rfl, may, rfl, rfl⟩

theorem last (h : Cut allowed pieces later) :
    pieces.getLast? = later.getLast? ∨ exists run value rest c,
      later = rest ++ [Piece.found run value] ∧ allowed value ∧
        run.getLast? = some c ∧ pieces.getLast? = some (Piece.kept c) := by
  rcases List.eq_nil_or_concat later with rfl | ⟨front, piece, rfl⟩
  · exact Or.inl (congrArg List.getLast? h.of_nil)
  · rw [List.concat_eq_append] at h ⊢
    rcases split h with ⟨before, more, rfl, _, hmore⟩
    cases piece with
    | kept c =>
        rcases of_kept hmore with ⟨rest, rfl, hrest⟩
        rw [hrest.of_nil, List.getLast?_concat, List.getLast?_concat]
        exact Or.inl rfl
    | found text value =>
        rcases of_found hmore with ⟨rest, rfl, hrest⟩ |
          ⟨hne, may, rest, rfl, hrest⟩
        · rw [hrest.of_nil, List.getLast?_concat, List.getLast?_concat]
          exact Or.inl rfl
        · rcases List.eq_nil_or_concat text with hnil | ⟨run, c, hconcat⟩
          · exact absurd hnil hne
          · rw [List.concat_eq_append] at hconcat
            refine Or.inr ⟨text, value, front, c, rfl, may, ?_, ?_⟩
            · rw [hconcat, List.getLast?_concat]
            · rw [hrest.of_nil, List.append_nil, hconcat, List.map_append,
                ← List.append_assoc]
              exact List.getLast?_concat

theorem trans {last : List (Piece alpha rho)} (h : Cut allowed pieces later)
    (hlater : Cut allowed later last) : Cut allowed pieces last := by
  induction hlater generalizing pieces with
  | nil => exact h
  | same piece _ ih =>
      cases piece with
      | kept c =>
          rcases of_kept h with ⟨rest, rfl, hrest⟩
          exact same _ (ih hrest)
      | found text value =>
          rcases of_found h with ⟨rest, rfl, hrest⟩ |
            ⟨hne, may, rest, rfl, hrest⟩
          · exact same _ (ih hrest)
          · exact cut hne may (ih hrest)
  | cut hne may _ ih =>
      rcases of_run h with ⟨rest, rfl, hrest⟩
      exact cut hne may (ih hrest)

end Cut

/-- Every search of pieces that finds characters is a cut. -/
theorem cut_scan {findPiece : Finder (Piece alpha rho) (Option rho)}
    {allowed : rho -> Prop} (hwithin : OnKept findPiece)
    (hallowed : forall before pieces n value,
      findPiece before pieces = some (n, some value) -> allowed value)
    (before : List (Piece alpha rho)) (skip : Nat)
    (pieces : List (Piece alpha rho)) :
    Cut allowed (pieces.drop skip)
      ((scan findPiece before skip pieces).flatMap Piece.settle) := by
  induction pieces generalizing before skip with
  | nil =>
      rw [List.drop_nil]
      exact Cut.nil
  | cons piece rest ih =>
      cases skip with
      | succ skip => exact ih _ _
      | zero =>
          rw [List.drop_zero]
          rcases scan_cases findPiece before piece rest with
            ⟨n, value, hsome, heq⟩ | ⟨_, heq⟩
          · rcases hwithin _ _ _ _ hsome with ⟨run, more, hlength, hrun⟩
            have hmore : (piece :: rest).take (n + 1) =
                run.map Piece.kept := by
              rw [hrun]
              exact List.take_left' ((List.length_map _).trans hlength)
            have hne : run ≠ [] := by
              rintro rfl
              cases hlength
            have hsource : sourceOf (piece :: rest.take n) = run := by
              rw [← List.take_succ_cons, hmore]
              exact sourceOf_map_kept run
            have hwhole : piece :: rest =
                run.map Piece.kept ++ rest.drop n := by
              rw [← hmore, List.take_succ_cons, List.cons_append,
                List.take_append_drop]
            rw [heq, List.flatMap_cons]
            cases value with
            | none =>
                rw [Piece.settle, ← List.take_succ_cons, hmore, hwhole]
                exact Cut.append_same _ (ih _ n)
            | some value =>
                rw [Piece.settle, hsource, hwhole]
                exact Cut.cut hne (hallowed _ _ _ _ hsome) (ih _ n)
          · rw [heq]
            exact Cut.same piece (ih _ 0)

/-!
## Searches
-/

/-- What a search makes of pieces, place by place: a run becomes a single
piece, or is found and stays, or nothing is found. -/
inductive Searches (find : Finder (Piece alpha rho) (Option rho)) :
    List (Piece alpha rho) -> List (Piece alpha rho) ->
      List (Piece alpha rho) -> Prop where
  | nil (before : List (Piece alpha rho)) : Searches find before [] []
  | new {before pieces later : List (Piece alpha rho)} {run : List alpha}
      {value : rho} (nonempty : run ≠ [])
      (finds : find before (run.map Piece.kept ++ pieces) =
        some (run.length, some value))
      (rest : Searches find ((run.map Piece.kept).reverse ++ before) pieces
        later) :
      Searches find before (run.map Piece.kept ++ pieces)
        (Piece.found run value :: later)
  | old {before pieces later : List (Piece alpha rho)} {run : List alpha}
      (nonempty : run ≠ [])
      (finds : find before (run.map Piece.kept ++ pieces) =
        some (run.length, none))
      (rest : Searches find ((run.map Piece.kept).reverse ++ before) pieces
        later) :
      Searches find before (run.map Piece.kept ++ pieces)
        (run.map Piece.kept ++ later)
  | pass {before pieces later : List (Piece alpha rho)}
      (piece : Piece alpha rho)
      (finds : forall n value, find before (piece :: pieces) ≠
        some (n + 1, value))
      (rest : Searches find (piece :: before) pieces later) :
      Searches find before (piece :: pieces) (piece :: later)

theorem scan_skip (find : Finder alpha rho) (before run rest : List alpha) :
    scan find before run.length (run ++ rest) =
      scan find (run.reverse ++ before) 0 rest := by
  induction run generalizing before with
  | nil => rfl
  | cons c run ih =>
      rw [List.cons_append, List.length_cons, scan, ih, List.reverse_cons,
        List.append_assoc]
      rfl

theorem scan_found {find : Finder alpha rho} {before run rest : List alpha}
    {value : rho} (hne : run ≠ [])
    (h : find before (run ++ rest) = some (run.length, value)) :
    scan find before 0 (run ++ rest) =
      Piece.found run value :: scan find (run.reverse ++ before) 0 rest := by
  rcases List.exists_cons_of_ne_nil hne with ⟨c, run, rfl⟩
  rw [List.cons_append, List.length_cons] at h
  rw [List.cons_append, scan, h]
  dsimp only
  rw [List.take_left, scan_skip, List.reverse_cons, List.append_assoc]
  rfl

/-- By induction on the number of pieces that are left. -/
theorem searches_scan {find : Finder (Piece alpha rho) (Option rho)}
    (hwithin : OnKept find) (n : Nat) (before pieces : List (Piece alpha rho))
    (hn : pieces.length ≤ n) :
    Searches find before pieces
      ((scan find before 0 pieces).flatMap Piece.settle) := by
  induction n generalizing before pieces with
  | zero =>
      rw [List.eq_nil_of_length_eq_zero (Nat.le_zero.mp hn)]
      exact Searches.nil before
  | succ n ih =>
      cases pieces with
      | nil => exact Searches.nil before
      | cons piece rest =>
          rcases scan_cases find before piece rest with
            ⟨k, value, hsome, _⟩ | ⟨hnone, heq⟩
          · rcases hwithin _ _ _ _ hsome with ⟨run, more, hlength, hrun⟩
            have hne : run ≠ [] := List.ne_nil_of_length_pos (by lia)
            have hmap : run.map (@Piece.kept alpha rho) ≠ [] :=
              mt List.map_eq_nil_iff.mp hne
            have hfinds : find before (run.map Piece.kept ++ more) =
                some ((run.map (@Piece.kept alpha rho)).length, value) := by
              rw [← hrun, hsome, List.length_map, hlength]
            have hmore := ih ((run.map Piece.kept).reverse ++ before) more (by
              have hall := congrArg List.length hrun
              rw [List.length_append, List.length_map] at hall
              lia)
            rw [hrun, scan_found hmap hfinds, List.flatMap_cons]
            rw [List.length_map] at hfinds
            cases value with
            | none => exact Searches.old hne hfinds hmore
            | some value =>
                rw [Piece.settle, sourceOf_map_kept]
                exact Searches.new hne hfinds hmore
          · rw [heq]
            exact Searches.pass piece hnone
              (ih _ rest (Nat.le_of_succ_le_succ hn))

theorem searches_stage {find : Finder (Piece alpha rho) (Option rho)}
    (hwithin : OnKept find) (pieces : List (Piece alpha rho)) :
    Searches find [] pieces (stage find pieces) :=
  searches_scan hwithin pieces.length [] pieces (Nat.le_refl _)

namespace Searches

variable {find : Finder (Piece alpha rho) (Option rho)}
variable {before pieces later : List (Piece alpha rho)}

theorem cut {allowed : rho -> Prop}
    (hallowed : forall before pieces n value,
      find before pieces = some (n, some value) -> allowed value)
    (h : Searches find before pieces later) : Cut allowed pieces later := by
  induction h with
  | nil => exact Cut.nil
  | new hne hfinds _ ih => exact Cut.cut hne (hallowed _ _ _ _ hfinds) ih
  | old _ _ _ ih => exact ih.append_same _
  | pass piece _ _ ih => exact Cut.same piece ih

theorem of_kept {allowed : rho -> Prop}
    (hallowed : forall before pieces n value,
      find before pieces = some (n, some value) -> allowed value)
    (hall : forall before pieces n value,
      find before pieces = some (n, value) -> value ≠ none)
    (h : Searches find before pieces later)
    {front back : List (Piece alpha rho)} {c : alpha}
    (hlater : later = front ++ Piece.kept c :: back) :
    exists ahead rest, pieces = ahead ++ Piece.kept c :: rest ∧
      (forall n value, find (ahead.reverse ++ before)
        (Piece.kept c :: rest) ≠ some (n + 1, value)) ∧
      Cut allowed ahead front ∧ Cut allowed rest back := by
  induction h generalizing front with
  | nil => cases front <;> cases hlater
  | new hne hfinds hrest ih =>
      cases front with
      | nil => cases hlater
      | cons piece front =>
          rw [List.cons_append, List.cons.injEq] at hlater
          rcases ih hlater.2 with ⟨ahead, rest, rfl, hnone, hfront, hback⟩
          refine ⟨_, rest, (List.append_assoc _ _ _).symm, ?_, ?_, hback⟩
          · rw [List.reverse_append, List.append_assoc]
            exact hnone
          · rw [← hlater.1]
            exact Cut.cut hne (hallowed _ _ _ _ hfinds) hfront
  | old _ hfinds _ _ => exact absurd rfl (hall _ _ _ _ hfinds)
  | pass piece hnone hrest ih =>
      cases front with
      | nil =>
          rw [List.nil_append, List.cons.injEq] at hlater
          rcases hlater with ⟨rfl, rfl⟩
          exact ⟨[], _, rfl, hnone, Cut.nil, hrest.cut hallowed⟩
      | cons other front =>
          rw [List.cons_append, List.cons.injEq] at hlater
          rcases ih hlater.2 with ⟨ahead, rest, rfl, hfind, hfront, hback⟩
          refine ⟨piece :: ahead, rest, rfl, ?_, ?_, hback⟩
          · rw [List.reverse_cons, List.append_assoc]
            exact hfind
          · rw [← hlater.1]
            exact Cut.same piece hfront

end Searches

end Foundation
end IntelAmt
