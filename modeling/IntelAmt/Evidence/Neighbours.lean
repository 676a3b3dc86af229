import Mathlib.Data.List.Chain
import IntelAmt.Evidence.IdentifyingKeys

/-!
# The neighbours of a value

What stands beside a value that has been found: a character that is still kept
when all rules are done had let the value be found.
-/

namespace IntelAmt
namespace Evidence

open Foundation Errors

/-- A character that is kept beside a value lets the value begin or end
there. -/
def Beside : Mark -> Mark -> Prop
  | Piece.kept c, Piece.found _ rule => rule.behind c = false
  | Piece.found _ rule, Piece.kept c => rule.after c = false
  | _, _ => True

/-- The values of a marked text are what their rules read, between neighbours
that let them be found. -/
structure Seated (marks : List Mark) : Prop where
  beside : marks.IsChain Beside
  reads {value : List Nat} {rule : Rule} :
    Piece.found value rule ∈ marks -> value ∈ rule.body.language

theorem beside_kept (c d : Nat) : Beside (Piece.kept c) (Piece.kept d) :=
  trivial

theorem isChain_map_kept (run : List Nat) :
    (run.map Piece.kept).IsChain Beside := by
  induction run with
  | nil => exact List.IsChain.nil
  | cons c run ih =>
      refine List.isChain_cons.mpr ⟨?_, ih⟩
      intro mark hmark
      rcases List.mem_map.mp (List.mem_of_mem_head? hmark) with ⟨d, _, rfl⟩
      exact beside_kept c d

theorem seated_map_kept (text : List Nat) : Seated (text.map Piece.kept) := by
  refine ⟨isChain_map_kept text, ?_⟩
  intro value rule hfound
  rcases List.mem_map.mp hfound with ⟨c, _, heq⟩
  cases heq

section Stage

variable {rule : Rule}

theorem of_findMark_run {before more : List Mark} {run : List Nat}
    {value : Option Rule}
    (h : rule.findMark before (run.map Piece.kept ++ more) =
      some (run.length, value)) :
    (before.map shadow).head?.any rule.behind = false ∧
      run ∈ rule.body.language ∧ rule.Follows (more.map shadow) ∧
      value = if rule.replaces run then some rule else none := by
  rcases Rule.of_findMark h with
    ⟨hbehind, text, later, htext, heq, hlength, hfollows, hvalue⟩
  have hparts := List.append_inj heq (by
    rw [List.length_map, List.length_map, hlength])
  have hrun : run = text :=
    (map_shadow_kept run).symm.trans
      ((congrArg (List.map shadow) hparts.1).trans (map_shadow_kept text))
  rw [hrun, hparts.2]
  exact ⟨hbehind, htext, hfollows, hvalue⟩

theorem beside_before {before : List Mark} {run : List Nat}
    (hbehind : (before.map shadow).head?.any rule.behind = false) :
    forall mark, mark ∈ before.head? -> Beside mark (Piece.found run rule) := by
  intro mark hmark
  rw [List.head?_map, hmark] at hbehind
  cases mark with
  | kept c => exact hbehind
  | found text other => trivial

theorem beside_after {more later : List Mark} {allowed : Rule -> Prop}
    {run : List Nat} (hfollows : rule.Follows (more.map shadow))
    (hcut : Cut allowed more later) :
    forall mark, mark ∈ later.head? -> Beside (Piece.found run rule) mark := by
  intro mark hmark
  cases mark with
  | found text other => trivial
  | kept c =>
      cases later with
      | nil => cases hmark
      | cons first later =>
          cases hmark
          rcases hcut.of_kept with ⟨rest, rfl, _⟩
          exact hfollows.after

/-- By induction on the search: a new value has been looked at from both
sides. -/
theorem searches_beside {before marks later : List Mark}
    (h : Searches rule.findMark before marks later)
    (hmarks : marks.IsChain Beside) :
    later.IsChain Beside ∧ forall mark, mark ∈ before.head? ->
      (forall next, next ∈ marks.head? -> Beside mark next) ->
        forall next, next ∈ later.head? -> Beside mark next := by
  have hallowed : forall (before pieces : List Mark) (n : Nat) (value : Rule),
      rule.findMark before pieces = some (n, some value) -> value = rule :=
    fun _ _ _ _ => Rule.eq_of_findMark
  induction h with
  | nil before => exact ⟨List.IsChain.nil, fun _ _ h => h⟩
  | @new before more later run value hne hfinds hrest ih =>
      have hvalue := Rule.eq_of_findMark hfinds
      subst hvalue
      rcases of_findMark_run hfinds with ⟨hbehind, _, hfollows, _⟩
      have hmore := ih hmarks.right_of_append
      refine ⟨List.isChain_cons.mpr
        ⟨beside_after hfollows (hrest.cut hallowed), hmore.1⟩, ?_⟩
      intro mark hmark _ next hnext
      cases hnext
      exact beside_before hbehind mark hmark
  | @old before more later run hne hfinds hrest ih =>
      have hmore := ih hmarks.right_of_append
      have hlink := (List.isChain_append.mp hmarks).2.2
      rcases List.exists_cons_of_ne_nil hne with ⟨c, tail, rfl⟩
      refine ⟨List.isChain_append.mpr ⟨isChain_map_kept _, hmore.1, ?_⟩, ?_⟩
      · intro mark hmark next hnext
        refine hmore.2 mark ?_ (hlink mark hmark) next hnext
        rw [List.head?_append, List.head?_reverse, hmark]
        rfl
      · exact fun mark _ hnext => hnext
  | pass piece hnone hrest ih =>
      rw [List.isChain_cons] at hmarks
      have hmore := ih hmarks.2
      exact ⟨List.isChain_cons.mpr ⟨hmore.2 piece rfl hmarks.1, hmore.1⟩,
        fun mark _ hnext => hnext⟩

theorem markRule_seated {marks : List Mark} (h : Seated marks) (rule : Rule) :
    Seated (markRule marks rule) := by
  refine ⟨(searches_beside (searches_stage rule.findMark_onKept marks)
    h.beside).1, ?_⟩
  intro value other hfound
  rcases found_of_stage rule.findMark_onKept hfound with hold | hnew
  · exact h.reads hold
  · rcases found_of_scan hnew with ⟨front, rest, n, hfind, heq⟩
    have hother := Rule.eq_of_findMark hfind
    rcases Rule.of_findMark hfind with ⟨_, text, later, htext, rfl, rfl, _, _⟩
    rw [List.take_left' (List.length_map _)] at heq
    have hvalue : value = text :=
      (map_shadow_kept value).symm.trans
        ((congrArg (List.map shadow) heq).trans (map_shadow_kept text))
    rw [hvalue, hother]
    exact htext

end Stage

theorem foldl_markRule_seated (some : List Rule) {marks : List Mark}
    (h : Seated marks) : Seated (some.foldl markRule marks) := by
  induction some generalizing marks with
  | nil => exact h
  | cons rule some ih => exact ih (markRule_seated h rule)

theorem markText_seated (text : List Nat) : Seated (markText text) :=
  foldl_markRule_seated rules (seated_map_kept text)

namespace Seated

variable {marks front back : List Mark} {value : List Nat} {rule : Rule}

theorem not_behind {c : Nat} (h : Seated marks)
    (hmarks : marks = front ++ Piece.kept c :: Piece.found value rule :: back) :
    rule.behind c = false :=
  (List.isChain_iff_forall_rel_of_append_cons_cons.mp h.beside) hmarks

theorem not_after {c : Nat} (h : Seated marks)
    (hmarks : marks = front ++ Piece.found value rule :: Piece.kept c :: back) :
    rule.after c = false :=
  (List.isChain_iff_forall_rel_of_append_cons_cons.mp h.beside) hmarks

end Seated

end Evidence
end IntelAmt
