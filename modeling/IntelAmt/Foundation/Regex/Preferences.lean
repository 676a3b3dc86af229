import IntelAmt.Foundation.Regex.Languages

/-!
# The preferred match of a greedy repetition

A repetition that can be carried on in one way only is repeated as often as what
comes behind it allows.
-/

namespace IntelAmt
namespace Foundation
namespace Regex

variable {alpha beta : Type}

theorem rest_le_of_iterate {step : Place alpha -> List (Place alpha)}
    {greedy : Bool} {fuel : Nat} {place last : Place alpha}
    (h : last ∈ iterate step greedy fuel place) :
    last.rest.length ≤ place.rest.length := by
  induction fuel generalizing place with
  | zero =>
      rw [iterate, List.mem_singleton] at h
      rw [h]
  | succ fuel ih =>
      have hcases : last = place ∨ exists next,
          next.rest.length < place.rest.length ∧
            last ∈ iterate step greedy fuel next := by
        have hfurther : forall {more : List (Place alpha)},
            last ∈ more.flatMap (iterate step greedy fuel) ->
              (forall next, next ∈ more ->
                next.rest.length < place.rest.length) ->
                exists next, next.rest.length < place.rest.length ∧
                  last ∈ iterate step greedy fuel next := by
          intro more hmem hless
          rcases List.mem_flatMap.mp hmem with ⟨next, hnext, hlast⟩
          exact ⟨next, hless next hnext, hlast⟩
        have hless : forall next, next ∈ (step place).filter (fun next =>
            next.rest.length < place.rest.length) ->
              next.rest.length < place.rest.length :=
          fun next hnext => of_decide_eq_true (List.mem_filter.mp hnext).2
        rw [iterate] at h
        cases greedy with
        | true =>
            rcases List.mem_append.mp h with hmem | hmem
            · exact Or.inr (hfurther hmem hless)
            · exact Or.inl (List.mem_singleton.mp hmem)
        | false =>
            rcases List.mem_cons.mp h with hmem | hmem
            · exact Or.inl hmem
            · exact Or.inr (hfurther hmem hless)
      rcases hcases with heq | ⟨next, hless, hlast⟩
      · rw [heq]
      · exact Nat.le_trans (ih hlast) (Nat.le_of_lt hless)

/-- By induction on the rounds: if anything comes of a further round, the first
thing comes of it. -/
theorem iterate_longest {step : Place alpha -> List (Place alpha)}
    (hone : forall place one other, one ∈ step place -> other ∈ step place ->
      one = other)
    {f : Place alpha -> List beta} {fuel : Nat} {place : Place alpha}
    {first : beta}
    (h : ((iterate step true fuel place).flatMap f).head? = some first) :
    exists last, last ∈ iterate step true fuel place ∧ first ∈ f last ∧
      forall other, other ∈ iterate step true fuel place -> f other ≠ [] ->
        last.rest.length ≤ other.rest.length := by
  induction fuel generalizing place with
  | zero =>
      rw [iterate, List.flatMap_singleton] at h
      refine ⟨place, List.mem_singleton_self _, List.mem_of_mem_head? h, ?_⟩
      intro other hother _
      rw [List.mem_singleton.mp hother]
  | succ fuel ih =>
      rw [iterate, if_pos rfl] at h ⊢
      rw [List.flatMap_append, List.flatMap_assoc] at h
      cases hfurther : (((step place).filter fun next =>
          next.rest.length < place.rest.length).flatMap fun next =>
            (iterate step true fuel next).flatMap f) with
      | nil =>
          rw [hfurther, List.nil_append, List.flatMap_singleton] at h
          refine ⟨place, List.mem_append_right _ (List.mem_singleton_self _),
            List.mem_of_mem_head? h, ?_⟩
          intro other hother hne
          rcases List.mem_append.mp hother with hmem | hmem
          · rcases List.mem_flatMap.mp hmem with ⟨next, hnext, hinner⟩
            have hnone := List.flatMap_eq_nil_iff.mp
              (List.flatMap_eq_nil_iff.mp hfurther next hnext) other hinner
            exact absurd hnone hne
          · rw [List.mem_singleton.mp hmem]
      | cons value more =>
          rw [hfurther] at h
          have hhead : (((step place).filter fun next =>
              next.rest.length < place.rest.length).flatMap fun next =>
                (iterate step true fuel next).flatMap f).head? =
                  some first := by
            rw [hfurther]
            exact h
          rw [List.head?_flatMap] at hhead
          rcases List.exists_of_findSome?_eq_some hhead with
            ⟨next, hnext, hinner⟩
          rcases ih hinner with ⟨last, hlast, hfirst, hbest⟩
          have hstep := (List.mem_filter.mp hnext).1
          refine ⟨last, List.mem_append_left _
            (List.mem_flatMap.mpr ⟨next, hnext, hlast⟩), hfirst, ?_⟩
          intro other hother hne
          rcases List.mem_append.mp hother with hmem | hmem
          · rcases List.mem_flatMap.mp hmem with ⟨second, hsecond, hmore⟩
            have hsame := hone place _ _ (List.mem_filter.mp hsecond).1 hstep
            exact hbest other (hsame ▸ hmore) hne
          · rw [List.mem_singleton.mp hmem]
            have hless := of_decide_eq_true (List.mem_filter.mp hnext).2
            exact Nat.le_trans (rest_le_of_iterate hlast) (Nat.le_of_lt hless)

/-- Of all ways to read a text as repetitions and what comes behind them, the
preferred match has the longest repetitions. -/
theorem find_longest {behind : alpha -> Bool} {front back tail : Regex alpha}
    {holds : List alpha -> Prop} (hfront : front.plain = true)
    (hback : back.plain = true) (htail : tail.Asserts holds)
    (hone : forall one other rest more, one ∈ front.language ->
      other ∈ front.language -> one ++ rest = other ++ more -> one = other)
    {before rest : List alpha} {n : Nat} {groups : List (Nat × List alpha)}
    (h : (guarded behind (seq (star true front) back) tail).find before rest =
      some (n, groups)) :
    exists heads last later, heads ∈ KStar.kstar front.language ∧
      last ∈ back.language ∧ rest = heads ++ (last ++ later) ∧
      n = heads.length + last.length ∧ holds later ∧
      forall other ending more, other ∈ KStar.kstar front.language ->
        ending ∈ back.language -> rest = other ++ (ending ++ more) ->
        holds more -> other.length ≤ heads.length := by
  have hsteps : forall place one other : Place alpha, one ∈ front.run place ->
      other ∈ front.run place -> one = other := by
    intro place one other hfirst hsecond
    rcases (mem_run hfront).mp hfirst with ⟨text, htext, hreads⟩
    rcases (mem_run hfront).mp hsecond with ⟨second, hmem, hothers⟩
    have hsame := hone text second one.rest other.rest htext hmem
      (hreads.rest.symm.trans hothers.rest)
    have hrest := hreads.rest.symm.trans hothers.rest
    rw [hsame, List.append_cancel_left_eq] at hrest
    rcases one with ⟨before, rest, groups⟩
    rcases other with ⟨before', rest', groups'⟩
    have hbefore := hreads.before.trans
      ((congrArg (·.reverse ++ place.before) hsame).trans hothers.before.symm)
    have hgroups := hreads.groups.trans hothers.groups.symm
    cases hrest
    cases hbefore
    cases hgroups
    rfl
  rcases Option.map_eq_some_iff.mp h with ⟨next, hnext, heq⟩
  rw [guarded, run, run] at hnext
  cases hbehind : before.head?.any behind with
  | true =>
      rw [hbehind, if_pos rfl] at hnext
      cases hnext
  | false =>
      rw [hbehind, if_neg Bool.false_ne_true, List.flatMap_singleton, run, run,
        run, List.flatMap_assoc] at hnext
      have hiterate := fun next => @mem_iterate alpha front.run front.language
        (fun place next => mem_run hfront) true rest.length ⟨before, rest, []⟩
        next (Nat.le_refl _)
      rcases iterate_longest hsteps hnext with ⟨place, hplace, hfirst, hbest⟩
      rcases (hiterate place).mp hplace with ⟨heads, hheads, hread⟩
      rcases List.mem_flatMap.mp hfirst with ⟨middle, hmiddle, hend⟩
      rcases (htail middle next).mp hend with ⟨rfl, hholds⟩
      rcases (mem_run hback).mp hmiddle with ⟨last, hlast, hreads⟩
      have hrest := hread.rest
      have hlater := hreads.rest
      dsimp only at hrest
      rw [hlater] at hrest
      refine ⟨heads, last, next.rest, hheads, hlast, hrest, ?_, hholds, ?_⟩
      · cases heq
        rw [hrest, List.length_append, List.length_append]
        lia
      · intro other ending more hother hending hsplit hmore
        have hplaces : ⟨other.reverse ++ before, ending ++ more, []⟩ ∈
            iterate front.run true rest.length ⟨before, rest, []⟩ :=
          (hiterate _).mpr ⟨other, hother, hsplit, rfl, rfl⟩
        have hmem : ⟨ending.reverse ++ (other.reverse ++ before), more, []⟩ ∈
            (back.run ⟨other.reverse ++ before, ending ++ more, []⟩).flatMap
              tail.run :=
          List.mem_flatMap.mpr
            ⟨⟨ending.reverse ++ (other.reverse ++ before), more, []⟩,
              (mem_run hback).mpr ⟨ending, hending, rfl, rfl, rfl⟩,
              (htail _ _).mpr ⟨rfl, hmore⟩⟩
        have hless := hbest _ hplaces (List.ne_nil_of_mem hmem)
        have hlength := congrArg List.length (hrest.symm.trans hsplit)
        simp only [List.length_append] at hlength
        rw [hlater] at hless
        simp only [List.length_append] at hless
        lia

end Regex
end Foundation
end IntelAmt
