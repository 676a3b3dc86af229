import Mathlib.Data.List.Induction

/-!
# Traces

What happens in a run, in order.  Some events open something that stays open
until another event ends it; a trace that opens nothing while it is open has
an ending event between any two that open it.
-/

namespace IntelAmt
namespace Foundation

variable {event : Type} {opens ends : event -> Bool}

/-- Whether something was opened and nothing has ended it since. -/
def pending (opens ends : event -> Bool) (log : List event) : Bool :=
  log.foldl (fun open_ e => opens e || open_ && !ends e) false

/-- Between any two events that open there is one that ends. -/
def Separated (opens ends : event -> Bool) (log : List event) : Prop :=
  forall before first between second after,
    log = before ++ first :: (between ++ second :: after) ->
    opens first = true -> opens second = true ->
      exists e, e ∈ between ∧ ends e = true

@[simp] theorem pending_nil : pending opens ends [] = false := rfl

@[simp] theorem pending_snoc (log : List event) (e : event) :
    pending opens ends (log ++ [e]) =
      (opens e || pending opens ends log && !ends e) := by
  simp [pending]

theorem exists_ends {before between : List event} {first : event}
    (hfirst : opens first = true)
    (h : pending opens ends (before ++ first :: between) = false) :
    exists e, e ∈ between ∧ ends e = true := by
  induction between using List.reverseRecOn with
  | nil =>
      rw [pending_snoc, hfirst] at h
      cases h
  | append_singleton between last ih =>
      have hsnoc : before ++ first :: (between ++ [last]) =
          (before ++ first :: between) ++ [last] := by
        simp
      rw [hsnoc, pending_snoc, Bool.or_eq_false_iff] at h
      cases hlast : ends last with
      | true => exact ⟨last, by simp, hlast⟩
      | false =>
          have hbefore : pending opens ends (before ++ first :: between) =
              false := by
            simpa [hlast] using h.2
          rcases ih hbefore with ⟨e, he, hends⟩
          exact ⟨e, by simp [he], hends⟩

/-- What is pending has been opened and not ended. -/
theorem exists_opens {log : List event}
    (h : pending opens ends log = true) :
    exists before first between, log = before ++ first :: between ∧
      opens first = true ∧ forall e, e ∈ between -> ends e = false := by
  induction log using List.reverseRecOn with
  | nil => cases h
  | append_singleton log last ih =>
      rw [pending_snoc, Bool.or_eq_true, Bool.and_eq_true] at h
      rcases h with hlast | ⟨hlog, hends⟩
      · exact ⟨log, last, [], rfl, hlast, fun e he => nomatch he⟩
      · rcases ih hlog with ⟨before, first, between, heq, hfirst, hbetween⟩
        refine ⟨before, first, between ++ [last], by simp [heq], hfirst, ?_⟩
        intro e he
        rcases List.mem_append.mp he with hin | hin
        · exact hbetween e hin
        · rw [List.mem_singleton.mp hin]
          simpa using hends

theorem Separated.pending_take {log : List event}
    (h : Separated opens ends log) {i : Nat}
    (hopens : log[i]?.map opens = some true) :
    pending opens ends (log.take i) = false := by
  apply Bool.eq_false_iff.mpr
  intro hpending
  rcases exists_opens hpending with
    ⟨before, first, between, htake, hfirst, hbetween⟩
  rcases Option.map_eq_some_iff.mp hopens with ⟨second, hsecond, hopens⟩
  rcases List.getElem?_eq_some_iff.mp hsecond with ⟨hi, hget⟩
  have hlog : log =
      before ++ first :: (between ++ second :: log.drop (i + 1)) := by
    rw [← hget, ← List.drop_eq_getElem_cons hi, ← List.cons_append,
      ← List.append_assoc, ← htake, List.take_append_drop]
  rcases h _ _ _ _ _ hlog hfirst hopens with ⟨e, he, hends⟩
  rw [hbetween e he] at hends
  cases hends

theorem separated_nil : Separated opens ends [] := by
  intro before first between second after hlog
  simp at hlog

theorem separated_snoc {log : List event} {e : event}
    (h : Separated opens ends log)
    (he : opens e = true -> pending opens ends log = false) :
    Separated opens ends (log ++ [e]) := by
  intro before first between second after hlog hfirst hsecond
  rcases List.eq_nil_or_concat after with hnil | ⟨init, last, hlast⟩
  · have hsnoc : log ++ [e] =
        (before ++ first :: between) ++ [second] := by
      rw [hlog, hnil]
      simp
    rcases List.append_singleton_inj.mp hsnoc with ⟨hinit, heq⟩
    apply exists_ends hfirst
    rw [← hinit]
    exact he (heq ▸ hsecond)
  · have hsnoc : log ++ [e] =
        (before ++ first :: (between ++ second :: init)) ++ [last] := by
      rw [hlog, hlast]
      simp
    rcases List.append_singleton_inj.mp hsnoc with ⟨hinit, _⟩
    exact h before first between second init hinit hfirst hsecond

end Foundation
end IntelAmt
