import Mathlib.Data.List.Nodup

/-!
# Dictionaries

A dictionary keeps its entries in the order in which their keys came.  An
assignment to a known key replaces the value and leaves the entry where it is.
-/

namespace IntelAmt
namespace Foundation

variable {key value : Type} [DecidableEq key]

theorem mem_of_lookup {entries : List (key × value)} {k : key} {v : value}
    (h : entries.lookup k = some v) : (k, v) ∈ entries := by
  rcases List.lookup_eq_some_iff.mp h with ⟨before, after, hsplit, _⟩
  rw [hsplit]
  simp

theorem lookup_of_mem {entries : List (key × value)} {entry : key × value}
    (hnodup : (entries.map Prod.fst).Nodup) (h : entry ∈ entries) :
    entries.lookup entry.1 = some entry.2 := by
  rcases List.append_of_mem h with ⟨before, after, hsplit⟩
  apply List.lookup_eq_some_iff.mpr
  refine ⟨before, after, hsplit, ?_⟩
  intro other hmem
  rw [hsplit, List.map_append] at hnodup
  apply bne_iff_ne.mpr
  intro heq
  apply (List.nodup_append.mp hnodup).2.2 other.1
    (List.mem_map_of_mem hmem) entry.1 List.mem_cons_self
  exact heq.symm

/-- An assignment among entries. -/
def assign (k : key) (v : value) : List (key × value) -> List (key × value)
  | [] => [(k, v)]
  | entry :: rest =>
      if entry.1 = k then (k, v) :: rest else entry :: assign k v rest

theorem mem_assign {k : key} {v : value} {entries : List (key × value)}
    {entry : key × value} (h : entry ∈ assign k v entries) :
    entry = (k, v) ∨ entry ∈ entries := by
  induction entries with
  | nil => exact Or.inl (List.mem_singleton.mp h)
  | cons first rest ih =>
      unfold assign at h
      split at h
      · rcases List.mem_cons.mp h with hnew | hold
        · exact Or.inl hnew
        · exact Or.inr (List.mem_cons_of_mem _ hold)
      · rcases List.mem_cons.mp h with hfirst | hrest
        · exact Or.inr (by simp [hfirst])
        · rcases ih hrest with hnew | hold
          · exact Or.inl hnew
          · exact Or.inr (List.mem_cons_of_mem _ hold)

theorem assign_of_notMem {k : key} {v : value} {entries : List (key × value)}
    (h : k ∉ entries.map Prod.fst) :
    assign k v entries = entries ++ [(k, v)] := by
  induction entries with
  | nil => rfl
  | cons first rest ih =>
      rw [List.map_cons, List.mem_cons, not_or] at h
      rw [assign, if_neg (Ne.symm h.1), ih h.2]
      rfl

theorem assign_nodup {k : key} {v : value} {entries : List (key × value)}
    (h : (entries.map Prod.fst).Nodup) :
    ((assign k v entries).map Prod.fst).Nodup := by
  induction entries with
  | nil => exact List.nodup_singleton k
  | cons first rest ih =>
      rw [List.map_cons, List.nodup_cons] at h
      unfold assign
      split
      · rename_i hkey
        rw [List.map_cons, List.nodup_cons]
        exact ⟨hkey ▸ h.1, h.2⟩
      · rename_i hkey
        rw [List.map_cons, List.nodup_cons]
        refine ⟨?_, ih h.2⟩
        intro hmem
        rcases List.mem_map.mp hmem with ⟨entry, hentry, hfirst⟩
        rcases mem_assign hentry with hnew | hold
        · rw [hnew] at hfirst
          exact hkey hfirst.symm
        · exact h.1 (List.mem_map.mpr ⟨entry, hold, hfirst⟩)

theorem lookup_cons_ite (other : key) (entry : key × value)
    (entries : List (key × value)) :
    (entry :: entries).lookup other =
      if other = entry.1 then some entry.2 else entries.lookup other := by
  rcases entry with ⟨k, v⟩
  rw [List.lookup_cons]
  by_cases hother : other = k
  · rw [if_pos hother, hother, beq_self_eq_true]
  · rw [if_neg hother, beq_false_of_ne hother]

theorem lookup_assign (k other : key) (v : value)
    (entries : List (key × value)) :
    (assign k v entries).lookup other =
      if other = k then some v else entries.lookup other := by
  induction entries with
  | nil => rw [assign, lookup_cons_ite]
  | cons first rest ih =>
      by_cases hkey : first.1 = k
      · rw [assign, if_pos hkey, lookup_cons_ite, lookup_cons_ite, hkey]
        split <;> rfl
      · rw [assign, if_neg hkey, lookup_cons_ite, lookup_cons_ite, ih]
        by_cases hother : other = k
        · rw [hother, if_neg (Ne.symm hkey), if_pos rfl, if_pos rfl]
        · rw [if_neg hother, if_neg hother]

theorem assign_of_lookup {k : key} {v : value} {entries : List (key × value)}
    (h : entries.lookup k = some v) : assign k v entries = entries := by
  induction entries with
  | nil => cases h
  | cons first rest ih =>
      rcases first with ⟨name, old⟩
      rw [lookup_cons_ite] at h
      by_cases hkey : name = k
      · rw [if_pos hkey.symm] at h
        cases h
        rw [assign, if_pos hkey, hkey]
      · rw [if_neg (Ne.symm hkey)] at h
        rw [assign, if_neg hkey, ih h]

theorem lookup_filter_ne (k other : key) (entries : List (key × value)) :
    (entries.filter fun entry => entry.1 ≠ k).lookup other =
      if other = k then none else entries.lookup other := by
  induction entries with
  | nil => simp
  | cons first rest ih =>
      by_cases hkey : first.1 = k
      · rw [List.filter_cons_of_neg (by simpa using hkey), ih,
          lookup_cons_ite, hkey]
        split <;> rfl
      · rw [List.filter_cons_of_pos (by simpa using hkey),
          lookup_cons_ite, lookup_cons_ite, ih]
        by_cases hother : other = k
        · rw [hother, if_neg (Ne.symm hkey), if_pos rfl, if_pos rfl]
        · rw [if_neg hother, if_neg hother]

structure Dict (key value : Type) where
  entries : List (key × value)
  nodup : (entries.map Prod.fst).Nodup
deriving DecidableEq, Repr

namespace Dict

def empty : Dict key value where
  entries := []
  nodup := List.nodup_nil

def assign (k : key) (v : value) (d : Dict key value) : Dict key value where
  entries := Foundation.assign k v d.entries
  nodup := assign_nodup d.nodup

def lookup (k : key) (d : Dict key value) : Option value :=
  d.entries.lookup k

end Dict

/-- The entries of a dictionary that is built up from the left. -/
def ofEntries (entries : List (key × value)) : List (key × value) :=
  entries.foldl (fun done entry => assign entry.1 entry.2 done) []

theorem ofEntries_of_nodup {entries : List (key × value)}
    (h : (entries.map Prod.fst).Nodup) : ofEntries entries = entries := by
  have hfold : forall (rest done : List (key × value)),
      ((done ++ rest).map Prod.fst).Nodup ->
      rest.foldl (fun done entry => assign entry.1 entry.2 done) done =
        done ++ rest := by
    intro rest
    induction rest with
    | nil =>
        intro done _
        simp
    | cons entry rest ih =>
        intro done hnodup
        have hnew : entry.1 ∉ done.map Prod.fst := by
          intro hmem
          rw [List.map_append, List.nodup_append] at hnodup
          exact hnodup.2.2 _ hmem entry.1 (by simp) rfl
        rw [List.foldl_cons, assign_of_notMem hnew, ih]
        · simp
        · simpa using hnodup
  exact hfold entries [] h

end Foundation
end IntelAmt
