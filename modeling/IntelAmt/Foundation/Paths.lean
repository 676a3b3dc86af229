/-!
# Paths

A path is its root and its parts.  Joining is a matter of the texts alone: no
link is followed, a parent segment stays where it is, and an absolute text
takes the place of what it is joined to.
-/

namespace IntelAmt
namespace Foundation

/-- A segment that is not dropped. -/
def isPart (segment : List Char) : Bool :=
  decide (segment ≠ [] ∧ segment ≠ ['.'])

structure Path where
  root : List Char
  parts : List (List Char)
  clean : forall part, part ∈ parts -> isPart part = true

namespace Path

/-- How many slashes the text begins with. -/
def slashes : List Char -> Nat
  | [] => 0
  | c :: text => if c = '/' then slashes text + 1 else 0

/-- The root of a text and what follows it; two slashes are a root of their
own, and any more are one. -/
def splitRoot (text : List Char) : List Char × List Char :=
  if slashes text = 0 then ([], text)
  else if slashes text = 2 then (['/', '/'], text.drop 2)
  else (['/'], text.drop 1)

/-- The segments that a slash ends, and the last one. -/
def segmented : List Char -> List (List Char) × List Char
  | [] => ([], [])
  | c :: text =>
      if c = '/' then ([] :: (segmented text).1, (segmented text).2)
      else
        match (segmented text).1 with
        | [] => ([], c :: (segmented text).2)
        | segment :: leading =>
            ((c :: segment) :: leading, (segmented text).2)

/-- The segments in front of the last one that are not dropped. -/
def leading (text : List Char) : List (List Char) :=
  (segmented (splitRoot text).2).1.filter isPart

/-- The last segment. -/
def baseName (text : List Char) : List Char :=
  (segmented (splitRoot text).2).2

def ofText (text : List Char) : Path where
  root := (splitRoot text).1
  parts := leading text ++ [baseName text].filter isPart
  clean := by
    intro part h
    rcases List.mem_append.mp h with h | h
    · exact (List.mem_filter.mp h).2
    · exact (List.mem_filter.mp h).2

/-- `path / text`. -/
def join (path : Path) (text : List Char) : Path :=
  if (splitRoot text).1 = [] then
    { root := path.root
      parts := path.parts ++ (ofText text).parts
      clean := by
        intro part h
        rcases List.mem_append.mp h with h | h
        · exact path.clean part h
        · exact (ofText text).clean part h }
  else ofText text

/-- The path names something directly inside the directory. -/
def ChildOf (path directory : Path) : Prop :=
  path.root = directory.root ∧
    exists name, path.parts = directory.parts ++ [name] ∧ name ≠ ['.', '.']

/-- What stands in front of the last segment of the text leads, from the
directory, to the directory. -/
def Names (directory : Path) (text : List Char) : Prop :=
  if (splitRoot text).1 = [] then leading text = []
  else (splitRoot text).1 = directory.root ∧ leading text = directory.parts

instance (directory : Path) (text : List Char) :
    Decidable (directory.Names text) :=
  inferInstanceAs (Decidable (if (splitRoot text).1 = [] then leading text = []
    else (splitRoot text).1 = directory.root ∧
      leading text = directory.parts))

theorem eq_of_parts {path other : Path} (hroot : path.root = other.root)
    (hparts : path.parts = other.parts) : path = other := by
  cases path
  cases other
  cases hroot
  cases hparts
  rfl

/-!
## A suffix
-/

theorem slashes_le_length (text : List Char) :
    slashes text ≤ text.length := by
  induction text with
  | nil => exact Nat.le_refl 0
  | cons c text ih =>
      rw [slashes, List.length_cons]
      split
      · omega
      · omega

theorem slashes_append {tail : List Char} (h : '/' ∉ tail)
    (text : List Char) : slashes (text ++ tail) = slashes text := by
  induction text with
  | nil =>
      cases tail with
      | nil => rfl
      | cons c tail =>
          have hc : c ≠ '/' := fun hc => h (hc ▸ List.mem_cons_self)
          rw [List.nil_append]
          exact if_neg hc
  | cons c text ih => rw [List.cons_append, slashes, slashes, ih]

theorem splitRoot_append {tail : List Char} (h : '/' ∉ tail)
    (text : List Char) :
    splitRoot (text ++ tail) =
      ((splitRoot text).1, (splitRoot text).2 ++ tail) := by
  have hlength := slashes_le_length text
  unfold splitRoot
  rw [slashes_append h]
  by_cases hnone : slashes text = 0
  · rw [if_pos hnone, if_pos hnone]
  rw [if_neg hnone, if_neg hnone]
  by_cases htwo : slashes text = 2
  · rw [if_pos htwo, if_pos htwo, List.drop_append_of_le_length (by omega)]
  · rw [if_neg htwo, if_neg htwo, List.drop_append_of_le_length (by omega)]

theorem segmented_of_notMem {text : List Char} (h : '/' ∉ text) :
    segmented text = ([], text) := by
  induction text with
  | nil => rfl
  | cons c text ih =>
      have hc : c ≠ '/' := fun hc => h (hc ▸ List.mem_cons_self)
      have htext : '/' ∉ text := fun htext => h (List.mem_cons_of_mem _ htext)
      rw [segmented, if_neg hc, ih htext]

theorem segmented_append {tail : List Char} (h : '/' ∉ tail)
    (text : List Char) :
    segmented (text ++ tail) =
      ((segmented text).1, (segmented text).2 ++ tail) := by
  induction text with
  | nil => exact segmented_of_notMem h
  | cons c text ih =>
      rw [List.cons_append, segmented, segmented, ih]
      split
      · rfl
      · cases (segmented text).1 with
        | nil => rfl
        | cons segment leading => rfl

section Suffix

variable {tail : List Char} (h : '/' ∉ tail) (text : List Char)
include h

theorem leading_append : leading (text ++ tail) = leading text := by
  rw [leading, splitRoot_append h, segmented_append h]
  rfl

theorem baseName_append : baseName (text ++ tail) = baseName text ++ tail := by
  rw [baseName, splitRoot_append h, segmented_append h]
  rfl

theorem ofText_append (hlong : 2 ≤ tail.length) :
    (ofText (text ++ tail)).parts =
      leading text ++ [baseName text ++ tail] := by
  have hpart : isPart (baseName text ++ tail) = true := by
    apply decide_eq_true
    constructor
    · intro hempty
      rw [(List.append_eq_nil_iff.mp hempty).2] at hlong
      exact absurd hlong (by decide)
    · intro hdot
      have hlength := congrArg List.length hdot
      rw [List.length_append, List.length_singleton] at hlength
      omega
  show leading (text ++ tail) ++ [baseName (text ++ tail)].filter isPart = _
  rw [leading_append h, baseName_append h, List.filter_cons, if_pos hpart]
  rfl

theorem join_append (hlong : 2 ≤ tail.length) (directory : Path) :
    ((splitRoot text).1 = [] ∧
        (directory.join (text ++ tail)).root = directory.root ∧
        (directory.join (text ++ tail)).parts =
          directory.parts ++ (leading text ++ [baseName text ++ tail])) ∨
      ((splitRoot text).1 ≠ [] ∧
        (directory.join (text ++ tail)).root = (splitRoot text).1 ∧
        (directory.join (text ++ tail)).parts =
          leading text ++ [baseName text ++ tail]) := by
  have hroot : (splitRoot (text ++ tail)).1 = (splitRoot text).1 := by
    rw [splitRoot_append h]
  unfold join
  rw [hroot]
  by_cases hrelative : (splitRoot text).1 = []
  · rw [if_pos hrelative]
    exact Or.inl ⟨hrelative, rfl,
      congrArg (directory.parts ++ ·) (ofText_append h text hlong)⟩
  · rw [if_neg hrelative]
    exact Or.inr ⟨hrelative, hroot, ofText_append h text hlong⟩

theorem join_of_names (hlong : 2 ≤ tail.length) {directory : Path}
    (hnames : directory.Names text) :
    (directory.join (text ++ tail)).root = directory.root ∧
      (directory.join (text ++ tail)).parts =
        directory.parts ++ [baseName text ++ tail] := by
  unfold Names at hnames
  rcases join_append h text hlong directory with ⟨hrelative, hroot, hparts⟩ |
    ⟨habsolute, hroot, hparts⟩
  · rw [if_pos hrelative] at hnames
    rw [hnames] at hparts
    exact ⟨hroot, hparts⟩
  · rw [if_neg habsolute] at hnames
    rw [hnames.2] at hparts
    exact ⟨hroot.trans hnames.1, hparts⟩

theorem childOf_join_iff (hlong : 2 ≤ tail.length)
    (hdots : baseName text ++ tail ≠ ['.', '.']) (directory : Path) :
    (directory.join (text ++ tail)).ChildOf directory ↔
      directory.Names text := by
  constructor
  · rintro ⟨hchild, name, hname, _⟩
    unfold Names
    rcases join_append h text hlong directory with
      ⟨hrelative, hroot, hparts⟩ | ⟨habsolute, hroot, hparts⟩
    · rw [if_pos hrelative]
      have htail := List.append_cancel_left (hparts.symm.trans hname)
      exact (List.append_inj' (htail.trans (List.nil_append _).symm) rfl).1
    · rw [if_neg habsolute]
      exact ⟨hroot.symm.trans hchild,
        (List.append_inj' (hparts.symm.trans hname) rfl).1⟩
  · intro hnames
    rcases join_of_names h text hlong hnames with ⟨hroot, hparts⟩
    exact ⟨hroot, _, hparts, hdots⟩

end Suffix

theorem join_eq_iff {directory : Path} {text other tail end' : List Char}
    (h : '/' ∉ tail) (hlong : 2 ≤ tail.length) (hend : '/' ∉ end')
    (hendlong : 2 ≤ end'.length) (hnames : directory.Names text)
    (hother : directory.Names other) :
    directory.join (text ++ tail) = directory.join (other ++ end') ↔
      baseName text ++ tail = baseName other ++ end' := by
  rcases join_of_names h text hlong hnames with ⟨hroot, hparts⟩
  rcases join_of_names hend other hendlong hother with ⟨hroot', hparts'⟩
  constructor
  · intro heq
    rw [heq] at hparts
    have hname := List.append_cancel_left (hparts.symm.trans hparts')
    injection hname
  · intro hname
    apply eq_of_parts
    · rw [hroot, hroot']
    · rw [hparts, hparts', hname]

end Path
end Foundation
end IntelAmt
