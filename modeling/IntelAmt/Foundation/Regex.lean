import IntelAmt.Foundation.Pieces

/-!
# Regular expressions

Patterns as a backtracking matcher runs them: every way in which a pattern
matches at a place, the preferred one first.
-/

namespace IntelAmt
namespace Foundation

/-- A place in a text, with the groups that have been matched so far; the text
before it has its last character first. -/
structure Place (alpha : Type) where
  before : List alpha
  rest : List alpha
  groups : List (Nat × List alpha) := []

inductive Regex (alpha : Type) where
  | empty
  | char (p : alpha -> Bool)
  | seq (first second : Regex alpha)
  | alt (first second : Regex alpha)
  | star (greedy : Bool) (body : Regex alpha)
  | group (n : Nat) (body : Regex alpha)
  | back (n : Nat) (same : alpha -> alpha -> Bool)
  | ahead (body : Regex alpha)
  | notAhead (body : Regex alpha)
  | notBehind (p : alpha -> Bool)
  | boundary (word : alpha -> Bool)

namespace Regex

variable {alpha : Type}

/-- The repetitions of a pattern that get further each time. -/
def iterate (step : Place alpha -> List (Place alpha)) (greedy : Bool) :
    Nat -> Place alpha -> List (Place alpha)
  | 0, place => [place]
  | fuel + 1, place =>
      let further := ((step place).filter fun next =>
        next.rest.length < place.rest.length).flatMap
          (iterate step greedy fuel)
      if greedy then further ++ [place] else place :: further

/-- The rest of a text behind a text that is the same. -/
def dropSame (same : alpha -> alpha -> Bool) :
    List alpha -> List alpha -> Option (List alpha)
  | [], rest => some rest
  | _ :: _, [] => none
  | c :: text, d :: rest => if same c d then dropSame same text rest else none

/-- The places that a pattern leads to. -/
def run : Regex alpha -> Place alpha -> List (Place alpha)
  | empty, place => [place]
  | char p, place =>
      match place.rest with
      | [] => []
      | c :: rest =>
          if p c then [{ place with before := c :: place.before, rest := rest }]
          else []
  | seq first second, place => (first.run place).flatMap second.run
  | alt first second, place => first.run place ++ second.run place
  | star greedy body, place =>
      iterate body.run greedy place.rest.length place
  | group n body, place => (body.run place).map fun next =>
      { next with
        groups :=
          (n, place.rest.take (place.rest.length - next.rest.length)) ::
            next.groups }
  | back n same, place =>
      match place.groups.lookup n with
      | none => []
      | some text =>
          match dropSame same text place.rest with
          | none => []
          | some rest =>
              [{ place with
                 before := (place.rest.take text.length).reverse ++ place.before
                 rest := rest }]
  | ahead body, place => if (body.run place).isEmpty then [] else [place]
  | notAhead body, place => if (body.run place).isEmpty then [place] else []
  | notBehind p, place => if place.before.head?.any p then [] else [place]
  | boundary word, place =>
      if place.before.head?.any word = place.rest.head?.any word then []
      else [place]

/-- The preferred match, with its length and its groups. -/
def find (pattern : Regex alpha) :
    Finder alpha (List (Nat × List alpha)) :=
  fun before rest => (pattern.run { before := before, rest := rest }).head?.map
    fun next => (rest.length - next.rest.length, next.groups)

/-- `pattern.fullmatch(text)`. -/
def fullMatch (pattern : Regex alpha) (text : List alpha) : Bool :=
  (pattern.run { before := [], rest := text }).any fun next =>
    next.rest.isEmpty

/-!
## Repetitions
-/

def times : Nat -> Regex alpha -> Regex alpha
  | 0, _ => empty
  | n + 1, body => seq body (times n body)

def optional (body : Regex alpha) : Regex alpha := alt body empty

def upTo : Nat -> Regex alpha -> Regex alpha
  | 0, _ => empty
  | n + 1, body => optional (seq body (upTo n body))

def between (m n : Nat) (body : Regex alpha) : Regex alpha :=
  seq (times m body) (upTo (n - m) body)

def atLeast (m : Nat) (body : Regex alpha) : Regex alpha :=
  seq (times m body) (star true body)

def concat : List (Regex alpha) -> Regex alpha
  | [] => empty
  | pattern :: patterns => seq pattern (concat patterns)

/-- The first one of several patterns that matches. -/
def choice : Regex alpha -> List (Regex alpha) -> Regex alpha
  | pattern, [] => pattern
  | pattern, next :: patterns => alt pattern (choice next patterns)

/-- A text that is matched as it stands. -/
def exactly [DecidableEq alpha] (text : List alpha) : Regex alpha :=
  concat (text.map fun c => char (fun d => d = c))

theorem iterate_fuel (step : Place alpha -> List (Place alpha)) (greedy : Bool)
    {m n : Nat} {place : Place alpha} (hm : place.rest.length ≤ m)
    (hn : place.rest.length ≤ n) :
    iterate step greedy m place = iterate step greedy n place := by
  induction m generalizing n place with
  | zero =>
      cases n with
      | zero => rfl
      | succ n =>
          have hnone : (step place).filter (fun next =>
              next.rest.length < place.rest.length) = [] := by
            apply List.filter_eq_nil_iff.mpr
            intro next _ h
            have := of_decide_eq_true h
            lia
          rw [iterate, iterate, hnone]
          cases greedy <;> rfl
  | succ m ih =>
      cases n with
      | zero =>
          have hnone : (step place).filter (fun next =>
              next.rest.length < place.rest.length) = [] := by
            apply List.filter_eq_nil_iff.mpr
            intro next _ h
            have := of_decide_eq_true h
            lia
          rw [iterate, iterate, hnone]
          cases greedy <;> rfl
      | succ n =>
          have hsame : ((step place).filter fun next =>
              next.rest.length < place.rest.length).flatMap
                (iterate step greedy m) =
              ((step place).filter fun next =>
                next.rest.length < place.rest.length).flatMap
                (iterate step greedy n) := by
            apply List.flatMap_congr
            intro next hnext
            have hless := of_decide_eq_true (List.mem_filter.mp hnext).2
            exact ih (by lia) (by lia)
          rw [iterate, iterate, hsame]

/-!
## Characters that stop a match
-/

/-- The pattern does not match across a character, nor can it tell one from
the end of the text. -/
def stopsAt (stop : alpha) : Regex alpha -> Bool
  | empty => true
  | char p => !p stop
  | seq first second => first.stopsAt stop && second.stopsAt stop
  | alt first second => first.stopsAt stop && second.stopsAt stop
  | star _ body => body.stopsAt stop
  | group _ body => body.stopsAt stop
  | back _ _ => false
  | ahead body => body.stopsAt stop
  | notAhead body => body.stopsAt stop
  | notBehind p => !p stop
  | boundary word => !word stop

/-- A text that is empty or begins with such a character. -/
def StoppedBy (pattern : Regex alpha) (text : List alpha) : Prop :=
  forall stop, text.head? = some stop -> pattern.stopsAt stop = true

end Regex

def Place.within {alpha : Type} (front back : List alpha)
    (place : Place alpha) : Place alpha :=
  { place with
    before := place.before ++ front
    rest := place.rest ++ back }

namespace Regex

variable {alpha : Type} {front back : List alpha}

theorem iterate_within {step : Place alpha -> List (Place alpha)}
    (hstep : forall place, step (place.within front back) =
      (step place).map (Place.within front back))
    (greedy : Bool) (fuel : Nat) (place : Place alpha) :
    iterate step greedy fuel (place.within front back) =
      (iterate step greedy fuel place).map (Place.within front back) := by
  induction fuel generalizing place with
  | zero => rfl
  | succ fuel ih =>
      have hfilter : ((step place).map (Place.within front back)).filter
          (fun next => next.rest.length <
            (place.within front back).rest.length) =
          ((step place).filter fun next =>
            next.rest.length < place.rest.length).map
              (Place.within front back) := by
        rw [List.filter_map]
        congr 2
        funext next
        simp only [Function.comp_apply, Place.within, List.length_append,
          Nat.add_lt_add_iff_right]
      have hfurther : ((step (place.within front back)).filter
          (fun next => next.rest.length <
            (place.within front back).rest.length)).flatMap
              (iterate step greedy fuel) =
          (((step place).filter fun next =>
            next.rest.length < place.rest.length).flatMap
              (iterate step greedy fuel)).map (Place.within front back) := by
        rw [hstep, hfilter, List.flatMap_map, List.map_flatMap]
        exact List.flatMap_congr fun next _ => ih next
      rw [iterate, iterate, hfurther]
      cases greedy
      · rfl
      · rw [if_pos rfl, if_pos rfl, List.map_append]
        rfl

theorem StoppedBy.imp {pattern part : Regex alpha} {text : List alpha}
    (h : pattern.StoppedBy text)
    (hpart : forall stop, pattern.stopsAt stop = true ->
      part.stopsAt stop = true) : part.StoppedBy text :=
  fun stop hstop => hpart stop (h stop hstop)

theorem any_within {p : alpha -> Bool} {text longer : List alpha}
    (h : forall stop, longer.head? = some stop -> p stop = false) :
    (text ++ longer).head?.any p = text.head?.any p := by
  cases text with
  | cons c text => rfl
  | nil =>
      cases longer with
      | nil => rfl
      | cons stop longer => exact h stop rfl

/-- A pattern sees nothing behind a character that stops it. -/
theorem run_within {pattern : Regex alpha}
    (hfront : pattern.StoppedBy front) (hback : pattern.StoppedBy back)
    (place : Place alpha) :
    pattern.run (place.within front back) =
      (pattern.run place).map (Place.within front back) := by
  induction pattern generalizing place with
  | empty => rfl
  | char p =>
      rcases place with ⟨before, rest, groups⟩
      cases rest with
      | cons c rest =>
          change (if p c then _ else _) = List.map _ (if p c then _ else _)
          by_cases hp : p c
          · rw [if_pos hp, if_pos hp]
            rfl
          · rw [if_neg hp, if_neg hp]
            rfl
      | nil =>
          cases back with
          | nil => rfl
          | cons stop back =>
              have hstop := hback stop rfl
              rw [stopsAt, Bool.not_eq_true'] at hstop
              change (if p stop then _ else _) = _
              rw [if_neg (by rw [hstop]; exact Bool.false_ne_true)]
              rfl
  | seq first second ihfirst ihsecond =>
      have hparts : forall stop, (seq first second).stopsAt stop = true ->
          first.stopsAt stop = true ∧ second.stopsAt stop = true :=
        fun stop h => Bool.and_eq_true_iff.mp h
      have hfirst := ihfirst (hfront.imp fun stop h => (hparts stop h).1)
        (hback.imp fun stop h => (hparts stop h).1)
      have hsecond := ihsecond (hfront.imp fun stop h => (hparts stop h).2)
        (hback.imp fun stop h => (hparts stop h).2)
      rw [run, run, hfirst, List.flatMap_map, List.map_flatMap]
      exact List.flatMap_congr fun next _ => hsecond next
  | alt first second ihfirst ihsecond =>
      have hparts : forall stop, (alt first second).stopsAt stop = true ->
          first.stopsAt stop = true ∧ second.stopsAt stop = true :=
        fun stop h => Bool.and_eq_true_iff.mp h
      have hfirst := ihfirst (hfront.imp fun stop h => (hparts stop h).1)
        (hback.imp fun stop h => (hparts stop h).1)
      have hsecond := ihsecond (hfront.imp fun stop h => (hparts stop h).2)
        (hback.imp fun stop h => (hparts stop h).2)
      rw [run, run, hfirst, hsecond, List.map_append]
  | star greedy body ih =>
      have hlonger : place.rest.length ≤
          (place.within front back).rest.length := by
        rw [Place.within, List.length_append]
        exact Nat.le_add_right _ _
      rw [run, run, iterate_within (ih hfront hback),
        iterate_fuel body.run greedy hlonger (Nat.le_refl _)]
  | group n body ih =>
      rw [run, run, ih hfront hback, List.map_map, List.map_map]
      apply List.map_congr_left
      intro next _
      have htake : (place.rest ++ back).take
          ((place.rest ++ back).length - (next.rest ++ back).length) =
          place.rest.take (place.rest.length - next.rest.length) := by
        rw [List.length_append, List.length_append, Nat.add_sub_add_right]
        exact List.take_append_of_le_length (Nat.sub_le _ _)
      simp only [Function.comp_apply, Place.within, htake]
  | back n same =>
      have hnone : forall {text : List alpha},
          (Regex.back n same).StoppedBy text -> text = [] := by
        intro text h
        cases text with
        | nil => rfl
        | cons stop text => exact absurd (h stop rfl) Bool.false_ne_true
      rw [hnone hfront, hnone hback]
      have hsame : forall place : Place alpha,
          place.within [] [] = place := by
        intro place
        rw [Place.within, List.append_nil, List.append_nil]
      rw [hsame, List.map_congr_left fun next _ => hsame next, List.map_id']
  | ahead body ih =>
      rw [run, run, ih hfront hback, List.isEmpty_map]
      cases (body.run place).isEmpty <;> rfl
  | notAhead body ih =>
      rw [run, run, ih hfront hback, List.isEmpty_map]
      cases (body.run place).isEmpty <;> rfl
  | notBehind p =>
      have hbehind : (place.before ++ front).head?.any p =
          place.before.head?.any p := by
        apply any_within
        intro stop hstop
        simpa [stopsAt] using hfront stop hstop
      rw [run, run, Place.within, hbehind]
      cases place.before.head?.any p <;> rfl
  | boundary word =>
      have hbehind : (place.before ++ front).head?.any word =
          place.before.head?.any word := by
        apply any_within
        intro stop hstop
        simpa [stopsAt] using hfront stop hstop
      have hahead : (place.rest ++ back).head?.any word =
          place.rest.head?.any word := by
        apply any_within
        intro stop hstop
        simpa [stopsAt] using hback stop hstop
      rw [run, run, Place.within, hbehind, hahead]
      split <;> rfl

/-- What is found does not depend on what lies behind such characters. -/
theorem find_within {pattern : Regex alpha} (hfront : pattern.StoppedBy front)
    (hback : pattern.StoppedBy back) (before rest : List alpha) :
    pattern.find (before ++ front) (rest ++ back) =
      pattern.find before rest := by
  have hrun := run_within hfront hback { before := before, rest := rest }
  rw [find, find]
  change ((pattern.run (Place.within front back
    { before := before, rest := rest })).head?).map _ = _
  rw [hrun, List.head?_map, Option.map_map]
  congr 1
  funext next
  simp only [Function.comp_apply, Place.within, List.length_append,
    Nat.add_sub_add_right]

end Regex

end Foundation
end IntelAmt
