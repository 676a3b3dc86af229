import Mathlib.Computability.Language
import IntelAmt.Foundation.Regex

/-!
# The languages of patterns

What a pattern that reads characters and nothing else reads, whatever way is
preferred, and what it begins with, ends with and contains.
-/

namespace IntelAmt
namespace Foundation
namespace Regex

variable {alpha : Type}

/-- Patterns that read characters and nothing else. -/
def plain : Regex alpha -> Bool
  | empty => true
  | char _ => true
  | seq first second => first.plain && second.plain
  | alt first second => first.plain && second.plain
  | star _ body => body.plain
  | _ => false

/-- The texts that a plain pattern reads. -/
def language : Regex alpha -> Language alpha
  | empty => 1
  | char p => {text | exists c, p c = true ∧ text = [c]}
  | seq first second => first.language * second.language
  | alt first second => first.language + second.language
  | star _ body => KStar.kstar body.language
  | _ => 0

end Regex

/-- One place is another one behind a text that has been read. -/
structure Place.Reads {alpha : Type} (text : List alpha)
    (place next : Place alpha) : Prop where
  rest : place.rest = text ++ next.rest
  before : next.before = text.reverse ++ place.before
  groups : next.groups = place.groups

namespace Place.Reads

variable {alpha : Type} {text later : List alpha}
variable {place next last : Place alpha}

theorem nil (place : Place alpha) : Place.Reads [] place place :=
  ⟨rfl, rfl, rfl⟩

theorem eq_of_nil (h : Place.Reads [] place next) : next = place := by
  rcases place with ⟨before, rest, groups⟩
  rcases next with ⟨before', rest', groups'⟩
  rcases h with ⟨hrest, hbefore, hgroups⟩
  cases hrest
  cases hbefore
  cases hgroups
  rfl

theorem append (h : Place.Reads text place next)
    (hlater : Place.Reads later next last) :
    Place.Reads (text ++ later) place last where
  rest := by rw [h.rest, hlater.rest, List.append_assoc]
  before := by
    rw [hlater.before, h.before, List.reverse_append, List.append_assoc]
  groups := hlater.groups.trans h.groups

theorem split (h : Place.Reads (text ++ later) place last) :
    exists next, Place.Reads text place next ∧ Place.Reads later next last := by
  refine ⟨{ place with
    before := text.reverse ++ place.before
    rest := later ++ last.rest }, ⟨?_, rfl, rfl⟩, ⟨rfl, ?_, h.groups⟩⟩
  · rw [h.rest, List.append_assoc]
  · rw [h.before, List.reverse_append, List.append_assoc]

theorem length (h : Place.Reads text place next) :
    place.rest.length = text.length + next.rest.length := by
  rw [h.rest, List.length_append]

end Place.Reads

namespace Regex

variable {alpha : Type}

theorem run_char (p : alpha -> Bool) (before rest : List alpha) (c : alpha)
    (groups : List (Nat × List alpha)) :
    (char p).run ⟨before, c :: rest, groups⟩ =
      if p c then [⟨c :: before, rest, groups⟩] else [] :=
  rfl

theorem mem_iterate {step : Place alpha -> List (Place alpha)}
    {words : Language alpha}
    (hstep : forall place next, next ∈ step place ↔
      exists text, text ∈ words ∧ Place.Reads text place next)
    (greedy : Bool) {fuel : Nat} {place next : Place alpha}
    (hfuel : place.rest.length ≤ fuel) :
    next ∈ iterate step greedy fuel place ↔
      exists text, text ∈ KStar.kstar words ∧ Place.Reads text place next := by
  constructor
  · intro h
    clear hfuel
    induction fuel generalizing place with
    | zero =>
        rw [List.mem_singleton.mp h]
        exact ⟨[], Language.nil_mem_kstar words, Place.Reads.nil place⟩
    | succ fuel ih =>
        have hcases : next = place ∨ exists middle, middle ∈ step place ∧
            next ∈ iterate step greedy fuel middle := by
          rw [iterate] at h
          have hmem : next ∈ ((step place).filter fun next =>
              next.rest.length < place.rest.length).flatMap
                (iterate step greedy fuel) ∨ next = place := by
            cases greedy
            · exact (List.mem_cons.mp h).symm
            · exact (List.mem_append.mp h).imp_right List.mem_singleton.mp
          rcases hmem with hfurther | heq
          · rcases List.mem_flatMap.mp hfurther with ⟨middle, hmiddle, hnext⟩
            exact Or.inr ⟨middle, (List.mem_filter.mp hmiddle).1, hnext⟩
          · exact Or.inl heq
        rcases hcases with rfl | ⟨middle, hmiddle, hnext⟩
        · exact ⟨[], Language.nil_mem_kstar words, Place.Reads.nil next⟩
        · rcases (hstep place middle).mp hmiddle with ⟨text, htext, hreads⟩
          rcases ih hnext with ⟨later, hlater, hrest⟩
          rcases Language.mem_kstar.mp hlater with ⟨parts, rfl, hparts⟩
          refine ⟨text ++ parts.flatten, Language.mem_kstar.mpr
            ⟨text :: parts, rfl, ?_⟩, hreads.append hrest⟩
          exact List.forall_mem_cons.mpr ⟨htext, hparts⟩
  · rintro ⟨text, htext, hreads⟩
    rcases Language.mem_kstar_iff_exists_nonempty.mp htext with
      ⟨parts, rfl, hparts⟩
    clear htext
    induction parts generalizing place fuel with
    | nil =>
        rw [hreads.eq_of_nil]
        cases fuel with
        | zero => exact List.mem_singleton_self place
        | succ fuel =>
            rw [iterate]
            cases greedy
            · exact List.mem_cons_self
            · exact List.mem_append_right _ (List.mem_singleton_self place)
    | cons part parts ih =>
        rw [List.forall_mem_cons] at hparts
        rcases hreads.split with ⟨middle, hpart, hrest⟩
        have hlength := hpart.length
        have hpos := List.length_pos_iff.mpr hparts.1.2
        have hless : middle.rest.length < place.rest.length := by lia
        cases fuel with
        | zero => lia
        | succ fuel =>
            have hfewer : middle.rest.length ≤ fuel := by lia
            have hnext := ih hfewer hparts.2 hrest
            have hmiddle : middle ∈ (step place).filter fun next =>
                next.rest.length < place.rest.length :=
              List.mem_filter.mpr ⟨(hstep place middle).mpr
                ⟨part, hparts.1.1, hpart⟩, decide_eq_true hless⟩
            have hfurther := List.mem_flatMap.mpr ⟨middle, hmiddle, hnext⟩
            rw [iterate]
            cases greedy
            · exact List.mem_cons_of_mem _ hfurther
            · exact List.mem_append_left _ hfurther

theorem mem_run {pattern : Regex alpha} (h : pattern.plain = true)
    {place next : Place alpha} :
    next ∈ pattern.run place ↔
      exists text, text ∈ pattern.language ∧ Place.Reads text place next := by
  induction pattern generalizing place next with
  | empty =>
      rw [run, List.mem_singleton]
      constructor
      · rintro rfl
        exact ⟨[], rfl, Place.Reads.nil next⟩
      · rintro ⟨text, htext, hreads⟩
        cases htext
        exact hreads.eq_of_nil
  | char p =>
      rcases place with ⟨before, rest, groups⟩
      constructor
      · intro hnext
        cases rest with
        | nil => exact absurd hnext List.not_mem_nil
        | cons c rest =>
            rw [run_char] at hnext
            by_cases hp : p c
            · rw [if_pos hp, List.mem_singleton] at hnext
              exact ⟨[c], ⟨c, hp, rfl⟩, hnext ▸ ⟨rfl, rfl, rfl⟩⟩
            · rw [if_neg hp] at hnext
              exact absurd hnext List.not_mem_nil
      · rintro ⟨text, ⟨c, hp, rfl⟩, hrest, hbefore, hgroups⟩
        rcases next with ⟨later, behind, others⟩
        dsimp only at hrest hbefore hgroups
        subst hrest hbefore hgroups
        rw [List.singleton_append, run_char, if_pos hp]
        exact List.mem_singleton_self _
  | seq first second ihfirst ihsecond =>
      rw [plain, Bool.and_eq_true] at h
      rw [run, List.mem_flatMap]
      constructor
      · rintro ⟨middle, hmiddle, hnext⟩
        rcases (ihfirst h.1).mp hmiddle with ⟨text, htext, hreads⟩
        rcases (ihsecond h.2).mp hnext with ⟨later, hlater, hrest⟩
        exact ⟨text ++ later, Language.append_mem_mul htext hlater,
          hreads.append hrest⟩
      · rintro ⟨text, htext, hreads⟩
        rcases Language.mem_mul.mp htext with
          ⟨front, hfront, later, hlater, rfl⟩
        rcases hreads.split with ⟨middle, hmiddle, hnext⟩
        exact ⟨middle, (ihfirst h.1).mpr ⟨front, hfront, hmiddle⟩,
          (ihsecond h.2).mpr ⟨later, hlater, hnext⟩⟩
  | alt first second ihfirst ihsecond =>
      rw [plain, Bool.and_eq_true] at h
      rw [run, List.mem_append, ihfirst h.1, ihsecond h.2]
      constructor
      · rintro (⟨text, htext, hreads⟩ | ⟨text, htext, hreads⟩)
        · exact ⟨text, Or.inl htext, hreads⟩
        · exact ⟨text, Or.inr htext, hreads⟩
      · rintro ⟨text, htext | htext, hreads⟩
        · exact Or.inl ⟨text, htext, hreads⟩
        · exact Or.inr ⟨text, htext, hreads⟩
  | star greedy body ih =>
      exact mem_iterate (fun place next => ih h) greedy (Nat.le_refl _)
  | group n body ih => cases h
  | back n same => cases h
  | ahead body ih => cases h
  | notAhead body ih => cases h
  | notBehind p => cases h
  | boundary word => cases h

theorem fullMatch_iff {pattern : Regex alpha} (h : pattern.plain = true)
    {text : List alpha} :
    pattern.fullMatch text = true ↔ text ∈ pattern.language := by
  rw [fullMatch, List.any_eq_true]
  constructor
  · rintro ⟨next, hnext, hend⟩
    rcases (mem_run h).mp hnext with ⟨read, hread, hreads⟩
    have hrest := hreads.rest
    rw [List.isEmpty_iff.mp hend, List.append_nil] at hrest
    rwa [show text = read from hrest]
  · intro htext
    refine ⟨{ before := text.reverse ++ [], rest := [] }, ?_, rfl⟩
    exact (mem_run h).mpr
      ⟨text, htext, (List.append_nil text).symm, rfl, rfl⟩

/-!
## The characters of a text that is read
-/

/-- The empty text is read. -/
def nullable : Regex alpha -> Bool
  | empty => true
  | seq first second => first.nullable && second.nullable
  | alt first second => first.nullable || second.nullable
  | star _ _ => true
  | _ => false

/-- What a text may begin with. -/
def first : Regex alpha -> alpha -> Bool
  | char p, c => p c
  | seq first second, c => first.first c || (first.nullable && second.first c)
  | alt first second, c => first.first c || second.first c
  | star _ body, c => body.first c
  | _, _ => false

/-- What a text may end with. -/
def last : Regex alpha -> alpha -> Bool
  | char p, c => p c
  | seq first second, c =>
      second.last c || (second.nullable && first.last c)
  | alt first second, c => first.last c || second.last c
  | star _ body, c => body.last c
  | _, _ => false

/-- What a text may contain. -/
def uses : Regex alpha -> alpha -> Bool
  | char p, c => p c
  | seq first second, c => first.uses c || second.uses c
  | alt first second, c => first.uses c || second.uses c
  | star _ body, c => body.uses c
  | _, _ => false

theorem nullable_of_nil {pattern : Regex alpha}
    (h : [] ∈ pattern.language) : pattern.nullable = true := by
  induction pattern with
  | empty => rfl
  | star greedy body ih => rfl
  | char p =>
      rcases h with ⟨c, _, heq⟩
      cases heq
  | seq first second ihfirst ihsecond =>
      rcases Language.mem_mul.mp h with ⟨front, hfront, back, hback, heq⟩
      rcases List.append_eq_nil_iff.mp heq with ⟨rfl, rfl⟩
      exact Bool.and_eq_true_iff.mpr ⟨ihfirst hfront, ihsecond hback⟩
  | alt first second ihfirst ihsecond =>
      exact Bool.or_eq_true_iff.mpr (h.imp ihfirst ihsecond)
  | group n body ih => exact absurd h (Set.notMem_empty _)
  | back n same => exact absurd h (Set.notMem_empty _)
  | ahead body ih => exact absurd h (Set.notMem_empty _)
  | notAhead body ih => exact absurd h (Set.notMem_empty _)
  | notBehind p => exact absurd h (Set.notMem_empty _)
  | boundary word => exact absurd h (Set.notMem_empty _)

theorem first_of_mem {pattern : Regex alpha} {c : alpha} {text : List alpha}
    (h : c :: text ∈ pattern.language) : pattern.first c = true := by
  induction pattern generalizing text with
  | empty => cases h
  | star greedy body ih =>
      rcases Language.mem_kstar_iff_exists_nonempty.mp h with
        ⟨parts, heq, hparts⟩
      cases parts with
      | nil => cases heq
      | cons part parts =>
          rw [List.forall_mem_cons] at hparts
          rcases List.exists_cons_of_ne_nil hparts.1.2 with ⟨d, rest, rfl⟩
          cases heq
          exact ih hparts.1.1
  | char p =>
      rcases h with ⟨d, hp, heq⟩
      cases heq
      exact hp
  | seq first second ihfirst ihsecond =>
      rcases Language.mem_mul.mp h with ⟨front, hfront, back, hback, heq⟩
      rw [Regex.first, Bool.or_eq_true, Bool.and_eq_true]
      cases front with
      | nil =>
          cases heq
          exact Or.inr ⟨nullable_of_nil hfront, ihsecond hback⟩
      | cons d front =>
          cases heq
          exact Or.inl (ihfirst hfront)
  | alt first second ihfirst ihsecond =>
      exact Bool.or_eq_true_iff.mpr (h.imp ihfirst ihsecond)
  | group n body ih => exact absurd h (Set.notMem_empty _)
  | back n same => exact absurd h (Set.notMem_empty _)
  | ahead body ih => exact absurd h (Set.notMem_empty _)
  | notAhead body ih => exact absurd h (Set.notMem_empty _)
  | notBehind p => exact absurd h (Set.notMem_empty _)
  | boundary word => exact absurd h (Set.notMem_empty _)

theorem last_of_mem {pattern : Regex alpha} {c : alpha} {text : List alpha}
    (h : text ++ [c] ∈ pattern.language) : pattern.last c = true := by
  have hne : [c] ≠ [] := List.cons_ne_nil c []
  induction pattern generalizing text with
  | empty => exact absurd h (List.append_ne_nil_of_right_ne_nil _ hne)
  | star greedy body ih =>
      rcases Language.mem_kstar_iff_exists_nonempty.mp h with
        ⟨parts, heq, hparts⟩
      rcases List.eq_nil_or_concat parts with rfl | ⟨front, part, rfl⟩
      · exact absurd heq (List.append_ne_nil_of_right_ne_nil _ hne)
      · rw [List.concat_eq_append] at heq hparts
        have hpart := hparts part (List.mem_append_right _
          (List.mem_singleton_self part))
        rcases List.eq_nil_or_concat part with rfl | ⟨inner, d, rfl⟩
        · exact absurd rfl hpart.2
        · rw [List.concat_eq_append] at heq hpart
          rw [List.flatten_append, List.flatten_singleton,
            ← List.append_assoc] at heq
          cases (List.append_inj' heq rfl).2
          exact ih hpart.1
  | char p =>
      rcases h with ⟨d, hp, heq⟩
      have hsame : text ++ [c] = [] ++ [d] := heq
      cases (List.append_inj' hsame rfl).2
      exact hp
  | seq first second ihfirst ihsecond =>
      rcases Language.mem_mul.mp h with ⟨front, hfront, back, hback, heq⟩
      rw [Regex.last, Bool.or_eq_true, Bool.and_eq_true]
      rcases List.eq_nil_or_concat back with rfl | ⟨inner, d, rfl⟩
      · rw [List.append_nil] at heq
        exact Or.inr ⟨nullable_of_nil hback, ihfirst (heq ▸ hfront)⟩
      · rw [List.concat_eq_append] at heq hback
        rw [← List.append_assoc] at heq
        cases (List.append_inj' heq rfl).2
        exact Or.inl (ihsecond hback)
  | alt first second ihfirst ihsecond =>
      exact Bool.or_eq_true_iff.mpr (h.imp ihfirst ihsecond)
  | group n body ih => exact absurd h (Set.notMem_empty _)
  | back n same => exact absurd h (Set.notMem_empty _)
  | ahead body ih => exact absurd h (Set.notMem_empty _)
  | notAhead body ih => exact absurd h (Set.notMem_empty _)
  | notBehind p => exact absurd h (Set.notMem_empty _)
  | boundary word => exact absurd h (Set.notMem_empty _)

theorem uses_of_mem {pattern : Regex alpha} {c : alpha} {text : List alpha}
    (h : text ∈ pattern.language) (hc : c ∈ text) :
    pattern.uses c = true := by
  induction pattern generalizing text with
  | empty =>
      cases h
      exact absurd hc List.not_mem_nil
  | star greedy body ih =>
      rcases Language.mem_kstar.mp h with ⟨parts, rfl, hparts⟩
      rcases List.mem_flatten.mp hc with ⟨part, hpart, hmem⟩
      exact ih (hparts part hpart) hmem
  | char p =>
      rcases h with ⟨d, hp, rfl⟩
      rw [List.mem_singleton.mp hc]
      exact hp
  | seq first second ihfirst ihsecond =>
      rcases Language.mem_mul.mp h with ⟨front, hfront, back, hback, rfl⟩
      rw [Regex.uses, Bool.or_eq_true]
      exact (List.mem_append.mp hc).imp (ihfirst hfront) (ihsecond hback)
  | alt first second ihfirst ihsecond =>
      exact Bool.or_eq_true_iff.mpr
        (h.imp (fun h => ihfirst h hc) fun h => ihsecond h hc)
  | group n body ih => exact absurd h (Set.notMem_empty _)
  | back n same => exact absurd h (Set.notMem_empty _)
  | ahead body ih => exact absurd h (Set.notMem_empty _)
  | notAhead body ih => exact absurd h (Set.notMem_empty _)
  | notBehind p => exact absurd h (Set.notMem_empty _)
  | boundary word => exact absurd h (Set.notMem_empty _)

theorem uses_of_stopsAt {pattern : Regex alpha} {c : alpha}
    (hplain : pattern.plain = true) (h : pattern.stopsAt c = true) :
    pattern.uses c = false := by
  induction pattern with
  | empty => rfl
  | char p => exact Bool.not_eq_true' _ ▸ h
  | seq first second ihfirst ihsecond =>
      rw [plain, Bool.and_eq_true] at hplain
      rw [stopsAt, Bool.and_eq_true] at h
      rw [Regex.uses, ihfirst hplain.1 h.1, ihsecond hplain.2 h.2]
      rfl
  | alt first second ihfirst ihsecond =>
      rw [plain, Bool.and_eq_true] at hplain
      rw [stopsAt, Bool.and_eq_true] at h
      rw [Regex.uses, ihfirst hplain.1 h.1, ihsecond hplain.2 h.2]
      rfl
  | star greedy body ih => exact ih hplain h
  | group n body ih => cases hplain
  | back n same => cases hplain
  | ahead body ih => cases hplain
  | notAhead body ih => cases hplain
  | notBehind p => cases hplain
  | boundary word => cases hplain

/-!
## Counting
-/

/-- Every text has so many characters of a class. -/
def Counts (q : alpha -> Bool) (n : Nat) (pattern : Regex alpha) : Prop :=
  forall text, text ∈ pattern.language -> n ≤ text.countP q

section Counts

variable {q : alpha -> Bool} {m n : Nat} {one other : Regex alpha}

theorem counts_zero (pattern : Regex alpha) : Counts q 0 pattern :=
  fun _ _ => Nat.zero_le _

theorem counts_char {p : alpha -> Bool}
    (h : forall c, p c = true -> q c = true) : Counts q 1 (char p) := by
  rintro text ⟨c, hp, rfl⟩
  rw [List.countP_singleton, if_pos (h c hp)]

theorem counts_seq (hone : Counts q m one) (hother : Counts q n other) :
    Counts q (m + n) (seq one other) := by
  intro text htext
  rcases Language.mem_mul.mp htext with ⟨front, hfront, back, hback, rfl⟩
  rw [List.countP_append]
  exact Nat.add_le_add (hone front hfront) (hother back hback)

theorem counts_alt (hone : Counts q n one) (hother : Counts q n other) :
    Counts q n (alt one other) := by
  rintro text (htext | htext)
  · exact hone text htext
  · exact hother text htext

theorem counts_times (h : Counts q m one) (n : Nat) :
    Counts q (n * m) (times n one) := by
  induction n with
  | zero =>
      rw [Nat.zero_mul]
      exact counts_zero _
  | succ n ih =>
      rw [Nat.succ_mul, Nat.add_comm]
      exact counts_seq h ih

end Counts

/-!
## Repeated characters
-/

theorem mem_times_char {p : alpha -> Bool} {n : Nat} {text : List alpha} :
    text ∈ (times n (char p)).language ↔
      text.length = n ∧ forall c, c ∈ text -> p c = true := by
  induction n generalizing text with
  | zero =>
      constructor
      · rintro rfl
        exact ⟨rfl, fun _ hc => absurd hc List.not_mem_nil⟩
      · rintro ⟨hlength, _⟩
        exact List.eq_nil_of_length_eq_zero hlength
  | succ n ih =>
      constructor
      · intro h
        rcases Language.mem_mul.mp h with ⟨_, ⟨c, hc, rfl⟩, rest, hrest, rfl⟩
        rcases ih.mp hrest with ⟨hlength, hall⟩
        exact ⟨congrArg Nat.succ hlength, List.forall_mem_cons.mpr ⟨hc, hall⟩⟩
      · rintro ⟨hlength, hall⟩
        cases text with
        | nil => cases hlength
        | cons c rest =>
            rw [List.forall_mem_cons] at hall
            exact Language.mem_mul.mpr ⟨[c], ⟨c, hall.1, rfl⟩, rest,
              ih.mpr ⟨Nat.succ.inj hlength, hall.2⟩, rfl⟩

theorem mem_star_char {p : alpha -> Bool} {greedy : Bool}
    {text : List alpha} : text ∈ (star greedy (char p)).language ↔
      forall c, c ∈ text -> p c = true := by
  constructor
  · intro h c hc
    exact uses_of_mem h hc
  · intro hall
    refine Language.mem_kstar.mpr ⟨text.map fun c => [c], ?_, ?_⟩
    · exact (List.flatMap_singleton' text).symm
    · intro part hpart
      rcases List.mem_map.mp hpart with ⟨c, hc, rfl⟩
      exact ⟨c, hall c hc, rfl⟩

theorem mem_atLeast_char {p : alpha -> Bool} {n : Nat} {text : List alpha} :
    text ∈ (atLeast n (char p)).language ↔
      n ≤ text.length ∧ forall c, c ∈ text -> p c = true := by
  constructor
  · intro h
    rcases Language.mem_mul.mp h with ⟨front, hfront, back, hback, rfl⟩
    rcases mem_times_char.mp hfront with ⟨hlength, hall⟩
    rw [List.length_append]
    exact ⟨by lia, List.forall_mem_append.mpr
      ⟨hall, mem_star_char.mp hback⟩⟩
  · rintro ⟨hlength, hall⟩
    refine Language.mem_mul.mpr ⟨text.take n, ?_, text.drop n, ?_,
      List.take_append_drop n text⟩
    · exact mem_times_char.mpr ⟨List.length_take_of_le hlength,
        fun c hc => hall c (List.mem_of_mem_take hc)⟩
    · exact mem_star_char.mpr fun c hc => hall c (List.mem_of_mem_drop hc)

theorem class_unique {p : alpha -> Bool} {one other rest more : List alpha}
    (hone : forall c, c ∈ one -> p c = true)
    (hother : forall c, c ∈ other -> p c = true)
    (hrest : rest.head?.any p = false) (hmore : more.head?.any p = false)
    (h : one ++ rest = other ++ more) : one = other ∧ rest = more := by
  induction one generalizing other with
  | nil =>
      cases other with
      | nil => exact ⟨rfl, h⟩
      | cons d other =>
          rw [List.nil_append] at h
          rw [h] at hrest
          exact Bool.noConfusion
            ((hother d List.mem_cons_self).symm.trans hrest)
  | cons c one ih =>
      rw [List.forall_mem_cons] at hone
      cases other with
      | nil =>
          rw [List.nil_append] at h
          rw [← h] at hmore
          exact Bool.noConfusion (hone.1.symm.trans hmore)
      | cons d other =>
          rw [List.forall_mem_cons] at hother
          rw [List.cons_append, List.cons_append, List.cons.injEq] at h
          rcases ih hone.2 hother.2 h.2 with ⟨hsame, hbehind⟩
          exact ⟨List.cons_eq_cons.mpr ⟨h.1, hsame⟩, hbehind⟩

theorem mem_exactly [DecidableEq alpha] {text word : List alpha} :
    word ∈ (exactly text).language ↔ word = text := by
  induction text generalizing word with
  | nil => exact Iff.rfl
  | cons c text ih =>
      constructor
      · intro h
        rcases Language.mem_mul.mp h with ⟨_, ⟨d, hd, rfl⟩, rest, hrest, rfl⟩
        rw [ih.mp hrest, of_decide_eq_true hd]
        rfl
      · rintro rfl
        exact Language.mem_mul.mpr ⟨[c], ⟨c, decide_eq_true rfl, rfl⟩, text,
          ih.mpr rfl, rfl⟩

/-!
## Patterns between two assertions
-/

/-- `(?<!...)body tail` -/
def guarded (behind : alpha -> Bool) (body tail : Regex alpha) :
    Regex alpha :=
  seq (notBehind behind) (seq body tail)

/-- A pattern that reads nothing and only looks at what follows. -/
def Asserts (tail : Regex alpha) (holds : List alpha -> Prop) : Prop :=
  forall place next, next ∈ tail.run place ↔ next = place ∧ holds place.rest

theorem exists_prefix {body : Regex alpha} (h : body.plain = true)
    (place : Place alpha) : (body.run place).isEmpty = false ↔
      exists text, text ∈ body.language ∧ text <+: place.rest := by
  rw [List.isEmpty_eq_false_iff_exists_mem]
  constructor
  · rintro ⟨next, hnext⟩
    rcases (mem_run h).mp hnext with ⟨text, htext, hreads⟩
    exact ⟨text, htext, next.rest, hreads.rest.symm⟩
  · rintro ⟨text, htext, rest, hrest⟩
    refine ⟨{ place with
      before := text.reverse ++ place.before
      rest := rest }, (mem_run h).mpr ⟨text, htext, hrest.symm, rfl, rfl⟩⟩

theorem asserts_ahead {body : Regex alpha} (h : body.plain = true) :
    (ahead body).Asserts fun rest =>
      exists text, text ∈ body.language ∧ text <+: rest := by
  intro place next
  dsimp only
  rw [← exists_prefix h, run]
  cases (body.run place).isEmpty
  · exact List.mem_singleton.trans (and_iff_left rfl).symm
  · exact iff_of_false List.not_mem_nil fun hnext =>
      Bool.noConfusion hnext.2

theorem asserts_notAhead {body : Regex alpha} (h : body.plain = true) :
    (notAhead body).Asserts fun rest =>
      ¬ exists text, text ∈ body.language ∧ text <+: rest := by
  intro place next
  dsimp only
  rw [← exists_prefix h, run]
  cases (body.run place).isEmpty
  · exact iff_of_false List.not_mem_nil fun hnext => hnext.2 rfl
  · exact List.mem_singleton.trans
      (and_iff_left Bool.noConfusion).symm

theorem asserts_notAhead_char (p : alpha -> Bool) :
    (notAhead (char p)).Asserts fun rest => rest.head?.any p = false := by
  intro place next
  rcases place with ⟨before, rest, groups⟩
  cases rest with
  | nil => exact List.mem_singleton.trans (and_iff_left rfl).symm
  | cons c rest =>
      change next ∈ (if ((char p).run _).isEmpty then _ else _) ↔
        _ ∧ p c = false
      rw [run_char]
      cases p c
      · exact List.mem_singleton.trans (and_iff_left rfl).symm
      · exact iff_of_false List.not_mem_nil fun h => Bool.noConfusion h.2

section Guarded

variable {behind : alpha -> Bool} {body tail : Regex alpha}
variable {holds : List alpha -> Prop} {before rest : List alpha}

theorem mem_run_guarded (hbody : body.plain = true) (htail : tail.Asserts holds)
    {place next : Place alpha} :
    next ∈ (guarded behind body tail).run place ↔
      place.before.head?.any behind = false ∧ holds next.rest ∧
        exists text, text ∈ body.language ∧ Place.Reads text place next := by
  rw [guarded, run, run]
  cases place.before.head?.any behind
  · rw [if_neg Bool.false_ne_true, List.flatMap_singleton, run,
      List.mem_flatMap]
    constructor
    · rintro ⟨middle, hmiddle, hnext⟩
      rcases (htail middle next).mp hnext with ⟨rfl, hholds⟩
      exact ⟨rfl, hholds, (mem_run hbody).mp hmiddle⟩
    · rintro ⟨_, hholds, hreads⟩
      exact ⟨next, (mem_run hbody).mpr hreads,
        (htail next next).mpr ⟨rfl, hholds⟩⟩
  · exact iff_of_false List.not_mem_nil fun h => Bool.noConfusion h.1

/-- What is found is read between the assertions. -/
theorem of_find_guarded (hbody : body.plain = true)
    (htail : tail.Asserts holds) {n : Nat} {groups : List (Nat × List alpha)}
    (h : (guarded behind body tail).find before rest = some (n, groups)) :
    before.head?.any behind = false ∧
      exists text later, text ∈ body.language ∧ rest = text ++ later ∧
        n = text.length ∧ holds later := by
  rcases Option.map_eq_some_iff.mp h with ⟨next, hnext, heq⟩
  rcases (mem_run_guarded hbody htail).mp (List.mem_of_mem_head? hnext) with
    ⟨hbehind, hholds, text, htext, hreads⟩
  have hlength := hreads.length
  cases heq
  exact ⟨hbehind, text, next.rest, htext, hreads.rest,
    by dsimp only at hlength; lia, hholds⟩

theorem find_guarded_isSome (hbody : body.plain = true)
    (htail : tail.Asserts holds) (hbehind : before.head?.any behind = false)
    {text later : List alpha} (htext : text ∈ body.language)
    (hholds : holds later) :
    ((guarded behind body tail).find before (text ++ later)).isSome =
      true := by
  have hmem : { before := text.reverse ++ before, rest := later } ∈
      (guarded behind body tail).run
        { before := before, rest := text ++ later } :=
    (mem_run_guarded hbody htail).mpr
      ⟨hbehind, hholds, text, htext, rfl, rfl, rfl⟩
  rw [find, Option.isSome_map]
  exact List.isSome_head?.mpr (List.ne_nil_of_mem hmem)

end Guarded

end Regex

end Foundation
end IntelAmt
