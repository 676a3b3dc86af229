import IntelAmt.Foundation.Json.Tokens

/-!
# How the scanner goes through a value

The scanner of values runs on fuel.  Each of its passes is one of a few forms,
and what is true of every scan follows by induction on the fuel: it shortens
the text, enough fuel finds what any fuel finds, and a scan that has come to
an end, or to the end of its room, ends so in every longer text.
-/

namespace IntelAmt
namespace Foundation
namespace Json

theorem found_eq_ok {alpha : Type} {o : Option alpha} {a : alpha} :
    found o = Except.ok a ↔ o = some a := by
  cases o with
  | none => simp [found]
  | some b => simp [found]

theorem found_ne_recursion {alpha : Type} (o : Option alpha) :
    found o ≠ Except.error ScanError.recursion := by
  cases o with
  | none => simp [found]
  | some a => simp [found]

section Binds

variable {error alpha beta : Type} {x : Except error alpha}
variable {f : alpha -> Except error beta}

theorem bind_eq_ok {b : beta} :
    x >>= f = Except.ok b ↔ exists a, x = Except.ok a ∧ f a = Except.ok b := by
  cases x with
  | error e => simp [bind, Except.bind]
  | ok a => simp [bind, Except.bind]

theorem bind_eq_error {e : error} :
    x >>= f = Except.error e ↔ x = Except.error e ∨
      exists a, x = Except.ok a ∧ f a = Except.error e := by
  cases x with
  | error e => simp [bind, Except.bind]
  | ok a => simp [bind, Except.bind]

theorem found_bind_recursion {o : Option alpha}
    {g : alpha -> Except ScanError beta} :
    found o >>= g = Except.error ScanError.recursion ↔
      exists a, o = some a ∧ g a = Except.error ScanError.recursion := by
  cases o with
  | none => simp [found, bind, Except.bind]
  | some a => simp [found, bind, Except.bind]

theorem found_bind_ok {o : Option alpha} {g : alpha -> Except ScanError beta}
    {b : beta} :
    found o >>= g = Except.ok b ↔
      exists a, o = some a ∧ g a = Except.ok b := by
  cases o with
  | none => simp [found, bind, Except.bind]
  | some a => simp [found, bind, Except.bind]

end Binds

/-!
## What is found
-/

/-- What the scanner finds from the first character of a value on. -/
inductive ValueForm (fuel : Nat) :
    Nat -> Char -> List Char -> Json -> List Char -> Prop where
  | str {depth : Nat} {text rest : List Char} {points : List Nat}
      (h : scanString text = some (points, rest)) :
      ValueForm fuel depth '"' text (Json.str points) rest
  | empty {depth : Nat} {text rest : List Char}
      (h : next text = some ('}', rest)) :
      ValueForm fuel (depth + 1) '{' text (obj []) rest
  | obj {depth : Nat} {text inside rest : List Char}
      {members : List (List Nat × Json)}
      (hquote : next text = some ('"', inside))
      (h : scanMembers fuel depth inside = Except.ok (members, rest)) :
      ValueForm fuel (depth + 1) '{' text (Json.obj (ofEntries members)) rest
  | none {depth : Nat} {text rest : List Char}
      (h : next text = some (']', rest)) :
      ValueForm fuel (depth + 1) '[' text (arr []) rest
  | arr {depth : Nat} {text inside rest : List Char} {c : Char}
      {items : List Json}
      (hnext : next text = some (c, inside)) (hc : c ≠ ']')
      (h : scanItems fuel depth text = Except.ok (items, rest)) :
      ValueForm fuel (depth + 1) '[' text (Json.arr items) rest
  | scalar {depth : Nat} {c : Char} {text rest : List Char} {value : Json}
      (hquote : c ≠ '"') (hbrace : c ≠ '{') (hbracket : c ≠ '[')
      (h : scanScalar c text = some (value, rest)) :
      ValueForm fuel depth c text value rest

theorem scanValue_eq_ok {fuel depth : Nat} {text rest : List Char}
    {value : Json} :
    scanValue (fuel + 1) depth text = Except.ok (value, rest) ↔
      exists c behind, next text = some (c, behind) ∧
        ValueForm fuel depth c behind value rest := by
  rw [scanValue]
  constructor
  · intro h
    rcases found_bind_ok.mp h with ⟨⟨c, behind⟩, hnext, hform⟩
    refine ⟨c, behind, hnext, ?_⟩
    simp only at hform
    split at hform
    · rename_i hc
      subst hc
      rcases found_bind_ok.mp hform with ⟨⟨points, tail⟩, hs, heq⟩
      cases heq
      exact ValueForm.str hs
    rename_i hquote
    split at hform
    · rename_i hc
      subst hc
      cases depth with
      | zero => cases hform
      | succ depth =>
          rw [if_neg (Nat.succ_ne_zero depth)] at hform
          rcases found_bind_ok.mp hform with ⟨⟨d, inside⟩, hd, hrest⟩
          simp only at hrest
          split at hrest
          · rename_i hbrace
            subst hbrace
            cases hrest
            exact ValueForm.empty hd
          split at hrest
          · rename_i hkey
            subst hkey
            rcases bind_eq_ok.mp hrest with ⟨⟨members, tail⟩, hmembers, heq⟩
            cases heq
            exact ValueForm.obj hd hmembers
          · cases hrest
    rename_i hbrace
    split at hform
    · rename_i hc
      subst hc
      cases depth with
      | zero => cases hform
      | succ depth =>
          rw [if_neg (Nat.succ_ne_zero depth)] at hform
          rcases found_bind_ok.mp hform with ⟨⟨d, inside⟩, hd, hrest⟩
          simp only at hrest
          split at hrest
          · rename_i hbracket
            subst hbracket
            cases hrest
            exact ValueForm.none hd
          · rename_i hbracket
            rcases bind_eq_ok.mp hrest with ⟨⟨items, tail⟩, hitems, heq⟩
            cases heq
            exact ValueForm.arr hd hbracket hitems
    · rename_i hbracket
      exact ValueForm.scalar hquote hbrace hbracket (found_eq_ok.mp hform)
  · rintro ⟨c, behind, hnext, hform⟩
    refine found_bind_ok.mpr ⟨_, hnext, ?_⟩
    cases hform with
    | str h => exact found_bind_ok.mpr ⟨_, h, rfl⟩
    | empty h => exact found_bind_ok.mpr ⟨_, h, rfl⟩
    | obj hquote h =>
        exact found_bind_ok.mpr ⟨_, hquote, bind_eq_ok.mpr ⟨_, h, rfl⟩⟩
    | none h => exact found_bind_ok.mpr ⟨_, h, rfl⟩
    | arr hd hc h =>
        refine found_bind_ok.mpr ⟨_, hd, ?_⟩
        simp only [if_neg hc]
        exact bind_eq_ok.mpr ⟨_, h, rfl⟩
    | scalar hquote hbrace hbracket h =>
        simp only [if_neg hquote, if_neg hbrace, if_neg hbracket]
        exact found_eq_ok.mpr h

/-- How the scanner of a value comes to the end of its room. -/
inductive ValueDeep (fuel : Nat) : Nat -> Char -> List Char -> Prop where
  | brace {text : List Char} : ValueDeep fuel 0 '{' text
  | bracket {text : List Char} : ValueDeep fuel 0 '[' text
  | obj {depth : Nat} {text inside : List Char}
      (hquote : next text = some ('"', inside))
      (h : scanMembers fuel depth inside =
        Except.error ScanError.recursion) :
      ValueDeep fuel (depth + 1) '{' text
  | arr {depth : Nat} {text inside : List Char} {c : Char}
      (hnext : next text = some (c, inside)) (hc : c ≠ ']')
      (h : scanItems fuel depth text = Except.error ScanError.recursion) :
      ValueDeep fuel (depth + 1) '[' text

theorem scanValue_eq_recursion {fuel depth : Nat} {text : List Char} :
    scanValue (fuel + 1) depth text = Except.error ScanError.recursion ↔
      exists c behind, next text = some (c, behind) ∧
        ValueDeep fuel depth c behind := by
  rw [scanValue]
  constructor
  · intro h
    rcases found_bind_recursion.mp h with ⟨⟨c, behind⟩, hnext, hdeep⟩
    refine ⟨c, behind, hnext, ?_⟩
    simp only at hdeep
    split at hdeep
    · rcases found_bind_recursion.mp hdeep with ⟨_, _, heq⟩
      cases heq
    split at hdeep
    · rename_i hc
      subst hc
      cases depth with
      | zero => exact ValueDeep.brace
      | succ depth =>
          rw [if_neg (Nat.succ_ne_zero depth)] at hdeep
          rcases found_bind_recursion.mp hdeep with ⟨⟨d, inside⟩, hd, hrest⟩
          simp only at hrest
          split at hrest
          · cases hrest
          split at hrest
          · rename_i hkey
            subst hkey
            rcases bind_eq_error.mp hrest with hmembers | ⟨_, _, heq⟩
            · exact ValueDeep.obj hd hmembers
            · cases heq
          · cases hrest
    split at hdeep
    · rename_i hc
      subst hc
      cases depth with
      | zero => exact ValueDeep.bracket
      | succ depth =>
          rw [if_neg (Nat.succ_ne_zero depth)] at hdeep
          rcases found_bind_recursion.mp hdeep with ⟨⟨d, inside⟩, hd, hrest⟩
          simp only at hrest
          split at hrest
          · cases hrest
          · rename_i hbracket
            rcases bind_eq_error.mp hrest with hitems | ⟨_, _, heq⟩
            · exact ValueDeep.arr hd hbracket hitems
            · cases heq
    · exact absurd hdeep (found_ne_recursion _)
  · rintro ⟨c, behind, hnext, hdeep⟩
    refine found_bind_recursion.mpr ⟨_, hnext, ?_⟩
    cases hdeep with
    | brace => rfl
    | bracket => rfl
    | obj hquote h =>
        exact found_bind_recursion.mpr ⟨_, hquote,
          bind_eq_error.mpr (Or.inl h)⟩
    | arr hd hc h =>
        refine found_bind_recursion.mpr ⟨_, hd, ?_⟩
        simp only [if_neg hc]
        exact bind_eq_error.mpr (Or.inl h)

/-- What the scanner finds from a key on. -/
inductive MembersForm (fuel depth : Nat) :
    List Char -> List (List Nat × Json) -> List Char -> Prop where
  | last {text colon before behind rest : List Char} {k : List Nat}
      {v : Json} (hk : scanString text = some (k, colon))
      (hcolon : next colon = some (':', before))
      (hv : scanValue fuel depth before = Except.ok (v, behind))
      (hend : next behind = some ('}', rest)) :
      MembersForm fuel depth text [(k, v)] rest
  | more {text colon before behind comma inside rest : List Char}
      {k : List Nat} {v : Json} {members : List (List Nat × Json)}
      (hk : scanString text = some (k, colon))
      (hcolon : next colon = some (':', before))
      (hv : scanValue fuel depth before = Except.ok (v, behind))
      (hcomma : next behind = some (',', comma))
      (hquote : next comma = some ('"', inside))
      (h : scanMembers fuel depth inside = Except.ok (members, rest)) :
      MembersForm fuel depth text ((k, v) :: members) rest

theorem scanMembers_eq_ok {fuel depth : Nat} {text rest : List Char}
    {members : List (List Nat × Json)} :
    scanMembers (fuel + 1) depth text = Except.ok (members, rest) ↔
      MembersForm fuel depth text members rest := by
  rw [scanMembers]
  constructor
  · intro h
    rcases found_bind_ok.mp h with ⟨⟨k, colon⟩, hk, h⟩
    rcases found_bind_ok.mp h with ⟨⟨c, before⟩, hcolon, h⟩
    simp only at h
    split at h
    · rename_i hc
      subst hc
      rcases bind_eq_ok.mp h with ⟨⟨v, behind⟩, hv, h⟩
      rcases found_bind_ok.mp h with ⟨⟨d, comma⟩, hd, h⟩
      simp only at h
      split at h
      · rename_i hbrace
        subst hbrace
        cases h
        exact MembersForm.last hk hcolon hv hd
      split at h
      · rename_i hcomma
        subst hcomma
        rcases found_bind_ok.mp h with ⟨⟨q, inside⟩, hq, h⟩
        simp only at h
        split at h
        · rename_i hquote
          subst hquote
          rcases bind_eq_ok.mp h with ⟨⟨more, tail⟩, hmore, h⟩
          cases h
          exact MembersForm.more hk hcolon hv hd hq hmore
        · cases h
      · cases h
    · cases h
  · intro hform
    cases hform with
    | last hk hcolon hv hend =>
        refine found_bind_ok.mpr ⟨_, hk, found_bind_ok.mpr ⟨_, hcolon, ?_⟩⟩
        exact bind_eq_ok.mpr ⟨_, hv, found_bind_ok.mpr ⟨_, hend, rfl⟩⟩
    | more hk hcolon hv hcomma hquote h =>
        refine found_bind_ok.mpr ⟨_, hk, found_bind_ok.mpr ⟨_, hcolon, ?_⟩⟩
        refine bind_eq_ok.mpr ⟨_, hv, found_bind_ok.mpr ⟨_, hcomma, ?_⟩⟩
        exact found_bind_ok.mpr ⟨_, hquote, bind_eq_ok.mpr ⟨_, h, rfl⟩⟩

inductive MembersDeep (fuel depth : Nat) : List Char -> Prop where
  | value {text colon before : List Char} {k : List Nat}
      (hk : scanString text = some (k, colon))
      (hcolon : next colon = some (':', before))
      (hv : scanValue fuel depth before = Except.error ScanError.recursion) :
      MembersDeep fuel depth text
  | more {text colon before behind comma inside : List Char}
      {k : List Nat} {v : Json}
      (hk : scanString text = some (k, colon))
      (hcolon : next colon = some (':', before))
      (hv : scanValue fuel depth before = Except.ok (v, behind))
      (hcomma : next behind = some (',', comma))
      (hquote : next comma = some ('"', inside))
      (h : scanMembers fuel depth inside =
        Except.error ScanError.recursion) :
      MembersDeep fuel depth text

theorem scanMembers_eq_recursion {fuel depth : Nat} {text : List Char} :
    scanMembers (fuel + 1) depth text = Except.error ScanError.recursion ↔
      MembersDeep fuel depth text := by
  rw [scanMembers]
  constructor
  · intro h
    rcases found_bind_recursion.mp h with ⟨⟨k, colon⟩, hk, h⟩
    rcases found_bind_recursion.mp h with ⟨⟨c, before⟩, hcolon, h⟩
    simp only at h
    split at h
    · rename_i hc
      subst hc
      rcases bind_eq_error.mp h with hv | ⟨⟨v, behind⟩, hv, h⟩
      · exact MembersDeep.value hk hcolon hv
      rcases found_bind_recursion.mp h with ⟨⟨d, comma⟩, hd, h⟩
      simp only at h
      split at h
      · cases h
      split at h
      · rename_i hcomma
        subst hcomma
        rcases found_bind_recursion.mp h with ⟨⟨q, inside⟩, hq, h⟩
        simp only at h
        split at h
        · rename_i hquote
          subst hquote
          rcases bind_eq_error.mp h with hmore | ⟨_, _, heq⟩
          · exact MembersDeep.more hk hcolon hv hd hq hmore
          · cases heq
        · cases h
      · cases h
    · cases h
  · intro hdeep
    cases hdeep with
    | value hk hcolon hv =>
        refine found_bind_recursion.mpr ⟨_, hk, ?_⟩
        refine found_bind_recursion.mpr ⟨_, hcolon, ?_⟩
        exact bind_eq_error.mpr (Or.inl hv)
    | more hk hcolon hv hcomma hquote h =>
        refine found_bind_recursion.mpr ⟨_, hk, ?_⟩
        refine found_bind_recursion.mpr ⟨_, hcolon, ?_⟩
        refine bind_eq_error.mpr (Or.inr ⟨_, hv, ?_⟩)
        refine found_bind_recursion.mpr ⟨_, hcomma, ?_⟩
        refine found_bind_recursion.mpr ⟨_, hquote, ?_⟩
        exact bind_eq_error.mpr (Or.inl h)

inductive ItemsForm (fuel depth : Nat) :
    List Char -> List Json -> List Char -> Prop where
  | last {text behind rest : List Char} {item : Json}
      (hitem : scanValue fuel depth text = Except.ok (item, behind))
      (hend : next behind = some (']', rest)) :
      ItemsForm fuel depth text [item] rest
  | more {text behind comma rest : List Char} {item : Json}
      {items : List Json}
      (hitem : scanValue fuel depth text = Except.ok (item, behind))
      (hcomma : next behind = some (',', comma))
      (h : scanItems fuel depth comma = Except.ok (items, rest)) :
      ItemsForm fuel depth text (item :: items) rest

theorem scanItems_eq_ok {fuel depth : Nat} {text rest : List Char}
    {items : List Json} :
    scanItems (fuel + 1) depth text = Except.ok (items, rest) ↔
      ItemsForm fuel depth text items rest := by
  rw [scanItems]
  constructor
  · intro h
    rcases bind_eq_ok.mp h with ⟨⟨item, behind⟩, hitem, h⟩
    rcases found_bind_ok.mp h with ⟨⟨c, comma⟩, hc, h⟩
    simp only at h
    split at h
    · rename_i hbracket
      subst hbracket
      cases h
      exact ItemsForm.last hitem hc
    split at h
    · rename_i hcomma
      subst hcomma
      rcases bind_eq_ok.mp h with ⟨⟨more, tail⟩, hmore, h⟩
      cases h
      exact ItemsForm.more hitem hc hmore
    · cases h
  · intro hform
    cases hform with
    | last hitem hend =>
        exact bind_eq_ok.mpr ⟨_, hitem, found_bind_ok.mpr ⟨_, hend, rfl⟩⟩
    | more hitem hcomma h =>
        refine bind_eq_ok.mpr ⟨_, hitem, found_bind_ok.mpr ⟨_, hcomma, ?_⟩⟩
        exact bind_eq_ok.mpr ⟨_, h, rfl⟩

inductive ItemsDeep (fuel depth : Nat) : List Char -> Prop where
  | item {text : List Char}
      (hitem : scanValue fuel depth text =
        Except.error ScanError.recursion) :
      ItemsDeep fuel depth text
  | more {text behind comma : List Char} {item : Json}
      (hitem : scanValue fuel depth text = Except.ok (item, behind))
      (hcomma : next behind = some (',', comma))
      (h : scanItems fuel depth comma = Except.error ScanError.recursion) :
      ItemsDeep fuel depth text

theorem scanItems_eq_recursion {fuel depth : Nat} {text : List Char} :
    scanItems (fuel + 1) depth text = Except.error ScanError.recursion ↔
      ItemsDeep fuel depth text := by
  rw [scanItems]
  constructor
  · intro h
    rcases bind_eq_error.mp h with hitem | ⟨⟨item, behind⟩, hitem, h⟩
    · exact ItemsDeep.item hitem
    rcases found_bind_recursion.mp h with ⟨⟨c, comma⟩, hc, h⟩
    simp only at h
    split at h
    · cases h
    split at h
    · rename_i hcomma
      subst hcomma
      rcases bind_eq_error.mp h with hmore | ⟨_, _, heq⟩
      · exact ItemsDeep.more hitem hc hmore
      · cases heq
    · cases h
  · intro hdeep
    cases hdeep with
    | item hitem => exact bind_eq_error.mpr (Or.inl hitem)
    | more hitem hcomma h =>
        refine bind_eq_error.mpr (Or.inr ⟨_, hitem, ?_⟩)
        refine found_bind_recursion.mpr ⟨_, hcomma, ?_⟩
        exact bind_eq_error.mpr (Or.inl h)

/-!
## Every scan shortens the text
-/

theorem scan_length (fuel : Nat) :
    (forall depth text value rest,
      scanValue fuel depth text = Except.ok (value, rest) ->
      rest.length < text.length) ∧
    (forall depth text members rest,
      scanMembers fuel depth text = Except.ok (members, rest) ->
      rest.length < text.length) ∧
    (forall depth text items rest,
      scanItems fuel depth text = Except.ok (items, rest) ->
      rest.length < text.length) := by
  induction fuel with
  | zero => exact ⟨nofun, nofun, nofun⟩
  | succ fuel ih =>
      rcases ih with ⟨ihvalue, ihmembers, ihitems⟩
      refine ⟨?_, ?_, ?_⟩
      · intro depth text value rest h
        rcases scanValue_eq_ok.mp h with ⟨c, behind, hnext, hform⟩
        have hbehind := next_length hnext
        suffices rest.length ≤ behind.length by lia
        cases hform with
        | str h => exact Nat.le_of_lt (scanString_length h)
        | empty h | none h => exact Nat.le_of_lt (next_length h)
        | obj hquote h =>
            have hinside := next_length hquote
            have hmembers := ihmembers _ _ _ _ h
            lia
        | arr _ _ h => exact Nat.le_of_lt (ihitems _ _ _ _ h)
        | scalar _ _ _ h => exact scanScalar_length h
      · intro depth text members rest h
        cases scanMembers_eq_ok.mp h with
        | last hk hcolon hv hend =>
            have hk := scanString_length hk
            have hcolon := next_length hcolon
            have hv := ihvalue _ _ _ _ hv
            have hend := next_length hend
            lia
        | more hk hcolon hv hcomma hquote h =>
            have hk := scanString_length hk
            have hcolon := next_length hcolon
            have hv := ihvalue _ _ _ _ hv
            have hcomma := next_length hcomma
            have hquote := next_length hquote
            have hmembers := ihmembers _ _ _ _ h
            lia
      · intro depth text items rest h
        cases scanItems_eq_ok.mp h with
        | last hitem hend =>
            have hitem := ihvalue _ _ _ _ hitem
            have hend := next_length hend
            lia
        | more hitem hcomma h =>
            have hitem := ihvalue _ _ _ _ hitem
            have hcomma := next_length hcomma
            have hitems := ihitems _ _ _ _ h
            lia

/-- What any fuel finds, fuel for twice the text finds. -/
theorem scan_fuel (fuel : Nat) :
    (forall depth text value rest enough, 2 * text.length < enough ->
      scanValue fuel depth text = Except.ok (value, rest) ->
      scanValue enough depth text = Except.ok (value, rest)) ∧
    (forall depth text members rest enough, 2 * text.length < enough ->
      scanMembers fuel depth text = Except.ok (members, rest) ->
      scanMembers enough depth text = Except.ok (members, rest)) ∧
    (forall depth text items rest enough, 2 * text.length + 1 < enough ->
      scanItems fuel depth text = Except.ok (items, rest) ->
      scanItems enough depth text = Except.ok (items, rest)) := by
  induction fuel with
  | zero => exact ⟨nofun, nofun, nofun⟩
  | succ fuel ih =>
      rcases ih with ⟨ihvalue, ihmembers, ihitems⟩
      refine ⟨?_, ?_, ?_⟩
      · rintro depth text value rest (_ | enough) henough hscan
        · cases henough
        rcases scanValue_eq_ok.mp hscan with ⟨c, behind, hnext, hform⟩
        have hbehind := next_length hnext
        refine scanValue_eq_ok.mpr ⟨c, behind, hnext, ?_⟩
        cases hform with
        | str h => exact ValueForm.str h
        | empty h => exact ValueForm.empty h
        | obj hquote h =>
            have hinside := next_length hquote
            exact ValueForm.obj hquote (ihmembers _ _ _ _ _ (by lia) h)
        | none h => exact ValueForm.none h
        | arr hd hc h =>
            exact ValueForm.arr hd hc (ihitems _ _ _ _ _ (by lia) h)
        | scalar hquote hbrace hbracket h =>
            exact ValueForm.scalar hquote hbrace hbracket h
      · rintro depth text members rest (_ | enough) henough hscan
        · cases henough
        refine scanMembers_eq_ok.mpr ?_
        cases scanMembers_eq_ok.mp hscan with
        | last hk hcolon hv hend =>
            have hklength := scanString_length hk
            have hcolonlength := next_length hcolon
            exact MembersForm.last hk hcolon
              (ihvalue _ _ _ _ _ (by lia) hv) hend
        | more hk hcolon hv hcomma hquote h =>
            have hklength := scanString_length hk
            have hcolonlength := next_length hcolon
            have hvlength := (scan_length fuel).1 _ _ _ _ hv
            have hcommalength := next_length hcomma
            have hquotelength := next_length hquote
            exact MembersForm.more hk hcolon (ihvalue _ _ _ _ _ (by lia) hv)
              hcomma hquote (ihmembers _ _ _ _ _ (by lia) h)
      · rintro depth text items rest (_ | enough) henough hscan
        · cases henough
        refine scanItems_eq_ok.mpr ?_
        cases scanItems_eq_ok.mp hscan with
        | last hitem hend =>
            exact ItemsForm.last (ihvalue _ _ _ _ _ (by lia) hitem) hend
        | more hitem hcomma h =>
            have hitemlength := (scan_length fuel).1 _ _ _ _ hitem
            have hcommalength := next_length hcomma
            exact ItemsForm.more (ihvalue _ _ _ _ _ (by lia) hitem) hcomma
              (ihitems _ _ _ _ _ (by lia) h)

theorem scan_recursion_fuel (fuel : Nat) :
    (forall depth text enough, 2 * text.length < enough ->
      scanValue fuel depth text = Except.error ScanError.recursion ->
      scanValue enough depth text = Except.error ScanError.recursion) ∧
    (forall depth text enough, 2 * text.length < enough ->
      scanMembers fuel depth text = Except.error ScanError.recursion ->
      scanMembers enough depth text = Except.error ScanError.recursion) ∧
    (forall depth text enough, 2 * text.length + 1 < enough ->
      scanItems fuel depth text = Except.error ScanError.recursion ->
      scanItems enough depth text = Except.error ScanError.recursion) := by
  induction fuel with
  | zero => exact ⟨nofun, nofun, nofun⟩
  | succ fuel ih =>
      rcases ih with ⟨ihvalue, ihmembers, ihitems⟩
      have hvalue := (scan_fuel fuel).1
      refine ⟨?_, ?_, ?_⟩
      · rintro depth text (_ | enough) henough hscan
        · cases henough
        rcases scanValue_eq_recursion.mp hscan with ⟨c, behind, hnext, hdeep⟩
        have hbehind := next_length hnext
        refine scanValue_eq_recursion.mpr ⟨c, behind, hnext, ?_⟩
        cases hdeep with
        | brace => exact ValueDeep.brace
        | bracket => exact ValueDeep.bracket
        | obj hquote h =>
            have hinside := next_length hquote
            exact ValueDeep.obj hquote (ihmembers _ _ _ (by lia) h)
        | arr hd hc h =>
            exact ValueDeep.arr hd hc (ihitems _ _ _ (by lia) h)
      · rintro depth text (_ | enough) henough hscan
        · cases henough
        refine scanMembers_eq_recursion.mpr ?_
        cases scanMembers_eq_recursion.mp hscan with
        | value hk hcolon hv =>
            have hklength := scanString_length hk
            have hcolonlength := next_length hcolon
            exact MembersDeep.value hk hcolon (ihvalue _ _ _ (by lia) hv)
        | more hk hcolon hv hcomma hquote h =>
            have hklength := scanString_length hk
            have hcolonlength := next_length hcolon
            have hvlength := (scan_length fuel).1 _ _ _ _ hv
            have hcommalength := next_length hcomma
            have hquotelength := next_length hquote
            exact MembersDeep.more hk hcolon (hvalue _ _ _ _ _ (by lia) hv)
              hcomma hquote (ihmembers _ _ _ (by lia) h)
      · rintro depth text (_ | enough) henough hscan
        · cases henough
        refine scanItems_eq_recursion.mpr ?_
        cases scanItems_eq_recursion.mp hscan with
        | item hitem => exact ItemsDeep.item (ihvalue _ _ _ (by lia) hitem)
        | more hitem hcomma h =>
            have hitemlength := (scan_length fuel).1 _ _ _ _ hitem
            have hcommalength := next_length hcomma
            exact ItemsDeep.more (hvalue _ _ _ _ _ (by lia) hitem) hcomma
              (ihitems _ _ _ (by lia) h)

/-!
## Longer texts
-/

/-- A scan that has come to an end finds the same in every longer text. -/
theorem scan_append (fuel : Nat) (more : List Char) :
    (forall depth text value rest,
      scanValue fuel depth text = Except.ok (value, rest) ->
      Ended rest ∨ isObject value = true ->
      scanValue fuel depth (text ++ more) = Except.ok (value, rest ++ more)) ∧
    (forall depth text members rest,
      scanMembers fuel depth text = Except.ok (members, rest) ->
      scanMembers fuel depth (text ++ more) =
        Except.ok (members, rest ++ more)) ∧
    (forall depth text items rest,
      scanItems fuel depth text = Except.ok (items, rest) ->
      scanItems fuel depth (text ++ more) =
        Except.ok (items, rest ++ more)) := by
  induction fuel with
  | zero => exact ⟨nofun, nofun, nofun⟩
  | succ fuel ih =>
      rcases ih with ⟨ihvalue, ihmembers, ihitems⟩
      refine ⟨?_, ?_, ?_⟩
      · intro depth text value rest hscan hended
        rcases scanValue_eq_ok.mp hscan with ⟨c, behind, hnext, hform⟩
        refine scanValue_eq_ok.mpr
          ⟨c, behind ++ more, next_append hnext more, ?_⟩
        cases hform with
        | str h => exact ValueForm.str (scanString_append h more)
        | empty h => exact ValueForm.empty (next_append h more)
        | obj hquote h =>
            exact ValueForm.obj (next_append hquote more) (ihmembers _ _ _ _ h)
        | none h => exact ValueForm.none (next_append h more)
        | arr hd hc h =>
            exact ValueForm.arr (next_append hd more) hc (ihitems _ _ _ _ h)
        | scalar hquote hbrace hbracket h =>
            refine ValueForm.scalar hquote hbrace hbracket
              (scanScalar_append h ?_ more)
            exact hended.resolve_right (by
              rw [scanScalar_isObject h]
              decide)
      · intro depth text members rest hscan
        refine scanMembers_eq_ok.mpr ?_
        cases scanMembers_eq_ok.mp hscan with
        | last hk hcolon hv hend =>
            exact MembersForm.last (scanString_append hk more)
              (next_append hcolon more)
              (ihvalue _ _ _ _ hv (Or.inl (ended_of_next hend rfl)))
              (next_append hend more)
        | more hk hcolon hv hcomma hquote h =>
            exact MembersForm.more (scanString_append hk more)
              (next_append hcolon more)
              (ihvalue _ _ _ _ hv (Or.inl (ended_of_next hcomma rfl)))
              (next_append hcomma more) (next_append hquote more)
              (ihmembers _ _ _ _ h)
      · intro depth text items rest hscan
        refine scanItems_eq_ok.mpr ?_
        cases scanItems_eq_ok.mp hscan with
        | last hitem hend =>
            exact ItemsForm.last
              (ihvalue _ _ _ _ hitem (Or.inl (ended_of_next hend rfl)))
              (next_append hend more)
        | more hitem hcomma h =>
            exact ItemsForm.more
              (ihvalue _ _ _ _ hitem (Or.inl (ended_of_next hcomma rfl)))
              (next_append hcomma more) (ihitems _ _ _ _ h)

theorem scan_recursion_append (fuel : Nat) (more : List Char) :
    (forall depth text,
      scanValue fuel depth text = Except.error ScanError.recursion ->
      scanValue fuel depth (text ++ more) =
        Except.error ScanError.recursion) ∧
    (forall depth text,
      scanMembers fuel depth text = Except.error ScanError.recursion ->
      scanMembers fuel depth (text ++ more) =
        Except.error ScanError.recursion) ∧
    (forall depth text,
      scanItems fuel depth text = Except.error ScanError.recursion ->
      scanItems fuel depth (text ++ more) =
        Except.error ScanError.recursion) := by
  induction fuel with
  | zero => exact ⟨nofun, nofun, nofun⟩
  | succ fuel ih =>
      rcases ih with ⟨ihvalue, ihmembers, ihitems⟩
      have hvalue := (scan_append fuel more).1
      refine ⟨?_, ?_, ?_⟩
      · intro depth text hscan
        rcases scanValue_eq_recursion.mp hscan with ⟨c, behind, hnext, hdeep⟩
        refine scanValue_eq_recursion.mpr
          ⟨c, behind ++ more, next_append hnext more, ?_⟩
        cases hdeep with
        | brace => exact ValueDeep.brace
        | bracket => exact ValueDeep.bracket
        | obj hquote h =>
            exact ValueDeep.obj (next_append hquote more) (ihmembers _ _ h)
        | arr hd hc h =>
            exact ValueDeep.arr (next_append hd more) hc (ihitems _ _ h)
      · intro depth text hscan
        refine scanMembers_eq_recursion.mpr ?_
        cases scanMembers_eq_recursion.mp hscan with
        | value hk hcolon hv =>
            exact MembersDeep.value (scanString_append hk more)
              (next_append hcolon more) (ihvalue _ _ hv)
        | more hk hcolon hv hcomma hquote h =>
            exact MembersDeep.more (scanString_append hk more)
              (next_append hcolon more)
              (hvalue _ _ _ _ hv (Or.inl (ended_of_next hcomma rfl)))
              (next_append hcomma more) (next_append hquote more)
              (ihmembers _ _ h)
      · intro depth text hscan
        refine scanItems_eq_recursion.mpr ?_
        cases scanItems_eq_recursion.mp hscan with
        | item hitem => exact ItemsDeep.item (ihvalue _ _ hitem)
        | more hitem hcomma h =>
            exact ItemsDeep.more
              (hvalue _ _ _ _ hitem (Or.inl (ended_of_next hcomma rfl)))
              (next_append hcomma more) (ihitems _ _ h)

end Json
end Foundation
end IntelAmt
