import IntelAmt.Foundation.Threading
import IntelAmt.Evidence.Tokens

/-!
# The strings of a document

Redacting a document is redacting its strings one after the other, each under
its key; everything else in the document stays as it is.
-/

namespace IntelAmt
namespace Evidence

open Foundation Errors

/-- A string of a document: the key that it stands under, and whether it stands
in a census of shapes. -/
structure Spot where
  key : Option (List Nat)
  census : Bool
  text : List Nat
deriving DecidableEq

mutual

def spots (census : Bool) (key : Option (List Nat)) : Json -> List Spot
  | Json.str text => [{ key := key, census := census, text := text }]
  | Json.arr items => itemSpots items
  | Json.obj members => memberSpots false members
  | _ => []

def itemSpots : List Json -> List Spot
  | [] => []
  | item :: items => spots false none item ++ itemSpots items

def memberSpots (census : Bool) : List (List Nat × Json) -> List Spot
  | [] => []
  | (key, Json.obj members) :: rest =>
      memberSpots (!census && decide (key = propertyShapesKey)) members ++
        memberSpots census rest
  | (key, value) :: rest =>
      spots census (some key) value ++ memberSpots census rest

end

def Spot.with (spot : Spot) (text : List Nat) : Spot :=
  { spot with text := text }

namespace Redactor

/-- What is done to a string of a document. -/
def redactSpot (redactor : Redactor) (spot : Spot) : Redactor × Spot :=
  if spot.census && isShape spot.text then (redactor, spot)
  else
    let redacted := redactor.redactString spot.key spot.text
    (redacted.1, spot.with redacted.2)

theorem thread_spot (redactor : Redactor) (spot : Spot) :
    thread redactSpot redactor [spot] =
      ((redactor.redactSpot spot).1, [(redactor.redactSpot spot).2]) :=
  rfl

/-- What is done to a value that is not a mapping, as a member of one. -/
def redactMember (census : Bool) (redactor : Redactor) (key : List Nat)
    (value : Json) : Redactor × Json :=
  if census && isShapeValue value then (redactor, value)
  else redactValue redactor (some key) value

section Member

variable {census : Bool} {redactor : Redactor} {key : List Nat} {value : Json}

theorem redactMembers_value {rest : List (List Nat × Json)}
    (h : forall members, value ≠ Json.obj members) :
    redactMembers census redactor ((key, value) :: rest) =
      let redacted := redactMember census redactor key value
      let later := redactMembers census redacted.1 rest
      (later.1, (key, redacted.2) :: later.2) := by
  rw [redactMembers]
  · rfl
  · exact h

theorem memberSpots_value {rest : List (List Nat × Json)}
    (h : forall members, value ≠ Json.obj members) :
    memberSpots census ((key, value) :: rest) =
      spots census (some key) value ++ memberSpots census rest := by
  rw [memberSpots]
  exact h

theorem redactMember_value (h : forall members, value ≠ Json.obj members) :
    forall members,
      (redactMember census redactor key value).2 ≠ Json.obj members := by
  intro members
  rw [redactMember]
  cases value with
  | obj inner => exact absurd rfl (h inner)
  | _ => split <;> exact fun heq => nomatch heq

theorem redactMember_spots
    (h : thread redactSpot redactor (spots false (some key) value) =
      ((redactValue redactor (some key) value).1,
        spots false (some key) (redactValue redactor (some key) value).2)) :
    thread redactSpot redactor (spots census (some key) value) =
      ((redactMember census redactor key value).1,
        spots census (some key)
          (redactMember census redactor key value).2) := by
  have hother : isShapeValue value = false ->
      redactMember census redactor key value =
        redactValue redactor (some key) value := by
    intro hshape
    rw [redactMember, hshape, Bool.and_false, if_neg Bool.false_ne_true]
  cases value with
  | str text =>
      rw [spots, thread_spot, redactSpot, redactMember, isShapeValue]
      dsimp only
      cases census && isShape text <;> rfl
  | null => exact hother rfl ▸ h
  | bool _ => exact hother rfl ▸ h
  | int _ => exact hother rfl ▸ h
  | float _ => exact hother rfl ▸ h
  | arr items =>
      rw [hother rfl]
      exact h
  | obj members =>
      rw [hother rfl]
      exact h

end Member

mutual

theorem redactValue_spots : (value : Json) -> (redactor : Redactor) ->
    (key : Option (List Nat)) ->
    thread redactSpot redactor (spots false key value) =
      ((redactValue redactor key value).1,
        spots false key (redactValue redactor key value).2)
  | Json.str _, _, _ => rfl
  | Json.arr items, redactor, _ => redactItems_spots items redactor
  | Json.obj members, redactor, _ => redactMembers_spots members false redactor
  | Json.null, _, _ => rfl
  | Json.bool _, _, _ => rfl
  | Json.int _, _, _ => rfl
  | Json.float _, _, _ => rfl

theorem redactItems_spots : (items : List Json) -> (redactor : Redactor) ->
    thread redactSpot redactor (itemSpots items) =
      ((redactItems redactor items).1, itemSpots (redactItems redactor items).2)
  | [], _ => rfl
  | item :: items, redactor => by
      rw [itemSpots, redactItems, itemSpots, thread_append,
        redactValue_spots item redactor none, redactItems_spots items]

theorem redactMembers_spots : (members : List (List Nat × Json)) ->
    (census : Bool) -> (redactor : Redactor) ->
    thread redactSpot redactor (memberSpots census members) =
      ((redactMembers census redactor members).1,
        memberSpots census (redactMembers census redactor members).2)
  | [], _, _ => rfl
  | (key, value) :: rest, census, redactor => by
      have hvalue := @redactMember_spots census redactor key value
        (redactValue_spots value redactor (some key))
      have hrest := redactMembers_spots rest census
      by_cases h : forall members, value ≠ Json.obj members
      · rw [memberSpots_value h, redactMembers_value h, thread_append, hvalue,
          hrest]
        dsimp only
        rw [memberSpots_value (redactMember_value h)]
      · cases value with
        | obj inner =>
            rw [memberSpots, redactMembers, memberSpots, thread_append,
              redactMembers_spots inner, hrest]
        | _ => exact absurd (fun _ heq => nomatch heq) h

end

/-!
## Documents that stay as they are
-/

/-- A string of a document stays as it is, and costs nothing. -/
def Fixes (redactor : Redactor) (spot : Spot) : Prop :=
  redactor.redactSpot spot = (redactor, spot)

theorem fixes_iff {redactor : Redactor} {spot : Spot} :
    redactor.Fixes spot ↔ (spot.census && isShape spot.text) = true ∨
      redactor.redactString spot.key spot.text = (redactor, spot.text) := by
  rw [Fixes, redactSpot]
  by_cases hshape : (spot.census && isShape spot.text) = true
  · rw [if_pos hshape]
    exact iff_of_true rfl (Or.inl hshape)
  · rw [if_neg hshape, or_iff_right hshape]
    constructor
    · intro h
      have htext := congrArg (fun pair => pair.2.text) h
      have hfirst := congrArg Prod.fst h
      exact Prod.ext hfirst htext
    · intro h
      rw [h]
      rfl

theorem redactMember_same {census : Bool} {redactor : Redactor}
    {key : List Nat} {value : Json}
    (h : forall spot, spot ∈ spots census (some key) value ->
      redactor.Fixes spot)
    (hvalue : (forall spot, spot ∈ spots false (some key) value ->
      redactor.Fixes spot) ->
        redactValue redactor (some key) value = (redactor, value)) :
    redactMember census redactor key value = (redactor, value) := by
  rw [redactMember]
  by_cases hshape : (census && isShapeValue value) = true
  · rw [if_pos hshape]
  · rw [if_neg hshape]
    apply hvalue
    cases value with
    | str text =>
        intro spot hspot
        have hfixed := fixes_iff.mp (h _ (List.mem_singleton_self _))
        rw [spots, List.mem_singleton] at hspot
        rw [hspot]
        exact fixes_iff.mpr (Or.inr (hfixed.resolve_left hshape))
    | _ => exact h

mutual

theorem redactValue_same : (value : Json) -> (redactor : Redactor) ->
    (key : Option (List Nat)) ->
    (forall spot, spot ∈ spots false key value -> redactor.Fixes spot) ->
      redactValue redactor key value = (redactor, value)
  | Json.str text, redactor, key, h => by
      have hfixed := fixes_iff.mp (h _ (List.mem_singleton_self _))
      rw [redactValue, hfixed.resolve_left Bool.false_ne_true]
  | Json.arr items, redactor, _, h => by
      rw [redactValue, redactItems_same items redactor h]
  | Json.obj members, redactor, _, h => by
      rw [redactValue, redactMembers_same members false redactor h]
  | Json.null, _, _, _ => rfl
  | Json.bool _, _, _, _ => rfl
  | Json.int _, _, _, _ => rfl
  | Json.float _, _, _, _ => rfl

theorem redactItems_same : (items : List Json) -> (redactor : Redactor) ->
    (forall spot, spot ∈ itemSpots items -> redactor.Fixes spot) ->
      redactItems redactor items = (redactor, items)
  | [], _, _ => rfl
  | item :: items, redactor, h => by
      rw [itemSpots, List.forall_mem_append] at h
      rw [redactItems, redactValue_same item redactor none h.1,
        redactItems_same items redactor h.2]

theorem redactMembers_same : (members : List (List Nat × Json)) ->
    (census : Bool) -> (redactor : Redactor) ->
    (forall spot, spot ∈ memberSpots census members -> redactor.Fixes spot) ->
      redactMembers census redactor members = (redactor, members)
  | [], _, _, _ => rfl
  | (key, value) :: rest, census, redactor, hspots => by
      by_cases h : forall members, value ≠ Json.obj members
      · rw [memberSpots_value h, List.forall_mem_append] at hspots
        rw [redactMembers_value h,
          redactMember_same hspots.1 (redactValue_same value redactor _)]
        dsimp only
        rw [redactMembers_same rest census redactor hspots.2]
      · cases value with
        | obj inner =>
            rw [memberSpots, List.forall_mem_append] at hspots
            rw [redactMembers, redactMembers_same inner _ redactor hspots.1,
              redactMembers_same rest census redactor hspots.2]
        | _ => exact absurd (fun _ heq => nomatch heq) h

end

end Redactor

end Evidence
end IntelAmt
