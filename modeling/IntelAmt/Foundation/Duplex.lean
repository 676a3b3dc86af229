import Mathlib.Data.List.Infix

/-!
# Two parties and the streams between them

Each of two parties hears the other in chunks, cut anywhere and delivered at
any time, and says something in answer; one of them also acts of its own
accord.  A stream neither loses nor reorders bytes, so what is on its way is
what has been said and not been heard yet.  `Duplex.run_keeps` is the rule for
whatever holds of every dialogue.
-/

namespace IntelAmt
namespace Foundation

variable {byte left right action : Type}

/-- `said` is all that a party has said so far. -/
structure Party (byte state : Type) where
  said : state -> List byte
  hear : List byte -> state -> state
  hear_grows : forall chunk s, said s <+: said (hear chunk s)

structure Duplex (byte left right action : Type) where
  leftParty : Party byte left
  rightParty : Party byte right
  act : action -> right -> right
  act_grows : forall a s,
    rightParty.said s <+: rightParty.said (act a s)

/-- Both parties, each with what it has heard. -/
structure Dialogue (byte left right : Type) where
  left : left
  right : right
  leftHeard : List byte := []
  rightHeard : List byte := []

/-- The next bytes on their way are delivered, or the right party acts. -/
inductive Move (action : Type) where
  | toLeft (count : Nat)
  | toRight (count : Nat)
  | act (a : action)
deriving DecidableEq, Repr

namespace Duplex

variable (duplex : Duplex byte left right action)

/-- What is on its way to the left party. -/
def toLeft (t : Dialogue byte left right) : List byte :=
  (duplex.rightParty.said t.right).drop t.leftHeard.length

def toRight (t : Dialogue byte left right) : List byte :=
  (duplex.leftParty.said t.left).drop t.rightHeard.length

def step (t : Dialogue byte left right) : Move action -> Dialogue byte left right
  | Move.toLeft count =>
      let chunk := (duplex.toLeft t).take count
      { t with
        left := duplex.leftParty.hear chunk t.left
        leftHeard := t.leftHeard ++ chunk }
  | Move.toRight count =>
      let chunk := (duplex.toRight t).take count
      { t with
        right := duplex.rightParty.hear chunk t.right
        rightHeard := t.rightHeard ++ chunk }
  | Move.act a => { t with right := duplex.act a t.right }

def run (t : Dialogue byte left right) (moves : List (Move action)) :
    Dialogue byte left right :=
  moves.foldl duplex.step t

@[simp] theorem run_nil (t : Dialogue byte left right) : duplex.run t [] = t :=
  rfl

theorem run_cons (t : Dialogue byte left right) (move : Move action)
    (moves : List (Move action)) :
    duplex.run t (move :: moves) = duplex.run (duplex.step t move) moves :=
  rfl

/-- What has been heard has been said. -/
structure Linked (t : Dialogue byte left right) : Prop where
  left : t.leftHeard <+: duplex.rightParty.said t.right
  right : t.rightHeard <+: duplex.leftParty.said t.left

variable {duplex}

namespace Linked

variable {t : Dialogue byte left right}

theorem toLeft (h : duplex.Linked t) :
    t.leftHeard ++ duplex.toLeft t = duplex.rightParty.said t.right := by
  rcases h.left with ⟨rest, hrest⟩
  rw [Duplex.toLeft, ← hrest, List.drop_left]

theorem toRight (h : duplex.Linked t) :
    t.rightHeard ++ duplex.toRight t = duplex.leftParty.said t.left := by
  rcases h.right with ⟨rest, hrest⟩
  rw [Duplex.toRight, ← hrest, List.drop_left]

theorem step (h : duplex.Linked t) (move : Move action) :
    duplex.Linked (duplex.step t move) := by
  cases move with
  | toLeft count =>
      refine ⟨?_, h.right.trans (duplex.leftParty.hear_grows _ _)⟩
      rw [Duplex.step]
      show _ <+: duplex.rightParty.said t.right
      rw [← h.toLeft]
      exact List.prefix_append_right_inj _ |>.mpr (List.take_prefix _ _)
  | toRight count =>
      refine ⟨h.left.trans (duplex.rightParty.hear_grows _ _), ?_⟩
      rw [Duplex.step]
      show _ <+: duplex.leftParty.said t.left
      rw [← h.toRight]
      exact List.prefix_append_right_inj _ |>.mpr (List.take_prefix _ _)
  | act a => exact ⟨h.left.trans (duplex.act_grows a t.right), h.right⟩

end Linked

/-- The acts of some moves, in order. -/
def acts (moves : List (Move action)) : List action :=
  moves.filterMap fun
    | Move.act a => some a
    | _ => none

@[simp] theorem acts_nil : acts ([] : List (Move action)) = [] := rfl

/-- A property of linked dialogues, and of the acts so far, that every delivery
and every act keeps. -/
structure Kept (duplex : Duplex byte left right action)
    (P : List action -> Dialogue byte left right -> Prop) : Prop where
  toLeft : forall past t chunk later, duplex.Linked t -> P past t ->
    duplex.toLeft t = chunk ++ later ->
    P past
      { t with
        left := duplex.leftParty.hear chunk t.left
        leftHeard := t.leftHeard ++ chunk }
  toRight : forall past t chunk later, duplex.Linked t -> P past t ->
    duplex.toRight t = chunk ++ later ->
    P past
      { t with
        right := duplex.rightParty.hear chunk t.right
        rightHeard := t.rightHeard ++ chunk }
  act : forall past t a, duplex.Linked t -> P past t ->
    P (past ++ [a]) { t with right := duplex.act a t.right }

theorem run_keeps {P : List action -> Dialogue byte left right -> Prop}
    (hkept : duplex.Kept P) (moves : List (Move action))
    {past : List action} {t : Dialogue byte left right}
    (hlinked : duplex.Linked t) (h : P past t) :
    duplex.Linked (duplex.run t moves) ∧
      P (past ++ acts moves) (duplex.run t moves) := by
  induction moves generalizing past t with
  | nil =>
      rw [acts_nil, List.append_nil]
      exact ⟨hlinked, h⟩
  | cons move moves ih =>
      have hnext := hlinked.step move
      rw [run_cons]
      cases move with
      | toLeft count =>
          exact ih hnext (hkept.toLeft past t _
            ((duplex.toLeft t).drop count) hlinked h
            (List.take_append_drop count _).symm)
      | toRight count =>
          exact ih hnext (hkept.toRight past t _
            ((duplex.toRight t).drop count) hlinked h
            (List.take_append_drop count _).symm)
      | act a =>
          have hrest := ih hnext (hkept.act past t a hlinked h)
          rw [List.append_assoc] at hrest
          exact hrest

end Duplex
end Foundation
end IntelAmt
