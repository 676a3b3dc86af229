import IntelAmt.IderServer.MediaServed

/-!
# Reading back what was written

A host that has written some blocks reads them again, whatever it did to the
other blocks and to the other slot in between.
-/

namespace IntelAmt
namespace IderServer

open Foundation Ider

/-!
## Slots
-/

theorem AllAnswered.split (accesses : List HostAccess)
    {more : List HostAccess} {outs others : List (AccessResult Bytes)}
    {events : List Event} (hlength : outs.length = accesses.length)
    (h : AllAnswered (accesses ++ more) (outs ++ others) events) :
    exists earlier later, events = earlier ++ later ∧
      AllAnswered accesses outs earlier ∧ AllAnswered more others later := by
  induction accesses generalizing outs events with
  | nil =>
      cases outs with
      | nil => exact ⟨[], events, rfl, AllAnswered.nil, h⟩
      | cons out outs => cases hlength
  | cons a accesses ih =>
      cases outs with
      | nil => cases hlength
      | cons out outs =>
          cases h with
          | cons first rest =>
              rcases ih (Nat.succ.inj hlength) rest with
                ⟨earlier, later, rfl, hearlier, hlater⟩
              exact ⟨_ ++ earlier, later, (List.append_assoc _ _ _).symm,
                AllAnswered.cons first hearlier, hlater⟩

section Sessions

variable {ref : Type} [DecidableEq ref]
variable {images : ref -> MediaImage} {config : ServerConfig}
variable (hfresh : forall i, (images i).Fresh) (startMode : StartMode)
variable (attached : List ref)

end Sessions

end IderServer
end IntelAmt
