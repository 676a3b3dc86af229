import IntelAmt.IderServer.Served

/-!
# Whole sessions of a host

From the opening of the session on, the media of an engine are the block
devices that its images are: what the host reads, what its writes leave, and
which of its accesses are turned away.
-/

namespace IntelAmt
namespace IderServer

open Foundation Ider

variable {ref : Type} [DecidableEq ref]
variable {images : ref -> MediaImage} {config : ServerConfig}

/-!
## The opening
-/

section Opening

variable {h : HandlerState ref} {r : Receiver ref}

end Opening

section Sessions

variable (hfresh : forall i, (images i).Fresh) (startMode : StartMode)
variable (attached : List ref)

theorem Follows.serving {r r' : Receiver ref} {c : Client images}
    {heard : Bytes} {sent taken : List Bytes}
    (hc : Follows r c heard sent taken) (hall : inOrder 0 sent = sent)
    (hpasses : Passes r sent r') : c.serving = true := by
  have hfirst := hc.first
  rw [hall] at hfirst
  rcases hfirst with ⟨left, rfl⟩
  rcases hpasses.proceeds.first with ⟨hlive, hproceeds⟩
  rcases hc.state with ⟨hstate, hraises⟩ | htorn
  · rw [← hstate] at hlive
    refine c.serving_iff.mpr ⟨?_, hlive⟩
    cases hraised : c.raised with
    | none => rfl
    | some e =>
        rcases hraises e hraised with ⟨d, r', hmem, hfail⟩
        rcases hproceeds d hmem with ⟨r'', hproceed⟩
        rw [hproceed] at hfail
        cases hfail
  · exact absurd hall htorn.astray

end Sessions

end IderServer
end IntelAmt
