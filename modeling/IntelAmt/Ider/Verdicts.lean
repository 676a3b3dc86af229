import IntelAmt.Ider.ReadFrames

/-!
# What the engine knows of its session

The two flags that the daemon goes by, read off the messages that the engine
has processed: whether a reply has been accepted, and the last verdict on the
feature toggle.
-/

namespace IntelAmt
namespace Ider

open Foundation

variable {ref : Type}

/-- The verdict on the feature toggle that a message brings, if it brings one:
STATUS_DATA of type 3. -/
def toggleVerdict (message : Bytes) : Option Bool :=
  if messageCmdid message = cmdStatusData ∧ message.getD 8 0 = 3 then
    some (decide (statusValue message = 1))
  else none

def lastVerdict (past : List (Delivery ref)) : Option Bool :=
  (past.filterMap fun d => toggleVerdict d.message).getLast?

theorem lastVerdict_snoc (past : List (Delivery ref)) (d : Delivery ref) :
    lastVerdict (past ++ [d]) =
      (toggleVerdict d.message).or (lastVerdict past) := by
  unfold lastVerdict
  rw [List.filterMap_append, List.getLast?_append]
  cases hverdict : toggleVerdict d.message <;> simp [hverdict]

theorem lastVerdict_append_ne_none {past : List (Delivery ref)}
    (h : lastVerdict past ≠ none) (more : List (Delivery ref)) :
    lastVerdict (past ++ more) ≠ none := by
  unfold lastVerdict at h ⊢
  rw [List.filterMap_append, List.getLast?_append]
  intro hnone
  exact h (Option.or_eq_none_iff.mp hnone).2

/-- The flags of the engine are those of the messages it has processed. -/
structure Heard (s : HandlerState ref) (past : List (Delivery ref)) :
    Prop where
  opened : s.sessionOpen = true -> exists o, o ∈ past ∧ AcceptsReply o
  verdict : s.featureToggleOk = lastVerdict past

variable [DecidableEq ref]

theorem ScsiStep.flags {s s' : HandlerState ref} {device : DeviceCode}
    {cdb : Bytes} {flags : UInt8} {result : Except PyError Unit}
    (hstep : ScsiStep s device cdb flags (result, s')) :
    s'.sessionOpen = s.sessionOpen ∧
      s'.featureToggleOk = s.featureToggleOk := by
  cases hstep with
  | transfer =>
      exact ⟨HandlerState.sendAll_sessionOpen _ _,
        HandlerState.sendAll_featureToggleOk _ _⟩
  | _ => exact ⟨rfl, rfl⟩

theorem Step.sessionOpen {s s' : HandlerState ref} {message : Bytes}
    {result : Except PyError Unit} (hstep : Step s message (result, s'))
    (hopen : s'.sessionOpen = true) :
    s.sessionOpen = true ∨
      messageCmdid message = cmdOpenSessionReply ∧
        (announced message).Valid := by
  cases hstep with
  | opened hcmdid hvalid => exact Or.inr ⟨hcmdid, hvalid⟩
  | command hcmdid hscsi =>
      rw [hscsi.flags.1] at hopen
      exact Or.inl hopen
  | _ => exact Or.inl hopen

theorem Step.featureToggleOk {s s' : HandlerState ref} {message : Bytes}
    {result : Except PyError Unit} (hstep : Step s message (result, s')) :
    s'.featureToggleOk =
      (toggleVerdict message).or s.featureToggleOk := by
  have hother : forall {cmdid : UInt8}, messageCmdid message = cmdid ->
      cmdid ≠ cmdStatusData -> toggleVerdict message = none := by
    intro cmdid hcmdid hne
    apply if_neg
    rintro ⟨hstatus, _⟩
    exact hne (hcmdid.symm.trans hstatus)
  have htype : forall {n : UInt8}, message.getD 8 0 = n -> n ≠ 3 ->
      toggleVerdict message = none := by
    intro n hn hne
    apply if_neg
    rintro ⟨_, hthree⟩
    exact hne (hn.symm.trans hthree)
  cases hstep with
  | toggled hcmdid hthree =>
      rw [toggleVerdict, if_pos ⟨hcmdid, hthree⟩]
      rfl
  | available hcmdid hone =>
      rw [htype hone (by decide)]
      rfl
  | engaged hcmdid htwo =>
      rw [htype htwo (by decide)]
      rfl
  | ignored hcmdid hstatus =>
      rw [toggleVerdict, if_neg]
      · rfl
      · rintro ⟨hcmd, hthree⟩
        exact hstatus hcmd hthree
  | command hcmdid hscsi =>
      rw [hother hcmdid (by decide)]
      exact hscsi.flags.2
  | opened h | refused h | closed h | pinged h | reset h | errorSeen h
  | unsolicited h | overrun _ h | unwritable _ _ h | stored _ _ h
  | completed _ _ h =>
      rw [hother h (by decide)]
      rfl

theorem heard_kept {images : ref -> MediaImage} :
    KeptByRuns images fun r past => Heard r.2 past where
  attach := fun i r past _ h => ⟨h.opened, h.verdict⟩
  send := fun out r past _ h => ⟨h.opened, h.verdict⟩
  halt := fun r past _ h => ⟨h.opened, h.verdict⟩
  deliver := by
    intro message r past result s hstanding h _ _ hrun hstep
    constructor
    · intro hopen
      rcases hstep.sessionOpen hopen with hbefore | ⟨hcmdid, hvalid⟩
      · rcases h.opened hbefore with ⟨o, hmem, haccepts⟩
        exact ⟨o, List.mem_append_left _ hmem, haccepts⟩
      · exact ⟨(r, message), by simp, hcmdid, hvalid⟩
    · rw [lastVerdict_snoc, hstep.featureToggleOk, h.verdict]
      rfl

omit [DecidableEq ref] in
theorem newEngine_heard (images : ref -> MediaImage) (startMode : StartMode)
    (rxTimeout txTimeout heartbeat : Nat) :
    Heard (newEngine startMode rxTimeout txTimeout heartbeat images).state
      [] where
  opened := by
    intro hopen
    cases hopen
  verdict := rfl

end Ider
end IntelAmt
