import IntelAmt.AmtMedia.Module

/-!
# What an attach returns

An attach that succeeds has seen its session attached, or has found a session
alive at its first look and reports whatever its record says.
-/

namespace IntelAmt
namespace AmtMedia

open Foundation Ider MediaSession

/-- The live session that the attach finds at its first look, if there is
one. -/
def firstLook (params : Params) : MediaScript (Option Members) := do
  let sessionId ← attachSession params
  let existing ← readState params.interpreter params.runtimeDir sessionId
  match existing with
  | none => pure none
  | some record =>
      let live ← liveSession record
      pure (if live then some record else none)

/-- The session state says that the session is attached. -/
def isAttached (fields : StatusFields) : Bool :=
  stateIs fields.sessionState SessionState.attached.name

/-!
## The verdict
-/

theorem returns_failJson {alpha : Type} {Q : alpha -> Prop}
    (result : FailResult) :
    Script.Returns Q (failJson result : MediaScript alpha) := trivial

theorem returns_failExited {Q : Unit -> Prop} (params : Params)
    (session : String) (observed : Option Members) (fields : StatusFields) :
    Script.Returns Q (failExited params session observed fields) := by
  apply Script.returns_bind (Script.returns_trivial _)
  intro last _
  apply Script.returns_bind (Script.returns_trivial _)
  exact fun finalFields _ => returns_failJson _

theorem returns_verdict (params : Params) (endpoint session : String)
    (observed : Option Members) (fields : StatusFields) :
    Script.Returns (fun _ => isAttached fields = true)
      (verdict params endpoint session observed fields) := by
  unfold verdict
  split
  · exact returns_failJson _
  · split
    · assumption
    · apply Script.returns_bind (Script.returns_trivial _)
      intro alive _
      split
      · apply Script.returns_bind (Script.returns_trivial _)
        intro terminal _
        split
        · exact returns_failJson _
        · exact returns_failJson _
      · exact returns_failExited _ _ _ _

theorem returns_attachFresh (looks : Nat) {params : Params}
    (hcheck : params.checkMode = false) (endpoint session : String)
    (port : Int) (existing : Option Members) :
    Script.Returns (fun result => isAttached result.fields = true)
      (attachFresh looks params endpoint session port existing) := by
  apply Script.returns_bind (Script.returns_trivial _)
  intro specs _
  apply Script.returns_bind (Script.returns_trivial _)
  intro _ _
  rw [hcheck, if_neg Bool.false_ne_true]
  apply Script.returns_bind (Script.returns_trivial _)
  intro config _
  apply Script.returns_bind (Script.returns_trivial _)
  intro _ _
  apply Script.returns_bind (Script.returns_trivial _)
  intro timeout _
  apply Script.returns_bind (Script.returns_trivial _)
  intro observed _
  apply Script.returns_bind (Script.returns_trivial _)
  intro fields _
  apply Script.returns_bind (returns_verdict params endpoint session observed
    fields)
  exact fun _ hattached => hattached

/-!
## The first look
-/

section Playing

variable {answers : Nat -> (o : SystemOp) -> SystemAnswer o}
variable {params : Params} {endpoint : String} {port : Int} {looks : Nat}
variable {position later : Nat}

theorem play_attachedResult {record : Members} {session : String}
    {result : ModuleResult}
    (h : Script.play answers position (attachedResult endpoint session record) =
      (Except.ok result, later)) :
    statusFields (some record) = Except.ok result.fields := by
  rcases Script.play_bind_split h with ⟨fields, middle, hfields, hresult⟩
  cases hstatus : statusFields (some record) with
  | error e =>
      rw [hstatus] at hfields
      cases hfields
  | ok found =>
      rw [hstatus] at hfields
      cases hfields
      cases hresult
      rfl

theorem attachedResult_plays {record : Members} {session : String}
    {fields : StatusFields}
    (hstatus : statusFields (some record) = Except.ok fields) :
    exists result, (Script.play answers position
      (attachedResult endpoint session record)).1 = Except.ok result ∧
        result.fields = fields := by
  rw [attachedResult, hstatus]
  constructor
  · constructor
    · rfl
    · rfl

theorem attach_returns (hcheck : params.checkMode = false)
    {result : ModuleResult}
    (h : Script.play answers position (attach looks params endpoint port) =
      (Except.ok result, later)) :
    isAttached result.fields = true ∨
      exists record, (Script.play answers position (firstLook params)).1 =
        Except.ok (some record) ∧
        statusFields (some record) = Except.ok result.fields := by
  rcases Script.play_bind_split h with ⟨session, next, hsession, h⟩
  rcases Script.play_bind_split h with ⟨existing, following, hexisting, h⟩
  rw [firstLook, Script.play_bind_ok hsession, Script.play_bind_ok hexisting]
  cases existing with
  | none => exact Or.inl (Script.returns_play
      (returns_attachFresh looks hcheck endpoint session port none) h)
  | some record =>
      rcases Script.play_bind_split h with ⟨live, last, hlive, h⟩
      rw [Script.play_bind_ok hlive]
      cases live with
      | true =>
          apply Or.inr
          exact ⟨record, rfl, play_attachedResult h⟩
      | false =>
          apply Or.inl
          rcases Script.play_bind_split h with ⟨_, removed, _, h⟩
          exact Script.returns_play
            (returns_attachFresh looks hcheck endpoint session port
              (some record)) h

theorem attach_of_live {record : Members} {fields : StatusFields}
    (hlook : (Script.play answers position (firstLook params)).1 =
      Except.ok (some record))
    (hstatus : statusFields (some record) = Except.ok fields) :
    exists result, (Script.play answers position
      (attach looks params endpoint port)).1 = Except.ok result ∧
        result.fields = fields := by
  rcases hplay : Script.play answers position (firstLook params) with
    ⟨found, later⟩
  rw [hplay] at hlook
  have hfound : found = Except.ok (some record) := hlook
  rw [hfound] at hplay
  rcases Script.play_bind_split hplay with ⟨session, next, hsession, h⟩
  rcases Script.play_bind_split h with ⟨existing, following, hexisting, h⟩
  rw [attach, Script.play_bind_ok hsession, Script.play_bind_ok hexisting]
  cases existing with
  | none => cases h
  | some read =>
      rcases Script.play_bind_split h with ⟨live, last, hlive, h⟩
      cases live with
      | false => cases h
      | true =>
          cases h
          rcases @attachedResult_plays answers endpoint later record session
            fields hstatus with ⟨result, hresult, hfields⟩
          refine ⟨result, ?_, hfields⟩
          rw [← hresult]
          exact congrArg Prod.fst (Script.play_bind_ok hlive)

/-!
## The module
-/

theorem play_main_ok {x : MediaScript ModuleResult} {result : ModuleResult}
    (h : Script.play answers position (x.handle reportAmt) =
      (Except.ok result, later)) :
    Script.play answers position x = (Except.ok result, later) := by
  rcases hx : Script.play answers position x with ⟨found, last⟩
  cases found with
  | ok a => exact (Script.play_handle_ok hx).symm.trans h
  | error raised =>
      rw [Script.play_handle_error hx] at h
      cases raised with
      | amt error => cases h
      | failJson result => cases h
      | exception e => cases h
      | waiting => cases h

/-- The policies that an attach has passed when it looks. -/
structure Trusted (params : Params) : Prop where
  attached : params.state = DesiredState.attached
  transport : Tls.enforceTransportPolicy params.useTls
    params.allowInsecureTransport = Except.ok ()
  redirection : enforceRedirectionTrustPolicy params = Except.ok ()

theorem operate_eq (h : Trusted params) :
    operate looks params =
      attach looks params
        (params.host ++ ":" ++
          toString (resolveRedirectionPort params.port params.useTls))
        (resolveRedirectionPort params.port params.useTls) := by
  rw [operate, h.attached, h.transport, h.redirection]
  rfl

theorem main_returns (htrusted : Trusted params)
    (hcheck : params.checkMode = false) {result : ModuleResult}
    (h : (Script.play answers position (main looks params)).1 =
      Except.ok result) :
    isAttached result.fields = true ∨
      exists record, (Script.play answers position (firstLook params)).1 =
        Except.ok (some record) ∧
        statusFields (some record) = Except.ok result.fields := by
  rcases hplay : Script.play answers position (main looks params) with
    ⟨found, later⟩
  rw [hplay] at h
  have hfound : found = Except.ok result := h
  rw [hfound] at hplay
  have hoperate := play_main_ok hplay
  rw [operate_eq htrusted] at hoperate
  exact attach_returns hcheck hoperate

theorem main_of_live (htrusted : Trusted params) {record : Members}
    {fields : StatusFields}
    (hlook : (Script.play answers position (firstLook params)).1 =
      Except.ok (some record))
    (hstatus : statusFields (some record) = Except.ok fields) :
    exists result, (Script.play answers position (main looks params)).1 =
      Except.ok result ∧ result.fields = fields := by
  rcases @attach_of_live answers params
    (params.host ++ ":" ++
      toString (resolveRedirectionPort params.port params.useTls))
    (resolveRedirectionPort params.port params.useTls) looks position record
    fields hlook hstatus with ⟨result, hresult, hfields⟩
  refine ⟨result, ?_, hfields⟩
  rw [← operate_eq htrusted] at hresult
  rcases hplay : Script.play answers position (operate looks params) with
    ⟨found, later⟩
  rw [hplay] at hresult
  have hfound : found = Except.ok result := hresult
  rw [hfound] at hplay
  exact congrArg Prod.fst (Script.play_handle_ok hplay)

end Playing
end AmtMedia
end IntelAmt
