import IntelAmt.Wsman.Client

/-!
# Building a client

`WsmanClient.from_connection_options`: the trust policy, the port and the gate
for plaintext, all of them in front of the first byte on the wire.
-/

namespace IntelAmt
namespace Wsman

open Foundation Tls

/-- The options of the connection fragment that decide about a client. -/
structure ConnectionOptions where
  host : String
  port : Option Int := none
  useTls : Bool := true
  allowInsecureTransport : Bool := false
  validateCerts : Bool := true
  caPath : Option String := none
  tlsFingerprint : Option String := none

/-- What a session has mounted for `https://`. -/
structure Mounted where
  assertFingerprint : Option String
  verify : Verify

structure ClientSetup where
  client : Client
  url : String
  mounted : Option Mounted

/-- `WsmanClient.__init__`. -/
def ClientSetup.create (host : String) (port : Int)
    (useTls allowInsecureTransport : Bool) (policy : TlsTrustPolicy) :
    Except AmtError ClientSetup := do
  enforceTransportPolicy useTls allowInsecureTransport
  let endpoint := host ++ ":" ++ toString port
  let scheme := if useTls then "https" else "http"
  pure
    { client := { endpoint := endpoint }
      url := scheme ++ "://" ++ endpoint ++ "/wsman"
      mounted :=
        if useTls then
          some
            { assertFingerprint := policy.fingerprint
              verify := policy.requestsVerify }
        else none }

/-- `from_connection_options`. -/
def fromConnectionOptions (options : ConnectionOptions) :
    Except AmtError ClientSetup := do
  let policy ←
    TlsTrustPolicy.create options.validateCerts options.caPath
      options.tlsFingerprint
  let port := resolvePort options.port options.useTls
  ClientSetup.create options.host port options.useTls
    options.allowInsecureTransport policy

/-- The options make a client: one way of trust at most, a pin that is a
digest, and plaintext only where it is asked for. -/
structure ConnectionOptions.Usable (options : ConnectionOptions) : Prop where
  trust : forall raw, given options.tlsFingerprint = some raw ->
    (given options.caPath).isSome = false ∧ isFingerprint raw = true
  transport : options.useTls = true ∨ options.allowInsecureTransport = true

section Building

variable {options : ConnectionOptions}

theorem enforceTransportPolicy_error {useTls allowInsecureTransport : Bool}
    {error : AmtError}
    (h : enforceTransportPolicy useTls allowInsecureTransport =
      Except.error error) :
    error.errorClass = ErrorClass.tlsValidation := by
  rw [enforceTransportPolicy] at h
  split at h
  · cases h
  · cases h
    rfl

theorem clientSetup_ok_iff {host : String} {port : Int}
    {useTls allowInsecureTransport : Bool} {policy : TlsTrustPolicy} :
    (exists setup, ClientSetup.create host port useTls allowInsecureTransport
        policy = Except.ok setup) ↔
      useTls = true ∨ allowInsecureTransport = true := by
  rw [ClientSetup.create, enforceTransportPolicy, ← Bool.or_eq_true]
  cases useTls || allowInsecureTransport with
  | true => exact ⟨fun _ => rfl, fun _ => ⟨_, rfl⟩⟩
  | false =>
      constructor
      · rintro ⟨_, h⟩
        cases h
      · intro h
        cases h

theorem fromConnectionOptions_ok_iff :
    (exists setup, fromConnectionOptions options = Except.ok setup) ↔
      options.Usable := by
  constructor
  · rintro ⟨setup, h⟩
    rw [fromConnectionOptions] at h
    cases hpolicy : TlsTrustPolicy.create options.validateCerts options.caPath
        options.tlsFingerprint with
    | error error =>
        rw [hpolicy] at h
        cases h
    | ok policy =>
        rw [hpolicy] at h
        exact ⟨create_ok_iff.mp ⟨policy, hpolicy⟩,
          clientSetup_ok_iff.mp ⟨setup, h⟩⟩
  · intro h
    rcases create_ok_iff.mpr h.trust with ⟨policy, hpolicy⟩
    rcases clientSetup_ok_iff.mpr h.transport with ⟨setup, hsetup⟩
    refine ⟨setup, ?_⟩
    rw [fromConnectionOptions, hpolicy]
    exact hsetup

theorem fromConnectionOptions_refused (h : ¬ options.Usable) :
    exists error, fromConnectionOptions options = Except.error error ∧
      error.errorClass = ErrorClass.tlsValidation := by
  cases hbuilt : fromConnectionOptions options with
  | ok setup => exact absurd (fromConnectionOptions_ok_iff.mp ⟨_, hbuilt⟩) h
  | error error =>
      refine ⟨error, rfl, ?_⟩
      rw [fromConnectionOptions] at hbuilt
      cases hpolicy : TlsTrustPolicy.create options.validateCerts
          options.caPath options.tlsFingerprint with
      | error reason =>
          rw [hpolicy] at hbuilt
          cases hbuilt
          exact create_error hpolicy
      | ok policy =>
          rw [hpolicy] at hbuilt
          dsimp only [Except.bind, bind] at hbuilt
          rw [ClientSetup.create] at hbuilt
          cases hgate : enforceTransportPolicy options.useTls
              options.allowInsecureTransport with
          | error reason =>
              rw [hgate] at hbuilt
              cases hbuilt
              exact enforceTransportPolicy_error hgate
          | ok _ =>
              rw [hgate] at hbuilt
              cases hbuilt

end Building
end Wsman
end IntelAmt
