import IntelAmt.Errors

/-!
# Transport policy

Which transports a caller may choose, and the one form of a pinned
fingerprint.
-/

namespace IntelAmt
namespace Tls

def tlsValidation (message : String) : AmtError where
  errorClass := ErrorClass.tlsValidation
  message := message

/-- `str.isspace` of one character. -/
def isSpace (c : Char) : Bool :=
  decide (c.toNat ∈
    [9, 10, 11, 12, 13, 28, 29, 30, 31, 32, 133, 160, 5760, 8192, 8193, 8194,
      8195, 8196, 8197, 8198, 8199, 8200, 8201, 8202, 8232, 8233, 8239, 8287,
      12288])

def strip (text : List Char) : List Char :=
  ((text.dropWhile isSpace).reverse.dropWhile isSpace).reverse

/-- `str.lower` as far as a fingerprint can tell: one character alone becomes
two, and no character outside of ASCII becomes a hexadecimal digit. -/
def lower (text : List Char) : List Char :=
  text.flatMap fun c =>
    if c.toNat = 304 then ['i', Char.ofNat 775] else [c.toLower]

def isHexDigit (c : Char) : Bool :=
  ('0' ≤ c && c ≤ '9') || ('a' ≤ c && c ≤ 'f')

/-- The pattern `^[0-9a-f]+$`, whose end may stand before a last newline. -/
def hexMatches (text : List Char) : Bool :=
  let body := if text.getLast? = some '\n' then text.dropLast else text
  body ≠ [] && body.all isHexDigit

def fingerprintHexLength : Nat := 64

def sha256Prefix : List Char := "sha256:".toList

def emptyFingerprintMessage : String :=
  "tls_fingerprint must be a non-empty string containing a SHA-256 hex digest"

def wrongFingerprintMessage (length : Nat) : String :=
  "tls_fingerprint must normalize to exactly 32 bytes of hex (a SHA-256 " ++
  "digest); got " ++ toString length ++ " hex character(s) after stripping " ++
  "colons/whitespace and any 'sha256:' prefix"

/-- What is left of a fingerprint when everything around its digits is
gone. -/
def fingerprintCandidate (raw : List Char) : List Char :=
  let candidate := lower (strip raw)
  let candidate :=
    if sha256Prefix.isPrefixOf candidate then
      candidate.drop sha256Prefix.length
    else candidate
  (candidate.filter fun c => c ≠ ':').filter fun c => c ≠ ' '

def normalizeFingerprint (raw : String) : Except AmtError String :=
  if strip raw.toList = [] then
    Except.error (tlsValidation emptyFingerprintMessage)
  else
    let candidate := fingerprintCandidate raw.toList
    if candidate.length ≠ fingerprintHexLength || !hexMatches candidate then
      Except.error (tlsValidation (wrongFingerprintMessage candidate.length))
    else Except.ok (String.ofList candidate)

def insecureTransportMessage : String :=
  "use_tls=false requires allow_insecure_transport=true. Without TLS, HTTP " ++
  "Digest credentials cross the network in a form an on-path attacker can " ++
  "recover. Set allow_insecure_transport=true only if this endpoint is " ++
  "reachable solely over an isolated management VLAN and cannot be upgraded " ++
  "to TLS."

def enforceTransportPolicy (useTls allowInsecureTransport : Bool) :
    Except AmtError Unit :=
  if useTls || allowInsecureTransport then Except.ok ()
  else Except.error (tlsValidation insecureTransportMessage)

/-!
## Trust
-/

def defaultTlsPort : Int := 16993

def defaultPlaintextPort : Int := 16992

def resolvePort (port : Option Int) (useTls : Bool) : Int :=
  match port with
  | some port => port
  | none => if useTls then defaultTlsPort else defaultPlaintextPort

/-- An optional text that is there and not empty. -/
def given (option : Option String) : Option String :=
  option.filter fun text => text ≠ ""

/-- A bundle and a pin are never in force together. -/
structure TlsTrustPolicy where
  validateCerts : Bool
  caPath : Option String
  fingerprint : Option String
  exclusive : fingerprint.isSome = true -> (given caPath).isSome = false

def exclusiveTrustMessage : String :=
  "ca_path and tls_fingerprint select mutually exclusive TLS trust modes; " ++
  "set only one. Use tls_fingerprint for the common case of a self-signed " ++
  "AMT certificate on a bare IP, or ca_path when the endpoint has a " ++
  "certificate issued by a CA you can supply a bundle for."

/-- The policy of a fingerprint that stands alone. -/
def TlsTrustPolicy.pinning (validateCerts : Bool) (caPath : Option String)
    (raw : String) (h : (given caPath).isSome = false) :
    Except AmtError TlsTrustPolicy := do
  let fingerprint ← normalizeFingerprint raw
  pure
    { validateCerts := validateCerts
      caPath := caPath
      fingerprint := some fingerprint
      exclusive := fun _ => h }

def TlsTrustPolicy.create (validateCerts : Bool)
    (caPath tlsFingerprint : Option String) :
    Except AmtError TlsTrustPolicy :=
  if h : (given caPath).isSome = true ∧ (given tlsFingerprint).isSome = true
  then Except.error (tlsValidation exclusiveTrustMessage)
  else
    match hgiven : given tlsFingerprint with
    | none =>
        Except.ok
          { validateCerts := validateCerts
            caPath := caPath
            fingerprint := none
            exclusive := fun h => nomatch h }
    | some raw =>
        TlsTrustPolicy.pinning validateCerts caPath raw
          (Bool.eq_false_iff.mpr fun hca =>
            h ⟨hca, Option.isSome_iff_exists.mpr ⟨raw, hgiven⟩⟩)

/-- `verify` of a session: whether chains are validated, or the bundle that
they are validated against. -/
inductive Verify where
  | flag (validate : Bool)
  | bundle (path : String)
deriving DecidableEq, Repr

def TlsTrustPolicy.requestsVerify (policy : TlsTrustPolicy) : Verify :=
  if policy.fingerprint.isSome || !policy.validateCerts then Verify.flag false
  else
    match given policy.caPath with
    | some path => Verify.bundle path
    | none => Verify.flag true

/-!
## Failures
-/

/-- What is left of the text when everything around its digits is gone is the
digest. -/
def isFingerprint (raw : String) : Bool :=
  (fingerprintCandidate raw.toList).length = fingerprintHexLength &&
    hexMatches (fingerprintCandidate raw.toList)

theorem normalizeFingerprint_ok_iff (raw : String) :
    (exists fingerprint, normalizeFingerprint raw = Except.ok fingerprint) ↔
      isFingerprint raw = true := by
  rw [isFingerprint, Bool.and_eq_true, decide_eq_true_iff]
  by_cases hempty : strip raw.toList = []
  · have hcandidate : fingerprintCandidate raw.toList = [] := by
      rw [fingerprintCandidate, hempty]
      rfl
    rw [hcandidate, normalizeFingerprint, if_pos hempty]
    constructor
    · rintro ⟨_, h⟩
      cases h
    · rintro ⟨h, _⟩
      cases h
  · rw [normalizeFingerprint, if_neg hempty]
    dsimp only
    split
    · rename_i hbad
      constructor
      · rintro ⟨_, h⟩
        cases h
      · rintro ⟨hlength, hhex⟩
        rw [hhex, decide_eq_false (not_not_intro hlength)] at hbad
        cases hbad
    · rename_i hgood
      constructor
      · intro _
        rw [Bool.or_eq_true, not_or, decide_eq_true_iff, not_not,
          Bool.not_eq_true', Bool.not_eq_false] at hgood
        exact hgood
      · exact fun _ => ⟨_, rfl⟩

theorem normalizeFingerprint_error {raw : String} {error : AmtError}
    (h : normalizeFingerprint raw = Except.error error) :
    error.errorClass = ErrorClass.tlsValidation := by
  rw [normalizeFingerprint] at h
  dsimp only at h
  split at h
  · cases h
    rfl
  · split at h
    · cases h
      rfl
    · cases h

section Policies

variable {validateCerts : Bool} {caPath tlsFingerprint : Option String}

theorem pinning_ok_iff {raw : String}
    (h : (given caPath).isSome = false) :
    (exists policy, TlsTrustPolicy.pinning validateCerts caPath raw h =
        Except.ok policy) ↔ isFingerprint raw = true := by
  rw [← normalizeFingerprint_ok_iff, TlsTrustPolicy.pinning]
  cases normalizeFingerprint raw with
  | error error =>
      constructor
      · rintro ⟨_, hpolicy⟩
        cases hpolicy
      · rintro ⟨_, hfingerprint⟩
        cases hfingerprint
  | ok fingerprint => exact ⟨fun _ => ⟨_, rfl⟩, fun _ => ⟨_, rfl⟩⟩

theorem create_ok_iff :
    (exists policy, TlsTrustPolicy.create validateCerts caPath
        tlsFingerprint = Except.ok policy) ↔
      forall raw, given tlsFingerprint = some raw ->
        (given caPath).isSome = false ∧ isFingerprint raw = true := by
  rw [TlsTrustPolicy.create]
  split
  · rename_i hboth
    constructor
    · rintro ⟨_, h⟩
      cases h
    · intro h
      rcases Option.isSome_iff_exists.mp hboth.2 with ⟨raw, hraw⟩
      rw [(h raw hraw).1] at hboth
      cases hboth.1
  · split
    · rename_i hnone
      constructor
      · intro _ raw hraw
        rw [hnone] at hraw
        cases hraw
      · exact fun _ => ⟨_, rfl⟩
    · rename_i hnot raw hraw
      have hca : (given caPath).isSome = false := by
        rw [Bool.eq_false_iff]
        exact fun hca => hnot ⟨hca, Option.isSome_iff_exists.mpr ⟨raw, hraw⟩⟩
      rw [pinning_ok_iff]
      constructor
      · intro h other hother
        rw [hraw] at hother
        cases hother
        exact ⟨hca, h⟩
      · exact fun h => (h raw hraw).2

theorem create_error {error : AmtError}
    (h : TlsTrustPolicy.create validateCerts caPath tlsFingerprint =
      Except.error error) :
    error.errorClass = ErrorClass.tlsValidation := by
  rw [TlsTrustPolicy.create] at h
  split at h
  · cases h
    rfl
  · split at h
    · cases h
    · rename_i raw _
      rw [TlsTrustPolicy.pinning] at h
      cases hnormal : normalizeFingerprint raw with
      | error reason =>
          rw [hnormal] at h
          cases h
          exact normalizeFingerprint_error hnormal
      | ok fingerprint =>
          rw [hnormal] at h
          cases h

end Policies

end Tls
end IntelAmt
