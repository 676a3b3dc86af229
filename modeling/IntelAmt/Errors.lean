import IntelAmt.Foundation.Json

/-!
# Failures

The stable classes that every failure of the collection carries, and the
failure that a module hands to its caller.  Callers branch on the names of the
classes, so the names are part of the contract.
-/

namespace IntelAmt

inductive ErrorClass where
  | connection
  | tlsValidation
  | authentication
  | unsupportedCapability
  | invalidState
  | timeout
  | protocol
  | remoteOperation
  | identityMismatch
deriving DecidableEq, Repr

def ErrorClass.name : ErrorClass -> String
  | connection => "connection"
  | tlsValidation => "tls_validation"
  | authentication => "authentication"
  | unsupportedCapability => "unsupported_capability"
  | invalidState => "invalid_state"
  | timeout => "timeout"
  | protocol => "protocol"
  | remoteOperation => "remote_operation"
  | identityMismatch => "identity_mismatch"

/-- A part of an f-string: plain text, or a value as `str` or `repr` shows
it. -/
inductive MessagePart where
  | text (s : String)
  | shown (value : Foundation.Json)
  | quoted (value : Foundation.Json)

abbrev Message := List MessagePart

instance : Coe String Message := ⟨fun s => [MessagePart.text s]⟩

/-- `AmtError`; its subclass is told by the class that it carries. -/
structure AmtError where
  errorClass : ErrorClass
  message : Message
  endpoint : Option String := none
  operation : Option String := none
  diagnostic : Option String := none
  indeterminate : Bool := false
  returnValue : Option Int := none

end IntelAmt
