import IntelAmt.Models

/-!
# Settings and states

`models.py`: the types of the facts that are read with one Get each, and what
is made of the values of their properties.
-/

namespace IntelAmt
namespace Models

open Foundation Wsman

/-!
## Values
-/

def isBlank : Value -> Bool
  | Value.text s => strip s = ""
  | _ => false

def repeated : Value -> List Value
  | Value.list items => items
  | other => [other]

/-- `optional_bool`. -/
def optionalBool : Option Value -> Option Bool
  | none => none
  | some value => if isBlank value then none else some (truthy (some value))

abbrev Table := List (Int × String)

/-- `_decode`. -/
def decode (table : Table) (value : Int) : String :=
  (table.lookup value).getD ("unknown(" ++ toString value ++ ")")

def isBase16Digit (n : Nat) : Bool :=
  Json.isTextDigit n || (97 ≤ n && n ≤ 102) || (65 ≤ n && n ≤ 70)

/-- Digits of a number in hexadecimal, with single underscores between
them. -/
def hexNumeral : List Nat -> Bool
  | [] => false
  | [digit] => isBase16Digit digit
  | digit :: 95 :: rest => isBase16Digit digit && hexNumeral rest
  | digit :: rest => isBase16Digit digit && hexNumeral rest

/-- Behind the sign: `0x` may be in front, and one underscore behind it. -/
def isBase16Unsigned : List Nat -> Bool
  | 48 :: 120 :: 95 :: rest => hexNumeral rest
  | 48 :: 88 :: 95 :: rest => hexNumeral rest
  | 48 :: 120 :: rest => hexNumeral rest
  | 48 :: 88 :: rest => hexNumeral rest
  | digits => hexNumeral digits

/-- `int(text, 16)` succeeds. -/
def isBase16 (text : List Char) : Bool :=
  match Json.strip (text.map fun c => Json.asciiPoint c.toNat) with
  | 43 :: unsigned => isBase16Unsigned unsigned
  | 45 :: unsigned => isBase16Unsigned unsigned
  | unsigned => isBase16Unsigned unsigned

def pairs : List Char -> List String
  | a :: b :: rest => String.ofList [a, b] :: pairs rest
  | [a] => [String.ofList [a]]
  | [] => []

/-- `_normalize_mac`. -/
def normalizeMac (value : String) : String :=
  let text := strip value
  let compact := text.toList.filter fun c => c ≠ '-' ∧ c ≠ ':' ∧ c ≠ '.'
  if compact.length ≠ 12 then text
  else if isBase16 compact then
    ":".intercalate (pairs (compact.map Char.toLower))
  else text

example : normalizeMac "A4-BF-01-23-45-6f" = "a4:bf:01:23:45:6f" := by
  decide +kernel

/-- The numbers of one candidate of `_link_policy_values`. -/
def policyNumbers : Value -> List Int
  | Value.members entries =>
      match entries.lookup "PolicyValue" with
      | some nested =>
          (repeated nested).filterMap fun item => optionalInt (some item)
      | none => []
  | other => (optionalInt (some other)).toList

/-- `_link_policy_values`. -/
def linkPolicyValues : Option Value -> Option (List Int)
  | none => none
  | some value =>
      if isBlank value then some []
      else some ((repeated value).flatMap policyNumbers)

/-!
## Tables
-/

def enabledStateTable : Table :=
  [(0, "unknown"),
    (1, "other"),
    (2, "enabled"),
    (3, "disabled"),
    (4, "shutting_down"),
    (5, "not_applicable"),
    (6, "enabled_but_offline"),
    (7, "in_test"),
    (8, "deferred"),
    (9, "quiesce"),
    (10, "starting")]

def operationalStatusTable : Table :=
  [(0, "unknown"),
    (1, "other"),
    (2, "ok"),
    (3, "degraded"),
    (4, "stressed"),
    (5, "predictive_failure"),
    (6, "error"),
    (7, "non_recoverable_error"),
    (8, "starting"),
    (9, "stopping"),
    (10, "stopped"),
    (11, "in_service"),
    (12, "no_contact"),
    (13, "lost_communication"),
    (14, "aborted"),
    (15, "dormant"),
    (16, "supporting_entity_in_error"),
    (17, "completed"),
    (18, "power_mode"),
    (19, "relocating")]

def linkPolicyTable : Table :=
  [(1, "s0_ac"), (14, "sx_ac"), (16, "s0_dc"), (224, "sx_dc")]

def linkPolicySxValues : List Int := [14, 224]

/-!
## Types
-/

structure AmtCapabilities where
  power : Bool := false
  bootOncePxe : Bool := false
  sol : Bool := false
  storageRedirection : Bool := false
deriving DecidableEq, Repr

structure EthernetSettings where
  macAddress : Option String
  macAddressRaw : Option String
  ipAddress : Option String
  subnetMask : Option String
  defaultGateway : Option String
  primaryDns : Option String
  secondaryDns : Option String
  dhcpEnabled : Option Bool
  linkIsUp : Option Bool
  ipSyncEnabled : Option Bool
  linkPolicy : Option (List Int)
  linkPolicyNames : Option (List String)
  wakeOnLanCapable : Option Bool
deriving DecidableEq, Repr

/-- `EthernetSettings.from_instance`. -/
def EthernetSettings.fromInstance (container : Instance) :
    EthernetSettings :=
  let rawMac := optionalStr (container.lookup "MACAddress")
  let policies := linkPolicyValues (container.lookup "LinkPolicy")
  { macAddress := rawMac.map normalizeMac
    macAddressRaw := rawMac
    ipAddress := optionalStr (container.lookup "IPAddress")
    subnetMask := optionalStr (container.lookup "SubnetMask")
    defaultGateway := optionalStr (container.lookup "DefaultGateway")
    primaryDns := optionalStr (container.lookup "PrimaryDNS")
    secondaryDns := optionalStr (container.lookup "SecondaryDNS")
    dhcpEnabled := optionalBool (container.lookup "DHCPEnabled")
    linkIsUp := optionalBool (container.lookup "LinkIsUp")
    ipSyncEnabled := optionalBool (container.lookup "IpSyncEnabled")
    linkPolicy := policies
    linkPolicyNames :=
      policies.map fun values => values.map (decode linkPolicyTable)
    wakeOnLanCapable :=
      policies.map fun values =>
        values.any fun value => value ∈ linkPolicySxValues }

structure SystemState where
  elementName : Option String
  enabledState : Option Int
  enabledStateText : Option String
  requestedState : Option Int
  operationalStatus : Option (List Int)
  operationalStatusText : Option (List String)
deriving DecidableEq, Repr

/-- `SystemState.from_instance`. -/
def SystemState.fromInstance (container : Instance) : SystemState :=
  let enabledState := optionalInt (container.lookup "EnabledState")
  let statuses :=
    (container.lookup "OperationalStatus").map fun rawStatus =>
      (repeated rawStatus).filterMap fun item => optionalInt (some item)
  { elementName := optionalStr (container.lookup "ElementName")
    enabledState := enabledState
    enabledStateText := enabledState.map (decode enabledStateTable)
    requestedState := optionalInt (container.lookup "RequestedState")
    operationalStatus := statuses
    operationalStatusText :=
      statuses.map fun values => values.map (decode operationalStatusTable) }

end Models
end IntelAmt
