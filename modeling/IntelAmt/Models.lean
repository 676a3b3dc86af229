import IntelAmt.Foundation.Json.Numbers
import IntelAmt.Wsman.Xml

/-!
# Typed results

`models.py`: what is made of the values of an instance.
-/

namespace IntelAmt
namespace Models

open Foundation Wsman

def lowered (text : String) : String :=
  String.ofList (Tls.lower (Tls.strip text.toList))

/-- `truthy`. -/
def truthy : Option Value -> Bool
  | none => false
  | some value => lowered value.str ∈ ["true", "1", "yes"]

/-- `int` of a text that has been stripped. -/
def intOf (text : String) : Option Int :=
  Json.textInt ((strip text).toList.map Char.toNat)

/-- `optional_int`. -/
def optionalInt (value : Option Value) : Option Int :=
  value.bind fun value => intOf value.str

/-- `optional_str`. -/
def optionalStr : Option Value -> Option String
  | some (Value.text s) => (some (strip s)).filter fun text => text ≠ ""
  | _ => none

/-- `int` of a value, where a value that is not a text is no number. -/
def cimInt : Option Value -> Option Int
  | some (Value.text s) => intOf s
  | _ => none

def powerStateTable : List (Int × String) :=
  [(2, "on"), (3, "sleep"), (4, "sleep"), (5, "on"), (6, "off"),
    (7, "hibernate"), (8, "off"), (9, "off"), (13, "off")]

structure PowerState where
  normalized : String
  raw : Int
deriving DecidableEq, Repr

/-- `PowerState.from_cim_value`. -/
def PowerState.fromCimValue (value : Option Value) : PowerState :=
  match cimInt value with
  | none => { normalized := "unknown", raw := -1 }
  | some raw =>
      { normalized := (powerStateTable.lookup raw).getD "unknown"
        raw := raw }

structure RedirectionState where
  enabledState : Int
  listenerEnabled : Bool
  iderEnabled : Bool
  solEnabled : Bool
deriving DecidableEq, Repr

/-- `RedirectionState.from_enabled_state`. -/
def RedirectionState.fromEnabledState (enabledState : Option Value)
    (listenerEnabled : Bool) : RedirectionState :=
  let state := (cimInt enabledState).getD (-1)
  { enabledState := state
    listenerEnabled := listenerEnabled
    iderEnabled := state = 32769 || state = 32771
    solEnabled := state = 32770 || state = 32771 }

end Models
end IntelAmt
