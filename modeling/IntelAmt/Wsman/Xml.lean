import Mathlib.Data.List.DropRight
import IntelAmt.Foundation.Printable
import IntelAmt.Tls

/-!
# Elements and values

The elements of a SOAP message, what is made of the elements of a response,
and the elements that parameters are written as.
-/

namespace IntelAmt
namespace Wsman

/-- An element of a message.  Of a response nobody looks at the attributes. -/
structure Element where
  tag : String
  attributes : List (String × String) := []
  text : Option String := none
  children : List Element := []

/-- `{uri}name`. -/
def qualified (uri name : String) : String := "\x7b" ++ uri ++ "\x7d" ++ name

/-- `_local_name`: what stands behind the last brace. -/
def localName (tag : String) : String :=
  String.ofList (tag.toList.reverse.takeWhile fun c => c ≠ '\x7d').reverse

/-- `_namespace`. -/
def namespaceOf (tag : String) : Option String :=
  match tag.toList with
  | '\x7b' :: rest => some (String.ofList (rest.takeWhile fun c => c ≠ '\x7d'))
  | _ => none

mutual

/-- An element and all elements in it, in document order. -/
def Element.iter : Element -> List Element
  | ⟨tag, attributes, text, children⟩ =>
      ⟨tag, attributes, text, children⟩ :: iterAll children

def iterAll : List Element -> List Element
  | [] => []
  | element :: rest => element.iter ++ iterAll rest

end

/-- `_find_by_local_name`. -/
def findByLocalName (element : Element) (name : String) : Option Element :=
  element.iter.find? fun found => localName found.tag = name

/-!
## Values
-/

/-- What is made of an element: its text, or a dictionary of its children,
where a name that comes again makes a list. -/
inductive Value where
  | text (s : String)
  | members (entries : List (String × Value))
  | list (items : List Value)

/-- A dictionary, in the order of its keys. -/
abbrev Instance := List (String × Value)

def strip (text : String) : String := String.ofList (Tls.strip text.toList)

theorem tls_strip_eq (text : List Char) :
    Tls.strip text = (text.dropWhile Tls.isSpace).rdropWhile Tls.isSpace :=
  rfl

theorem tls_strip_strip (text : List Char) :
    Tls.strip (Tls.strip text) = Tls.strip text := by
  have hfront : (Tls.strip text).dropWhile Tls.isSpace = Tls.strip text := by
    rw [List.dropWhile_eq_self_iff]
    intro hpos
    have hstart : Tls.strip text <+: text.dropWhile Tls.isSpace :=
      List.rdropWhile_prefix Tls.isSpace _
    have hlong := Nat.lt_of_lt_of_le hpos hstart.length_le
    rw [hstart.getElem hpos]
    exact List.dropWhile_get_zero_not Tls.isSpace text hlong
  rw [tls_strip_eq (Tls.strip text), hfront]
  exact List.rdropWhile_idempotent Tls.isSpace _

theorem strip_strip (text : String) : strip (strip text) = strip text := by
  rw [strip, strip, String.toList_ofList, tls_strip_strip]

/-- One more value under a name that is there already. -/
def Value.again (old value : Value) : Value :=
  match old with
  | list items => list (items ++ [value])
  | other => list [other, value]

def addMember (name : String) (value : Value) : Instance -> Instance
  | [] => [(name, value)]
  | (key, old) :: rest =>
      if key = name then (key, old.again value) :: rest
      else (key, old) :: addMember name value rest

mutual

/-- `_element_to_value`. -/
def elementToValue : Element -> Value
  | ⟨_, _, text, []⟩ => Value.text (strip (text.getD ""))
  | ⟨_, _, _, child :: rest⟩ =>
      Value.members (membersOf rest
        (addMember (localName child.tag) (elementToValue child) []))

def membersOf : List Element -> Instance -> Instance
  | [], result => result
  | child :: rest, result =>
      membersOf rest
        (addMember (localName child.tag) (elementToValue child) result)

end

/-!
## `str` of a value
-/

def hexDigit (n : Nat) : Char := "0123456789abcdef".toList.getD n '0'

def hexField : Nat -> Nat -> List Char
  | 0, _ => []
  | width + 1, n => hexField width (n / 16) ++ [hexDigit (n % 16)]

def escapeChar (n : Nat) : List Char :=
  if n < 256 then '\\' :: 'x' :: hexField 2 n
  else if n < 65536 then '\\' :: 'u' :: hexField 4 n
  else '\\' :: 'U' :: hexField 8 n

def reprChar (quote c : Char) : List Char :=
  if c = quote || c = '\\' then ['\\', c]
  else if c = '\t' then ['\\', 't']
  else if c = '\n' then ['\\', 'n']
  else if c = '\r' then ['\\', 'r']
  else if Foundation.isPrintable c.toNat then [c]
  else escapeChar c.toNat

def reprText (text : String) : String :=
  let quote :=
    if '\'' ∈ text.toList && '"' ∉ text.toList then '"' else '\''
  String.ofList
    (quote :: text.toList.flatMap (reprChar quote) ++ [quote])

mutual

def Value.repr : Value -> String
  | Value.text s => reprText s
  | Value.list items => "[" ++ ", ".intercalate (reprItems items) ++ "]"
  | Value.members entries =>
      "\x7b" ++ ", ".intercalate (reprEntries entries) ++ "\x7d"

def reprItems : List Value -> List String
  | [] => []
  | item :: rest => item.repr :: reprItems rest

def reprEntries : List (String × Value) -> List String
  | [] => []
  | (key, value) :: rest =>
      (reprText key ++ ": " ++ value.repr) :: reprEntries rest

end

/-- `str`. -/
def Value.str : Value -> String
  | Value.text s => s
  | other => other.repr

/-!
## Parameters
-/

/-- What the calls of the standard library raise, which is not of the
collection, and what `requests` raises beside the failures that are told
apart. -/
inductive OtherError where
  | value
  | attribute
  | request
deriving DecidableEq, Repr

def addressingNs : String := "http://schemas.xmlsoap.org/ws/2004/08/addressing"

def wsmanNs : String := "http://schemas.dmtf.org/wbem/wsman/1/wsman.xsd"

def resourceUriBase (initial : String) : Option String :=
  if initial = "CIM" then
    some "http://schemas.dmtf.org/wbem/wscim/1/cim-schema/2/"
  else if initial = "AMT" then
    some "http://intel.com/wbem/wscim/1/amt-schema/1/"
  else if initial = "IPS" then
    some "http://intel.com/wbem/wscim/1/ips-schema/1/"
  else none

/-- `resource_uri`. -/
def resourceUri (className : String) : Except OtherError String :=
  match resourceUriBase
      (String.ofList (className.toList.takeWhile fun c => c ≠ '_')) with
  | none => Except.error OtherError.value
  | some base => Except.ok (base ++ className)

structure EndpointReference where
  resourceClass : String
  selectors : List (String × String)
deriving DecidableEq, Repr

def selectorElement (selector : String × String) : Element where
  tag := qualified wsmanNs "Selector"
  attributes := [("Name", selector.1)]
  text := some selector.2

/-- `EndpointReference.build_elements`. -/
def EndpointReference.buildElements (reference : EndpointReference) :
    Except OtherError (List Element) := do
  let uri ← resourceUri reference.resourceClass
  pure
    [{ tag := qualified addressingNs "Address"
       text := some addressingNs },
      { tag := qualified addressingNs "ReferenceParameters"
        children :=
          [{ tag := qualified wsmanNs "ResourceURI", text := some uri },
            { tag := qualified wsmanNs "SelectorSet"
              children := reference.selectors.map selectorElement }] }]

/-- A value that is written as text. -/
inductive Scalar where
  | bool (value : Bool)
  | int (value : Int)
  | parsed (value : Value)

/-- `_coerce_param_text`. -/
def Scalar.coerceText : Scalar -> String
  | bool true => "true"
  | bool false => "false"
  | int value => toString value
  | parsed value => value.str

inductive Param where
  | none
  | scalar (value : Scalar)
  | reference (reference : EndpointReference)

/-- The element of one parameter; a parameter that is `None` has none. -/
def paramElement (uri name : String) :
    Param -> Except OtherError (List Element)
  | Param.none => Except.ok []
  | Param.reference reference => do
      let children ← reference.buildElements
      pure [{ tag := qualified uri name, children := children }]
  | Param.scalar value =>
      Except.ok [{ tag := qualified uri name, text := some value.coerceText }]

/-- `_append_params`. -/
def appendParams (uri : String) :
    List (String × Param) -> Except OtherError (List Element)
  | [] => Except.ok []
  | (name, param) :: rest => do
      let first ← paramElement uri name param
      let others ← appendParams uri rest
      pure (first ++ others)

end Wsman
end IntelAmt
