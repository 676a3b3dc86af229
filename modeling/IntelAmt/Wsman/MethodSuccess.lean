import IntelAmt.Wsman.Enumerations
import IntelAmt.Wsman.WriteBack

/-!
# The return value of a method

What a method call makes of the body it is answered with.  The children of the
output element become a dictionary, and the return value is what `int` makes of
one of its values; where there is nothing `int` takes, the call goes on as if
the firmware had returned zero.
-/

namespace IntelAmt
namespace Wsman

open Foundation

/-!
## Values of one name
-/

/-- What is kept of the values that come under one name, one after the
other. -/
def gathered : Option Value -> List Value -> Option Value
  | found, [] => found
  | none, value :: rest => gathered (some value) rest
  | some old, value :: rest => gathered (some (old.again value)) rest

theorem again_list (old value : Value) :
    exists items, old.again value = Value.list items := by
  cases old with
  | text s => exact ⟨[Value.text s, value], rfl⟩
  | members entries => exact ⟨[Value.members entries, value], rfl⟩
  | list items => exact ⟨items ++ [value], rfl⟩

theorem gathered_list (items values : List Value) :
    gathered (some (Value.list items)) values =
      some (Value.list (items ++ values)) := by
  induction values generalizing items with
  | nil =>
      rw [List.append_nil]
      rfl
  | cons value rest ih =>
      have hrest := ih (items ++ [value])
      rw [List.append_assoc] at hrest
      exact hrest

theorem gathered_repeated (first second : Value) (rest : List Value) :
    exists all, gathered none (first :: second :: rest) =
      some (Value.list all) := by
  rcases again_list first second with ⟨items, hitems⟩
  rw [gathered, gathered, hitems]
  exact ⟨_, gathered_list items rest⟩

theorem lookup_addMember_same (name : String) (value : Value)
    (result : Instance) :
    (addMember name value result).lookup name =
      gathered (result.lookup name) [value] := by
  induction result with
  | nil => simp [addMember, gathered]
  | cons entry rest ih =>
      rcases entry with ⟨key, old⟩
      by_cases heq : key = name
      · rw [addMember, if_pos heq, heq, List.lookup_cons_self,
          List.lookup_cons_self]
        rfl
      · have hne : (name == key) = false := beq_false_of_ne (Ne.symm heq)
        rw [addMember, if_neg heq, List.lookup_cons, List.lookup_cons, hne]
        exact ih

theorem lookup_addMember_other {name key : String} (h : key ≠ name)
    (value : Value) (result : Instance) :
    (addMember name value result).lookup key = result.lookup key := by
  induction result with
  | nil =>
      have hne : (key == name) = false := beq_false_of_ne h
      rw [addMember, List.lookup_cons, hne]
  | cons entry rest ih =>
      rcases entry with ⟨other, old⟩
      by_cases heq : other = name
      · have hne : (key == other) = false := by
          rw [heq]
          exact beq_false_of_ne h
        rw [addMember, if_pos heq, List.lookup_cons, List.lookup_cons, hne]
      · rw [addMember, if_neg heq, List.lookup_cons, List.lookup_cons, ih]

theorem gathered_cons (found : Option Value) (value : Value)
    (rest : List Value) :
    gathered found (value :: rest) =
      gathered (gathered found [value]) rest := by
  cases found with
  | none => rfl
  | some old => rfl

/-- The children of a name. -/
def childrenNamed (name : String) (children : List Element) : List Element :=
  children.filter fun child => nameOf child = name

theorem childrenNamed_same {name : String} {child : Element}
    (h : nameOf child = name) (rest : List Element) :
    childrenNamed name (child :: rest) = child :: childrenNamed name rest :=
  List.filter_cons_of_pos (decide_eq_true h)

theorem childrenNamed_other {name : String} {child : Element}
    (h : nameOf child ≠ name) (rest : List Element) :
    childrenNamed name (child :: rest) = childrenNamed name rest :=
  List.filter_cons_of_neg fun hkept => h (of_decide_eq_true hkept)

/-- A dictionary of children holds under a name what the children of that name
come to. -/
theorem lookup_membersOf (name : String) (children : List Element)
    (result : Instance) :
    (membersOf children result).lookup name =
      gathered (result.lookup name)
        ((childrenNamed name children).map elementToValue) := by
  induction children generalizing result with
  | nil =>
      rw [membersOf]
      rfl
  | cons child rest ih =>
      rw [membersOf, ih]
      by_cases hname : nameOf child = name
      · rw [childrenNamed_same hname, List.map_cons, gathered_cons,
          ← lookup_addMember_same, ← hname]
        rfl
      · rw [childrenNamed_other hname]
        exact congrArg (fun found => gathered found _)
          (lookup_addMember_other (Ne.symm hname) _ result)

/-!
## Numbers
-/

/-- `int` of a text. -/
def numberOf (text : String) : Option Int :=
  Json.textInt (text.toList.map Char.toNat)

/-- The number `int` makes of a value of a dictionary. -/
def Value.number : Value -> Option Int
  | Value.text s => numberOf s
  | _ => none

theorem extractReturnValue_eq (output : Instance) :
    extractReturnValue output =
      ((output.lookup "ReturnValue").bind Value.number).getD 0 := by
  rw [extractReturnValue]
  cases output.lookup "ReturnValue" with
  | none => rfl
  | some value =>
      cases value with
      | text s => rfl
      | members entries => rfl
      | list items => rfl

/-- The output element of a body has one child `ReturnValue`, without children
of its own, and its text is a number. -/
def Carries (body : Element) (n : Int) : Prop :=
  exists output value, body.children.head? = some output ∧
    childrenNamed "ReturnValue" output.children = [value] ∧
    value.children = [] ∧ numberOf (strip (value.text.getD "")) = some n

theorem number_elementToValue (element : Element) (n : Int) :
    (elementToValue element).number = some n ↔
      element.children = [] ∧
        numberOf (strip (element.text.getD "")) = some n := by
  rcases element with ⟨tag, attributes, text, children⟩
  cases children with
  | nil =>
      rw [elementToValue]
      exact (and_iff_right rfl).symm
  | cons child rest =>
      rw [elementToValue]
      apply iff_of_false
      · intro h
        cases h
      · rintro ⟨h, _⟩
        cases h

/-- The number under `ReturnValue` in the dictionary of a body. -/
def returned (body : Element) : Option Int :=
  ((singleInstance body).lookup "ReturnValue").bind Value.number

theorem returned_eq_some (body : Element) (n : Int) :
    returned body = some n ↔ Carries body n := by
  cases houtput : body.children.head? with
  | none =>
      rw [returned, singleInstance_empty houtput]
      apply iff_of_false
      · intro h
        cases h
      · rintro ⟨output, _, hhead, _⟩
        rw [houtput] at hhead
        cases hhead
  | some output =>
      have hcarries : Carries body n ↔
          exists value,
            childrenNamed "ReturnValue" output.children = [value] ∧
              (elementToValue value).number = some n := by
        constructor
        · rintro ⟨found, value, hhead, hone, hnumber⟩
          cases houtput.symm.trans hhead
          exact ⟨value, hone, (number_elementToValue value n).mpr hnumber⟩
        · rintro ⟨value, hone, hnumber⟩
          exact ⟨output, value, houtput, hone,
            (number_elementToValue value n).mp hnumber⟩
      rw [hcarries, returned, singleInstance_eq houtput, lookup_membersOf]
      -- missing, said once, repeated
      rcases childrenNamed "ReturnValue" output.children with
        _ | ⟨first, _ | ⟨second, rest⟩⟩
      · apply iff_of_false
        · intro h
          cases h
        · rintro ⟨_, hone, _⟩
          cases hone
      · constructor
        · exact fun h => ⟨first, rfl, h⟩
        · rintro ⟨value, hone, hnumber⟩
          cases hone
          exact hnumber
      · rcases gathered_repeated (elementToValue first)
          (elementToValue second) (rest.map elementToValue) with ⟨all, hall⟩
        apply iff_of_false
        · intro h
          rw [List.map_cons, List.map_cons, List.lookup_nil, hall] at h
          cases h
        · rintro ⟨_, hone, _⟩
          cases hone

theorem methodOutput_returns (client : Client) (operation : String)
    (body : Element) :
    (exists output, methodOutput client operation body = Except.ok output) ↔
      (returned body).getD 0 = 0 := by
  have hvalue : extractReturnValue (singleInstance body) =
      (returned body).getD 0 := extractReturnValue_eq _
  rw [methodOutput, ← hvalue]
  constructor
  · rintro ⟨output, houtput⟩
    by_contra hnonzero
    rw [if_neg hnonzero] at houtput
    cases houtput
  · intro hzero
    exact ⟨singleInstance body, if_pos hzero⟩

/-!
## Method calls
-/

theorem invoke_answered (client : Client)
    {resourceClass methodName uri : String} {params : List (String × Param)}
    {selectors : List (String × String)} {children : List Element}
    {answers : Nat -> (o : WsmanOp) -> WsmanAnswer o} {position : Nat}
    {response : Response} {body : Element}
    (huri : resourceUri resourceClass = Except.ok uri)
    (hchildren : appendParams uri params = Except.ok children)
    (hanswer : answers position
      (WsmanOp.post (methodRequest methodName uri selectors children)) =
        PostResult.response response)
    (hbody : handleResponse client (resourceClass ++ "." ++ methodName)
      response = Except.ok body) :
    Script.play answers position
        (invoke client resourceClass methodName params selectors) =
      Script.play answers (position + 1)
        (ofAmt (methodOutput client (resourceClass ++ "." ++ methodName)
          body)) := by
  have hexecute : Script.play answers position
      (execute client (methodRequest methodName uri selectors children)
        (resourceClass ++ "." ++ methodName) false) =
      (Except.ok body, position + 1) := by
    change Script.play answers (position + 1)
      (settle client (resourceClass ++ "." ++ methodName) raiseAmt
        (answers position (WsmanOp.post
          (methodRequest methodName uri selectors children)))) = _
    rw [hanswer, settle, hbody]
    rfl
  rw [invoke, huri]
  simp only [ofOther, Script.returned_bind, hchildren]
  exact Script.play_bind_ok hexecute

/-- A method call whose answer is no fault returns exactly when the firmware
said zero, if and only if the firmware said a number at all. -/
theorem method_success_iff (client : Client)
    {resourceClass methodName uri : String} {params : List (String × Param)}
    {selectors : List (String × String)} {children : List Element}
    {answers : Nat -> (o : WsmanOp) -> WsmanAnswer o} {position : Nat}
    {response : Response} {body : Element}
    (huri : resourceUri resourceClass = Except.ok uri)
    (hchildren : appendParams uri params = Except.ok children)
    (hanswer : answers position
      (WsmanOp.post (methodRequest methodName uri selectors children)) =
        PostResult.response response)
    (hbody : handleResponse client (resourceClass ++ "." ++ methodName)
      response = Except.ok body) :
    ((exists output, (Script.play answers position
          (invoke client resourceClass methodName params selectors)).1 =
        Except.ok output) ↔ Carries body 0) ↔
      exists n, Carries body n := by
  have hreturns : (exists output, (Script.play answers position
        (invoke client resourceClass methodName params selectors)).1 =
      Except.ok output) ↔ (returned body).getD 0 = 0 := by
    rw [invoke_answered client huri hchildren hanswer hbody,
      ← methodOutput_returns client (resourceClass ++ "." ++ methodName) body]
    cases methodOutput client (resourceClass ++ "." ++ methodName) body with
    | ok output => exact iff_of_true ⟨output, rfl⟩ ⟨output, rfl⟩
    | error e =>
        apply iff_of_false
        · rintro ⟨_, houtput⟩
          cases houtput
        · rintro ⟨_, houtput⟩
          cases houtput
  simp only [hreturns, ← returned_eq_some]
  cases returned body with
  | none =>
      apply iff_of_false
      · intro h
        cases h.mp rfl
      · rintro ⟨n, hn⟩
        cases hn
  | some n =>
      apply iff_of_true
      · exact (Option.some_inj).symm
      · exact ⟨n, rfl⟩

/-- The body of an answer to `SetBootConfigRole` with some children. -/
def roleBody (children : List Element) : Element where
  tag := qualified soapNs "Body"
  children := [{ tag := "SetBootConfigRole_OUTPUT", children := children }]

def bootServiceUri : String :=
  "http://schemas.dmtf.org/wbem/wscim/1/cim-schema/2/CIM_BootService"

/-- The output of a call that the firmware does not carry out. -/
def refusedBody : Element :=
  roleBody [{ tag := "ReturnValue", text := some "5" }]

theorem refusedBody_carries : Carries refusedBody 5 := by
  have hname : nameOf { tag := "ReturnValue", text := some "5" } =
      "ReturnValue" := by decide +kernel
  exact ⟨_, _, rfl, childrenNamed_same hname [], rfl, by decide +kernel⟩

/-- The firmware says 5 to a call with a parameter: it does not return. -/
theorem method_success_iff_refused :
    ¬ exists output, (Script.play
          (answersOf fun _ => PostResult.response (enveloped refusedBody)) 0
          (invoke { endpoint := "h:16993" } "CIM_BootService"
            "SetBootConfigRole" [("Role", Param.scalar (.int 1))])).1 =
        Except.ok output := by
  have huri : resourceUri "CIM_BootService" = Except.ok bootServiceUri := rfl
  have hchildren : appendParams bootServiceUri
      [("Role", Param.scalar (.int 1))] = Except.ok
        [{ tag := qualified bootServiceUri "Role", text := some "1" }] := rfl
  have hiff := @method_success_iff { endpoint := "h:16993" }
    "CIM_BootService" "SetBootConfigRole" bootServiceUri
    [("Role", Param.scalar (.int 1))] [] _
    (answersOf fun _ => PostResult.response (enveloped refusedBody)) 0
    (enveloped refusedBody) refusedBody huri hchildren rfl rfl
  intro hreturns
  have hzero := (hiff.mpr ⟨5, refusedBody_carries⟩).mp hreturns
  rw [← returned_eq_some,
    (returned_eq_some _ _).mpr refusedBody_carries] at hzero
  cases hzero

/-- An output element without a return value. -/
theorem unsaid_is_success :
    ¬ ((exists output, (Script.play
          (answersOf fun _ => PostResult.response (enveloped (roleBody []))) 0
          (invoke { endpoint := "h:16993" } "CIM_BootService"
            "SetBootConfigRole" [])).1 =
        Except.ok output) ↔
        Carries (roleBody []) 0) := by
  have huri : resourceUri "CIM_BootService" = Except.ok bootServiceUri := rfl
  have hchildren : appendParams bootServiceUri [] = Except.ok [] := rfl
  have hplay := @invoke_answered { endpoint := "h:16993" } "CIM_BootService"
    "SetBootConfigRole" bootServiceUri [] [] []
    (answersOf fun _ => PostResult.response (enveloped (roleBody []))) 0
    (enveloped (roleBody [])) (roleBody []) huri hchildren rfl rfl
  intro h
  have hzero : Carries (roleBody []) 0 := by
    apply h.mp
    rw [hplay]
    exact ⟨[], rfl⟩
  rcases hzero with ⟨output, value, hhead, hone, _⟩
  cases hhead
  cases hone

end Wsman
end IntelAmt
