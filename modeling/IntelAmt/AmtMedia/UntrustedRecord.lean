import IntelAmt.AmtMedia.Module

/-!
# A state file that holds anything

What the first look of an attach and a detach make of the bytes of a state
file, whoever wrote them.
-/

namespace IntelAmt
namespace AmtMedia

open Foundation Ider MediaSession

/-!
## What can be read
-/

/-- `int` takes the value. -/
def Convertible : Json -> Prop
  | Json.int _ => True
  | Json.bool _ => True
  | Json.float literal =>
      exists negative magnitude, Json.floatValue literal =
        Json.FloatValue.finite negative magnitude
  | Json.str points => (Json.textInt points).isSome = true
  | _ => False

/-- The counter is missing from the device, or a number. -/
def CounterReadable (key : String) (device : Json) : Prop :=
  exists members, device = Json.obj members ∧
    forall value, members.lookup (jsonKey key) = some value ->
      Convertible value

/-- No devices, or a dictionary of devices with their counters. -/
def DevicesReadable (devices : Json) : Prop :=
  devices.truthy = false ∨
    exists members, devices = Json.obj members ∧
      forall device, device ∈ members.map Prod.snd ->
        CounterReadable "bytes_read" device ∧
          CounterReadable "bytes_written" device

/-- A pid that can be compared with 0 and, if it is larger, passed to
`os.kill`. -/
def PidReadable : Json -> Prop
  | Json.null => True
  | Json.int n => n < 2147483648
  | Json.bool _ => True
  | Json.float literal => (Json.floatValue literal).atMostZero = true
  | _ => False

/-- A pid that `os.kill` is asked about. -/
def PidProbed : Json -> Prop
  | Json.int n => 0 < n
  | Json.bool value => value = true
  | _ => False

/-- `in` a set takes the value. -/
def Hashable : Json -> Prop
  | Json.arr _ => False
  | Json.obj _ => False
  | _ => True

structure Harmless (record : Members) : Prop where
  pid : PidReadable (get record "pid")
  state : PidProbed (get record "pid") -> Hashable (get record "state")
  devices : DevicesReadable (get record "devices")

/-- Text that does not nest too deep, and is no dictionary or a harmless
one. -/
def Legible (interpreter : Interpreter) (raw : Bytes) : Prop :=
  exists text, decodeUtf8 raw = some text ∧
    Json.loads interpreter.nesting (universalNewlines text) ≠
      Except.error Json.ScanError.recursion ∧
    forall record,
      Json.loads interpreter.nesting (universalNewlines text) =
          Except.ok (Json.obj record) -> Harmless record

/-!
## What is raised
-/

/-- The state file of the session reads as these bytes. -/
def Shows (dir session : String) (raw : Bytes) :
    (o : SystemOp) -> SystemAnswer o -> Prop
  | SystemOp.readFile file, found =>
      file = SessionFile.state dir session -> found = Except.ok raw
  | _, _ => True

/-- Failures of the collection, and refusals of the operating system. -/
def Accounted : Raised -> Prop
  | Raised.exception e => e = PyException.os
  | _ => True

/-- Signals go to processes, never to groups of them. -/
def SignalsProcess : SystemOp -> Prop
  | SystemOp.kill pid _ => 0 < pid
  | _ => True

/-- The record that an attach finds, and its report of it if the session is
live. -/
def existingSession (params : Params) (endpoint session : String) :
    MediaScript (Option Members × Option ModuleResult) := do
  let existing ← readState params.interpreter params.runtimeDir session
  match existing with
  | none => pure (none, none)
  | some record =>
      let live ← liveSession record
      if live then
        let result ← attachedResult endpoint session record
        pure (some record, some result)
      else pure (some record, none)

/-- The attach behind its first look. -/
def attachBehind (looks : Nat) (params : Params) (endpoint session : String)
    (port : Int) :
    Option Members × Option ModuleResult -> MediaScript ModuleResult
  | (_, some result) => pure result
  | (none, none) => attachFresh looks params endpoint session port none
  | (some record, none) => do
      removeState params.runtimeDir session
      attachFresh looks params endpoint session port (some record)

theorem attach_eq (looks : Nat) (params : Params) (endpoint : String)
    (port : Int) :
    attach looks params endpoint port =
      (attachSession params >>= fun session =>
        existingSession params endpoint session >>=
          attachBehind looks params endpoint session port) := by
  unfold attach
  congr 1
  funext session
  rw [existingSession, Script.bind_assoc]
  congr 1
  funext existing
  cases existing with
  | none => rfl
  | some record =>
      show (liveSession record >>= fun live => _) =
        (liveSession record >>= fun live => _) >>= _
      rw [Script.bind_assoc]
      congr 1
      funext live
      cases live with
      | true =>
          show _ = (attachedResult endpoint session record >>= fun result =>
            pure (some record, some result)) >>= _
          rw [Script.bind_assoc]
          exact (Script.bind_pure _).symm
      | false => rfl

/-!
## Counters and fields
-/

/-- The computation returns, or raises what no refusal of the operating system
is. -/
def Faulty {alpha : Type} (result : Except PyException alpha) : Prop :=
  exists e, result = Except.error e ∧ e ≠ PyException.os

theorem intOf_cases (value : Json) :
    Convertible value ∧ (exists n, intOf value = Except.ok n) ∨
      ¬ Convertible value ∧ Faulty (intOf value) := by
  cases value with
  | int n => exact Or.inl ⟨trivial, n, rfl⟩
  | bool b => exact Or.inl ⟨trivial, _, rfl⟩
  | null | arr _ | obj _ =>
      exact Or.inr ⟨id, PyException.type, rfl, PyException.noConfusion⟩
  | str points =>
      cases hint : Json.textInt points with
      | none =>
          apply Or.inr
          constructor
          · rw [Convertible, hint]
            exact Bool.false_ne_true
          · exact ⟨PyException.value, by rw [intOf, hint],
              PyException.noConfusion⟩
      | some n =>
          apply Or.inl
          constructor
          · rw [Convertible, hint]
            rfl
          · exact ⟨n, by rw [intOf, hint]⟩
  | float literal =>
      cases hfloat : Json.floatValue literal with
      | finite negative magnitude =>
          apply Or.inl
          exact ⟨⟨negative, magnitude, hfloat⟩, _, by rw [intOf, hfloat]⟩
      | nan =>
          apply Or.inr
          constructor
          · rintro ⟨negative, magnitude, h⟩
            exact Json.FloatValue.noConfusion (hfloat.symm.trans h)
          · exact ⟨PyException.value, by rw [intOf, hfloat],
              PyException.noConfusion⟩
      | infinite negative =>
          apply Or.inr
          constructor
          · rintro ⟨negative, magnitude, h⟩
            exact Json.FloatValue.noConfusion (hfloat.symm.trans h)
          · exact ⟨PyException.overflow, by rw [intOf, hfloat],
              PyException.noConfusion⟩

theorem deviceCounter_cases (key : String) (device : Json) :
    CounterReadable key device ∧
        (exists n, deviceCounter key device = Except.ok n) ∨
      ¬ CounterReadable key device ∧ Faulty (deviceCounter key device) := by
  cases device with
  | null | bool _ | int _ | float _ | str _ | arr _ =>
      apply Or.inr
      constructor
      · rintro ⟨members, h, _⟩
        cases h
      · exact ⟨PyException.attribute, rfl, PyException.noConfusion⟩
  | obj members =>
      rw [deviceCounter]
      cases hvalue : members.lookup (jsonKey key) with
      | none =>
          refine Or.inl ⟨⟨members, rfl, ?_⟩, 0, rfl⟩
          intro value h
          rw [hvalue] at h
          cases h
      | some value =>
          rcases intOf_cases value with ⟨hvalid, hcounter⟩ |
            ⟨hinvalid, hfault⟩
          · refine Or.inl ⟨⟨members, rfl, ?_⟩, hcounter⟩
            intro found h
            rw [hvalue] at h
            cases h
            exact hvalid
          · refine Or.inr ⟨?_, hfault⟩
            rintro ⟨found, h, hall⟩
            cases h
            exact hinvalid (hall value hvalue)

theorem sumCounters_cases (key : String) (devices : List Json) :
    (forall device, device ∈ devices -> CounterReadable key device) ∧
        (exists n, sumCounters key devices = Except.ok n) ∨
      (exists device, device ∈ devices ∧ ¬ CounterReadable key device) ∧
        Faulty (sumCounters key devices) := by
  induction devices with
  | nil =>
      apply Or.inl
      constructor
      · intro device h
        cases h
      · exact ⟨0, rfl⟩
  | cons device devices ih =>
      rw [sumCounters]
      rcases deviceCounter_cases key device with ⟨hdevice, n, hn⟩ |
        ⟨hdevice, e, he, hnot⟩
      · rcases ih with ⟨hall, m, hm⟩ | ⟨⟨bad, hmem, hbad⟩, e, he, hnot⟩
        · left
          rw [hn, hm]
          refine ⟨?_, n + m, rfl⟩
          intro other hother
          rcases List.mem_cons.mp hother with rfl | hother
          · exact hdevice
          · exact hall other hother
        · right
          rw [hn, he]
          exact ⟨⟨bad, List.mem_cons_of_mem _ hmem, hbad⟩, e, rfl, hnot⟩
      · right
        rw [he]
        exact ⟨⟨device, List.mem_cons_self, hdevice⟩, e, rfl, hnot⟩

theorem aggregateBytes_cases (state : Option Members) :
    DevicesReadable (getOf state "devices") ∧
        (exists totals, aggregateBytes state = Except.ok totals) ∨
      ¬ DevicesReadable (getOf state "devices") ∧
        Faulty (aggregateBytes state) := by
  unfold aggregateBytes DevicesReadable Json.orElse
  cases htruthy : (getOf state "devices").truthy with
  | false => exact Or.inl ⟨Or.inl rfl, (0, 0), rfl⟩
  | true =>
      rw [if_pos rfl]
      cases hdevices : getOf state "devices" with
      | null | bool _ | int _ | float _ | str _ | arr _ =>
          apply Or.inr
          constructor
          · rintro (h | ⟨members, h, _⟩)
            · cases h
            · cases h
          · exact ⟨PyException.attribute, rfl, PyException.noConfusion⟩
      | obj members =>
          rcases sumCounters_cases "bytes_read" (members.map Prod.snd) with
            ⟨hread, n, hn⟩ | ⟨⟨bad, hmem, hbad⟩, e, he, hnot⟩
          · rcases sumCounters_cases "bytes_written" (members.map Prod.snd)
              with ⟨hwritten, m, hm⟩ | ⟨⟨bad, hmem, hbad⟩, e, he, hnot⟩
            · left
              dsimp only
              rw [hn, hm]
              exact ⟨Or.inr ⟨members, rfl, fun device hdevice =>
                ⟨hread device hdevice, hwritten device hdevice⟩⟩, (n, m), rfl⟩
            · right
              dsimp only
              rw [hn, he]
              refine ⟨?_, e, rfl, hnot⟩
              rintro (h | ⟨found, h, hall⟩)
              · cases h
              · cases h
                exact hbad (hall bad hmem).2
          · right
            dsimp only
            rw [he]
            refine ⟨?_, e, rfl, hnot⟩
            rintro (h | ⟨found, h, hall⟩)
            · cases h
            · cases h
              exact hbad (hall bad hmem).1

/-!
## The parts of a script
-/

section Parts

variable {interpreter : Interpreter} {dir session : String} {raw : Bytes}
variable {alpha : Type}

theorem assuming_ofResult {readable : Prop}
    {result : Except PyException alpha}
    (h : readable ∧ (exists a, result = Except.ok a) ∨
      ¬ readable ∧ Faulty result) :
    Script.Assuming (Shows dir session raw) (fun _ => True) Accounted
      (ofResult result) ↔ readable := by
  rcases h with ⟨hreadable, a, rfl⟩ | ⟨hunreadable, e, rfl, hnot⟩
  · exact iff_of_true trivial hreadable
  · exact iff_of_false hnot hunreadable

theorem assuming_statusFields (state : Option Members) :
    Script.Assuming (Shows dir session raw) (fun _ => True) Accounted
        (ofResult (statusFields state)) ↔
      DevicesReadable (getOf state "devices") := by
  apply assuming_ofResult
  unfold statusFields
  rcases aggregateBytes_cases state with ⟨hreadable, totals, htotals⟩ |
    ⟨hunreadable, e, he, hnot⟩
  · rw [htotals]
    exact Or.inl ⟨hreadable, _, rfl⟩
  · rw [he]
    exact Or.inr ⟨hunreadable, e, rfl, hnot⟩

theorem assuming_inTerminalStates (state : Json) :
    Script.Assuming (Shows dir session raw) (fun _ => True) Accounted
        (ofResult (inTerminalStates state)) ↔ Hashable state := by
  apply assuming_ofResult
  cases state with
  | arr _ | obj _ =>
      exact Or.inr ⟨id, PyException.type, rfl, PyException.noConfusion⟩
  | null | bool _ | int _ | float _ | str _ =>
      exact Or.inl ⟨trivial, _, rfl⟩

theorem assuming_readState {Q : Option Members -> Prop} :
    Script.Assuming (Shows dir session raw) Q Accounted
        (readState interpreter dir session) ↔
      exists parsed, parseState interpreter raw = Except.ok parsed ∧
        Q parsed := by
  have hshown : Script.Assuming (Shows dir session raw) Q Accounted
        (readState interpreter dir session) ↔
      Script.Assuming (Shows dir session raw) Q Accounted
        (parseRead interpreter (Except.ok raw)) := by
    constructor
    · exact fun h => h (Except.ok raw) fun _ => rfl
    · intro h found hfound
      rw [hfound rfl]
      exact h
  rw [hshown, parseRead]
  cases parseState interpreter raw with
  | error e =>
      cases e with
      | unicodeDecode | recursion =>
          apply iff_of_false
          · exact PyException.noConfusion
          · rintro ⟨parsed, h, _⟩
            cases h
  | ok parsed =>
      constructor
      · exact fun h => ⟨parsed, rfl, h⟩
      · rintro ⟨found, h, hfound⟩
        cases h
        exact hfound

theorem assuming_isNumberAlive {Q : Bool -> Prop} (pid : Int) :
    Script.Assuming (Shows dir session raw) Q Accounted
        (isNumberAlive pid) ↔
      pid < 2147483648 ∧ (0 < pid -> Q true) ∧ Q false := by
  rw [isNumberAlive]
  by_cases hpos : pid ≤ 0
  · rw [if_pos hpos]
    constructor
    · exact fun h => ⟨by lia, fun hnot => by lia, h⟩
    · exact fun h => h.2.2
  · rw [if_neg hpos, osKill]
    by_cases hlarge : pid < 2147483648
    · rw [if_pos hlarge]
      constructor
      · exact fun h => ⟨hlarge,
          fun _ => h KillResult.delivered trivial,
          h KillResult.noSuchProcess trivial⟩
      · intro h result _
        cases result with
        | noSuchProcess => exact h.2.2
        | notPermitted | delivered => exact h.2.1 (by lia)
    · rw [if_neg hlarge]
      exact iff_of_false PyException.noConfusion fun h => hlarge h.1

theorem assuming_isPidAlive {Q : Bool -> Prop} (pid : Json) :
    Script.Assuming (Shows dir session raw) Q Accounted (isPidAlive pid) ↔
      PidReadable pid ∧ (PidProbed pid -> Q true) ∧ Q false := by
  cases pid with
  | null =>
      constructor
      · exact fun h => ⟨trivial, fun hprobed => hprobed.elim, h⟩
      · exact fun h => h.2.2
  | int n => exact assuming_isNumberAlive n
  | bool value =>
      rw [isPidAlive, assuming_isNumberAlive]
      cases value with
      | true =>
          constructor
          · exact fun h => ⟨trivial, fun _ => h.2.1 (by decide), h.2.2⟩
          · exact fun h => ⟨by decide, fun _ => h.2.1 rfl, h.2.2⟩
      | false =>
          constructor
          · exact fun h => ⟨trivial, fun hprobed => absurd hprobed
              Bool.false_ne_true, h.2.2⟩
          · exact fun h => ⟨by decide, fun hpos => absurd hpos (by decide),
              h.2.2⟩
  | float literal =>
      rw [isPidAlive]
      by_cases hfloat : (Json.floatValue literal).atMostZero = true
      · rw [if_pos hfloat]
        constructor
        · exact fun h => ⟨hfloat, fun hprobed => hprobed.elim, h⟩
        · exact fun h => h.2.2
      · rw [if_neg hfloat]
        exact iff_of_false PyException.noConfusion fun h => hfloat h.1
  | str _ | arr _ | obj _ =>
      exact iff_of_false PyException.noConfusion fun h => h.1

theorem assuming_suppressNotFound (result : Except FileError Unit) :
    Script.Assuming (Shows dir session raw) (fun _ => True) Accounted
      (suppressNotFound result) := by
  rcases result with e | _
  · cases e with
    | notFound => trivial
    | os => rfl
  · trivial

theorem assuming_removeState :
    Script.Assuming (Shows dir session raw) (fun _ => True) Accounted
      (removeState dir session) := by
  apply Script.assuming_bind_iff.mpr
  intro result _
  apply Script.assuming_mono (assuming_suppressNotFound result)
  intro _ _ last _
  exact assuming_suppressNotFound last

theorem assuming_requestStop {pid : Json} (hpid : PidReadable pid) :
    Script.Assuming (Shows dir session raw) (fun _ => True) Accounted
      (requestStop pid) := by
  have hnumber : forall n : Int, n < 2147483648 ->
      Script.Assuming (Shows dir session raw) (fun _ => True) Accounted
        (requestStop.stopNumber n) := by
    intro n hn
    rw [requestStop.stopNumber]
    split
    · trivial
    · rw [osKill, if_pos hn]
      intro result _
      cases result with
      | noSuchProcess | delivered => trivial
      | notPermitted => rfl
  cases pid with
  | null => trivial
  | int n => exact hnumber n hpid
  | bool value =>
      apply hnumber
      cases value <;> decide
  | float literal =>
      have hfloat : (Json.floatValue literal).atMostZero = true := hpid
      rw [requestStop, if_pos hfloat]
      trivial
  | str _ | arr _ | obj _ => exact hpid.elim

theorem assuming_pollExit {pid : Json} (hpid : PidReadable pid)
    (deadline : Rat) (looks : Nat) :
    Script.Assuming (Shows dir session raw) (fun _ => True) Accounted
      (pollExit pid deadline looks) := by
  induction looks with
  | zero => trivial
  | succ looks ih =>
      apply Script.assuming_bind_iff.mpr
      apply (assuming_isPidAlive pid).mpr
      refine ⟨hpid, ?_, trivial⟩
      intro _ now _
      show Script.Assuming _ _ _ (if deadline ≤ now then pure false else _)
      split
      · trivial
      · exact fun _ _ => ih

end Parts

/-!
## The first look and the detach
-/

section Whole

variable {interpreter : Interpreter} {dir session : String} {raw : Bytes}
variable {params : Params} {looks : Nat} {endpoint : String}

theorem assuming_liveSession {Q : Bool -> Prop} (record : Members) :
    Script.Assuming (Shows dir session raw) Q Accounted
        (liveSession record) ↔
      PidReadable (get record "pid") ∧
        (PidProbed (get record "pid") ->
          Script.Assuming (Shows dir session raw) (fun terminal => Q !terminal)
            Accounted (ofResult (inTerminalStates (get record "state")))) ∧
        Q false := by
  rw [liveSession, Script.assuming_bind_iff, assuming_isPidAlive]
  refine and_congr_right fun _ => and_congr_left fun _ => ?_
  apply imp_congr_right
  intro _
  rw [if_pos rfl, Script.assuming_bind_iff]
  exact Iff.rfl

theorem parseState_text {text : List Char}
    (htext : decodeUtf8 raw = some text)
    (hdeep : Json.loads interpreter.nesting (universalNewlines text) ≠
      Except.error Json.ScanError.recursion) :
    exists parsed, parseState interpreter raw = Except.ok parsed ∧
      forall record, parsed = some record ↔
        Json.loads interpreter.nesting (universalNewlines text) =
          Except.ok (Json.obj record) := by
  unfold parseState
  rw [htext]
  cases hloads : Json.loads interpreter.nesting (universalNewlines text) with
  | error e =>
      cases e with
      | recursion => exact absurd hloads hdeep
      | value =>
          refine ⟨none, by simp only [hloads], ?_⟩
          intro record
          constructor <;> intro h <;> cases h
  | ok value =>
      cases value with
      | obj members =>
          refine ⟨some members, by simp only [hloads], ?_⟩
          intro record
          constructor <;> rintro ⟨⟩ <;> rfl
      | null | bool _ | int _ | float _ | str _ | arr _ =>
          refine ⟨none, by simp only [hloads], ?_⟩
          intro record
          constructor <;> intro h <;> cases h

theorem parseState_deep {text : List Char}
    (htext : decodeUtf8 raw = some text)
    (hdeep : Json.loads interpreter.nesting (universalNewlines text) =
      Except.error Json.ScanError.recursion) :
    parseState interpreter raw = Except.error ReadError.recursion := by
  unfold parseState
  rw [htext]
  simp only [hdeep]

theorem legible_iff :
    Legible interpreter raw ↔
      exists parsed, parseState interpreter raw = Except.ok parsed ∧
        forall record, parsed = some record -> Harmless record := by
  cases hdecode : decodeUtf8 raw with
  | none =>
      apply iff_of_false
      · rintro ⟨text, h, _⟩
        rw [hdecode] at h
        cases h
      · rintro ⟨parsed, h, _⟩
        rw [parseState, hdecode] at h
        cases h
  | some text =>
      by_cases hdeep : Json.loads interpreter.nesting
          (universalNewlines text) = Except.error Json.ScanError.recursion
      · apply iff_of_false
        · rintro ⟨found, hfound, hshallow, _⟩
          rw [hdecode] at hfound
          cases hfound
          exact hshallow hdeep
        · rintro ⟨parsed, h, _⟩
          rw [parseState_deep hdecode hdeep] at h
          cases h
      rcases parseState_text hdecode hdeep with ⟨parsed, hparsed, hrecord⟩
      constructor
      · rintro ⟨found, hfound, _, h⟩
        rw [hdecode] at hfound
        cases hfound
        exact ⟨parsed, hparsed, fun record hsome =>
          h record ((hrecord record).mp hsome)⟩
      · rintro ⟨found, hfound, h⟩
        rw [hparsed] at hfound
        cases hfound
        exact ⟨text, hdecode, hdeep, fun record hloads =>
          h record ((hrecord record).mpr hloads)⟩

theorem Harmless.live {record : Members} (h : Harmless record)
    {Q : Bool -> Prop} (hQ : forall live, Q live) :
    Script.Assuming (Shows dir session raw) Q Accounted
      (liveSession record) := by
  apply (assuming_liveSession record).mpr
  refine ⟨h.pid, ?_, hQ false⟩
  intro hprobed
  exact Script.assuming_mono
    ((assuming_inTerminalStates _).mpr (h.state hprobed)) fun _ _ => hQ _

theorem Harmless.fields {record : Members} (h : Harmless record)
    {Q : StatusFields -> Prop} (hQ : forall fields, Q fields) :
    Script.Assuming (Shows dir session raw) Q Accounted
      (ofResult (statusFields (some record))) :=
  Script.assuming_mono ((assuming_statusFields (some record)).mpr h.devices)
    fun fields _ => hQ fields

theorem Legible.existing (h : Legible params.interpreter raw)
    (endpoint session : String) :
    Script.Assuming (Shows params.runtimeDir session raw) (fun _ => True)
      Accounted (existingSession params endpoint session) := by
  rcases legible_iff.mp h with ⟨parsed, hparsed, hharmless⟩
  apply Script.assuming_bind_iff.mpr
  apply assuming_readState.mpr
  refine ⟨parsed, hparsed, ?_⟩
  cases parsed with
  | none => trivial
  | some record =>
      have hrecord := hharmless record rfl
      apply Script.assuming_bind_iff.mpr
      apply hrecord.live
      intro live
      cases live with
      | false => trivial
      | true =>
          apply Script.assuming_bind_iff.mpr
          apply Script.assuming_bind_iff.mpr
          exact hrecord.fields fun fields => trivial

theorem Legible.stopped (h : Legible params.interpreter raw)
    (hfits : FitsDouble params.detachTimeout) {record : Members}
    (hrecord : Harmless record) (looks : Nat) (endpoint session : String) :
    Script.Assuming (Shows params.runtimeDir session raw) (fun _ => True)
      Accounted (stopSession looks params endpoint session record) := by
  rcases legible_iff.mp h with ⟨parsed, hparsed, hharmless⟩
  apply Script.assuming_bind_iff.mpr
  apply Script.assuming_mono (assuming_requestStop hrecord.pid)
  intro _ _
  rcases fitsDouble_iff.mp hfits with ⟨timeout, htimeout⟩
  rw [htimeout]
  apply Script.assuming_bind_iff.mpr
  apply Script.assuming_bind_iff.mpr
  intro now _
  apply Script.assuming_mono (assuming_pollExit hrecord.pid _ looks)
  intro exited _
  apply Script.assuming_bind_iff.mpr
  apply assuming_readState.mpr
  refine ⟨parsed, hparsed, ?_⟩
  apply Script.assuming_bind_iff.mpr
  apply Script.assuming_mono assuming_removeState
  intro _ _
  have hlast : exists last, Harmless last ∧
      (parsed.filter fun members => members ≠ []).or (some record) =
        some last := by
    cases hfilter : parsed.filter fun members => decide (members ≠ []) with
    | none => exact ⟨record, hrecord, rfl⟩
    | some last =>
        exact ⟨last, hharmless last (Option.filter_eq_some_iff.mp hfilter).1,
          rfl⟩
  rcases hlast with ⟨last, hlast, hfinal⟩
  rw [hfinal]
  have hwarned : Script.Assuming (Shows params.runtimeDir session raw)
      (fun _ => True) Accounted
      (warnUnlessExited exited (unexitedMessage session (get record "pid")
        params.detachTimeout)) := by
    cases exited with
    | true => trivial
    | false => exact fun _ _ => trivial
  apply Script.assuming_bind_iff.mpr
  apply Script.assuming_mono hwarned
  intro _ _
  apply Script.assuming_bind_iff.mpr
  exact hlast.fields fun fields => trivial

theorem Legible.detached (h : Legible params.interpreter raw)
    (hfits : FitsDouble params.detachTimeout) (looks : Nat)
    (endpoint session : String) :
    Script.Assuming (Shows params.runtimeDir session raw) (fun _ => True)
      Accounted (detach looks params endpoint session) := by
  rcases legible_iff.mp h with ⟨parsed, hparsed, hharmless⟩
  apply Script.assuming_bind_iff.mpr
  apply assuming_readState.mpr
  refine ⟨parsed, hparsed, ?_⟩
  cases parsed with
  | none => trivial
  | some record =>
      have hrecord := hharmless record rfl
      have hfields : forall report : StatusFields -> ModuleResult,
          Script.Assuming (Shows params.runtimeDir session raw)
            (fun _ => True) Accounted
            (ofResult (statusFields (some record)) >>= fun fields =>
              pure (report fields)) :=
        fun report => Script.assuming_bind_iff.mpr
          (hrecord.fields fun fields => trivial)
      apply Script.assuming_bind_iff.mpr
      apply (assuming_isPidAlive _).mpr
      refine ⟨hrecord.pid, fun _ => ?_, ?_⟩
      · split
        · exact hfields _
        · exact h.stopped hfits hrecord looks endpoint session
      · split
        · exact hfields _
        · apply Script.assuming_bind_iff.mpr
          apply Script.assuming_mono assuming_removeState
          exact fun _ _ => hfields _

theorem pid_of_existing
    (h : Script.Assuming (Shows params.runtimeDir session raw) (fun _ => True)
      Accounted (existingSession params endpoint session)) :
    exists parsed, parseState params.interpreter raw = Except.ok parsed ∧
      forall record, parsed = some record ->
        PidReadable (get record "pid") ∧
          (PidProbed (get record "pid") ->
            Hashable (get record "state")) := by
  rcases assuming_readState.mp (Script.assuming_bind_iff.mp h) with
    ⟨parsed, hparsed, hlooked⟩
  refine ⟨parsed, hparsed, ?_⟩
  rintro record rfl
  rcases (assuming_liveSession record).mp
    (Script.assuming_bind_iff.mp hlooked) with ⟨hpid, hstate, _⟩
  refine ⟨hpid, ?_⟩
  intro hprobed
  exact (assuming_inTerminalStates _).mp
    (Script.assuming_mono (hstate hprobed) fun _ _ => trivial)

theorem devices_of_detach (hcheck : params.checkMode = true)
    (h : Script.Assuming (Shows params.runtimeDir session raw) (fun _ => True)
      Accounted (detach looks params endpoint session)) {record : Members}
    (hrecord : parseState params.interpreter raw = Except.ok (some record)) :
    DevicesReadable (get record "devices") := by
  rcases assuming_readState.mp (Script.assuming_bind_iff.mp h) with
    ⟨parsed, hparsed, hlooked⟩
  rw [hrecord] at hparsed
  cases hparsed
  rcases (assuming_isPidAlive _).mp (Script.assuming_bind_iff.mp hlooked) with
    ⟨_, _, hdead⟩
  rw [hcheck, if_pos rfl] at hdead
  exact (assuming_statusFields (some record)).mp
    (Script.assuming_mono (Script.assuming_bind_iff.mp hdead)
      fun _ _ => trivial)

end Whole

/-!
## Signals
-/

theorem signals_ofResult {alpha : Type} (result : Except PyException alpha) :
    Script.Uses SignalsProcess (ofResult result) := by
  cases result <;> trivial

theorem signals_ofAmt {alpha : Type} (result : Except AmtError alpha) :
    Script.Uses SignalsProcess (ofAmt result) := by
  cases result <;> trivial

theorem signals_ofRaised {alpha : Type} (result : Except Raised alpha) :
    Script.Uses SignalsProcess (ofRaised result) := by
  cases result <;> trivial

theorem signals_readState (interpreter : Interpreter)
    (dir session : String) :
    Script.Uses SignalsProcess (readState interpreter dir session) := by
  apply Script.uses_bind (Script.uses_ask trivial)
  intro raw
  rcases raw with e | raw
  · cases e <;> trivial
  · rw [parseRead]
    split <;> trivial

theorem signals_osKill {pid : Int} (hpos : ¬ pid ≤ 0) (signal : Signal) :
    Script.Uses SignalsProcess (osKill pid signal) := by
  unfold osKill
  split
  · exact Script.uses_ask (show 0 < pid by lia)
  · trivial

theorem signals_isPidAlive (pid : Json) :
    Script.Uses SignalsProcess (isPidAlive pid) := by
  have hnumber : forall n,
      Script.Uses SignalsProcess (isNumberAlive n) := by
    intro n
    rw [isNumberAlive]
    split
    · trivial
    · apply Script.uses_bind (signals_osKill ‹_› _)
      intro result
      cases result <;> trivial
  cases pid with
  | int n => exact hnumber n
  | bool value => exact hnumber _
  | float literal =>
      rw [isPidAlive]
      split <;> trivial
  | null | str _ | arr _ | obj _ => trivial

theorem signals_requestStop (pid : Json) :
    Script.Uses SignalsProcess (requestStop pid) := by
  have hnumber : forall n,
      Script.Uses SignalsProcess (requestStop.stopNumber n) := by
    intro n
    rw [requestStop.stopNumber]
    split
    · trivial
    · apply Script.uses_bind (signals_osKill ‹_› _)
      intro result
      cases result <;> trivial
  cases pid with
  | int n => exact hnumber n
  | bool value => exact hnumber _
  | float literal =>
      rw [requestStop]
      split <;> trivial
  | null | str _ | arr _ | obj _ => trivial

theorem signals_pollExit (pid : Json) (deadline : Rat) (looks : Nat) :
    Script.Uses SignalsProcess (pollExit pid deadline looks) := by
  induction looks with
  | zero => trivial
  | succ looks ih =>
      apply Script.uses_bind (signals_isPidAlive pid)
      intro alive
      split
      · apply Script.uses_bind (Script.uses_ask trivial)
        intro now
        split
        · trivial
        · exact Script.uses_bind (Script.uses_ask trivial) fun _ => ih
      · trivial

theorem signals_pollState (interpreter : Interpreter)
    (dir session : String) (settled : Members -> Bool) (deadline : Rat)
    (looks : Nat) :
    Script.Uses SignalsProcess
      (pollState interpreter dir session settled deadline looks) := by
  induction looks with
  | zero => trivial
  | succ looks ih =>
      apply Script.uses_bind (signals_readState interpreter dir session)
      intro observed
      split
      · trivial
      · apply Script.uses_bind (Script.uses_ask trivial)
        intro now
        split
        · trivial
        · exact Script.uses_bind (Script.uses_ask trivial) fun _ => ih

theorem signals_removeState (dir session : String) :
    Script.Uses SignalsProcess (removeState dir session) := by
  have hunlink : forall file,
      Script.Uses SignalsProcess (unlinkIfThere file) := by
    intro file
    apply Script.uses_bind (Script.uses_ask trivial)
    intro result
    rcases result with e | _
    · cases e <;> trivial
    · trivial
  exact Script.uses_bind (hunlink _) fun _ => hunlink _

theorem signals_reported (result : Except PyException StatusFields)
    (report : StatusFields -> ModuleResult) :
    Script.Uses SignalsProcess
      (ofResult result >>= fun fields => pure (report fields)) :=
  Script.uses_bind (signals_ofResult _) fun _ => trivial

theorem signals_validateMediaSpecs (allowedDirectory : Option String)
    (specs : List MediaSpec) :
    Script.Uses SignalsProcess
      (validateMediaSpecs allowedDirectory specs) := by
  induction specs with
  | nil => trivial
  | cons spec specs ih =>
      apply Script.uses_bind (Script.uses_ask trivial)
      intro fs
      split
      · trivial
      · exact ih

theorem signals_spawnSession (config : SessionConfig) :
    Script.Uses SignalsProcess (spawnSession config) := by
  apply Script.uses_bind (Script.uses_ask trivial)
  intro forked
  cases forked with
  | unsupported | failed | silent => trivial
  | started pid =>
      apply Script.uses_bind (Script.uses_ask trivial)
      intro now
      apply Script.uses_bind (Script.uses_ask trivial)
      intro result
      cases result <;> trivial

theorem signals_verdict (params : Params) (endpoint session : String)
    (observed : Option Members) (fields : StatusFields) :
    Script.Uses SignalsProcess
      (verdict params endpoint session observed fields) := by
  unfold verdict
  split
  · trivial
  · split
    · trivial
    · apply Script.uses_bind (signals_isPidAlive _)
      intro alive
      split
      · apply Script.uses_bind (signals_ofResult _)
        intro terminal
        split <;> trivial
      · apply Script.uses_bind (signals_readState _ _ _)
        intro last
        exact Script.uses_bind (signals_ofResult _) fun _ => trivial

theorem signals_attachFresh (looks : Nat) (params : Params)
    (endpoint session : String) (port : Int) (existing : Option Members) :
    Script.Uses SignalsProcess
      (attachFresh looks params endpoint session port existing) := by
  apply Script.uses_bind (signals_ofAmt _)
  intro specs
  apply Script.uses_bind (signals_validateMediaSpecs _ _)
  intro _
  split
  · trivial
  · apply Script.uses_bind (signals_ofRaised _)
    intro config
    apply Script.uses_bind (signals_spawnSession _)
    intro pid
    apply Script.uses_bind (signals_ofResult _)
    intro timeout
    apply Script.uses_bind
      (Script.uses_bind (Script.uses_ask trivial) fun _ =>
        signals_pollState _ _ _ _ _ _)
    intro observed
    apply Script.uses_bind (signals_ofResult _)
    intro fields
    exact Script.uses_bind (signals_verdict _ _ _ _ _) fun _ => trivial

theorem signals_liveSession (record : Members) :
    Script.Uses SignalsProcess (liveSession record) := by
  apply Script.uses_bind (signals_isPidAlive _)
  intro alive
  split
  · exact Script.uses_bind (signals_ofResult _) fun _ => trivial
  · trivial

theorem signals_existingSession (params : Params)
    (endpoint session : String) :
    Script.Uses SignalsProcess (existingSession params endpoint session) := by
  apply Script.uses_bind (signals_readState _ _ _)
  intro existing
  cases existing with
  | none => trivial
  | some record =>
      apply Script.uses_bind (signals_liveSession record)
      intro live
      split
      · exact Script.uses_bind (signals_reported _ _) fun _ => trivial
      · trivial

theorem signals_attach (looks : Nat) (params : Params) (endpoint : String)
    (port : Int) :
    Script.Uses SignalsProcess (attach looks params endpoint port) := by
  rw [attach_eq]
  apply Script.uses_bind
  · unfold attachSession
    split
    · trivial
    · exact Script.uses_ask trivial
  · intro session
    apply Script.uses_bind (signals_existingSession _ _ _)
    rintro ⟨existing, reported⟩
    cases reported with
    | some result => trivial
    | none =>
        cases existing with
        | none => exact signals_attachFresh _ _ _ _ _ _
        | some record =>
            apply Script.uses_bind (signals_removeState _ _)
            exact fun _ => signals_attachFresh _ _ _ _ _ _

theorem signals_detach (looks : Nat) (params : Params)
    (endpoint session : String) :
    Script.Uses SignalsProcess (detach looks params endpoint session) := by
  apply Script.uses_bind (signals_readState _ _ _)
  intro existing
  cases existing with
  | none => exact signals_reported _ _
  | some record =>
      apply Script.uses_bind (signals_isPidAlive _)
      intro live
      split
      · exact signals_reported _ _
      · split
        · apply Script.uses_bind (signals_requestStop _)
          intro _
          apply Script.uses_bind (signals_ofResult _)
          intro timeout
          apply Script.uses_bind
            (Script.uses_bind (Script.uses_ask trivial) fun _ =>
              signals_pollExit _ _ _)
          intro exited
          apply Script.uses_bind (signals_readState _ _ _)
          intro last
          apply Script.uses_bind (signals_removeState _ _)
          intro _
          apply Script.uses_bind
          · cases exited with
            | true => trivial
            | false => exact Script.uses_ask trivial
          · exact fun _ => signals_reported _ _
        · apply Script.uses_bind (signals_removeState _ _)
          exact fun _ => signals_reported _ _

theorem signals_main (looks : Nat) (params : Params) :
    Script.Uses SignalsProcess (main looks params) := by
  apply Script.uses_handle
  · unfold operate
    split
    · apply Script.uses_bind (signals_ofAmt _)
      intro _
      apply Script.uses_bind (signals_ofAmt _)
      exact fun _ => signals_attach _ _ _ _
    · exact signals_detach _ _ _ _
  · intro raised
    cases raised <;> trivial

/-!
## Any bytes
-/

/-- Whoever wrote these bytes, the first look of an attach and a detach raise
nothing on their account, and no signal goes to a group of processes.  The
timeout of the detach is one that `float` takes. -/
def ReadSafely (interpreter : Interpreter) (raw : Bytes) : Prop :=
  forall (looks : Nat) (params : Params) (endpoint session : String),
    params.interpreter = interpreter ->
    Script.Assuming (Shows params.runtimeDir session raw) (fun _ => True)
        Accounted (existingSession params endpoint session) ∧
      (FitsDouble params.detachTimeout ->
        Script.Assuming (Shows params.runtimeDir session raw) (fun _ => True)
          Accounted (detach looks params endpoint session)) ∧
      Script.Uses SignalsProcess (main looks params)

/-- A check of what a detach would do. -/
def checkedDetach (interpreter : Interpreter) : Params where
  host := "amt"
  state := DesiredState.detached
  sessionId := some "s"
  runtimeDir := "/run"
  checkMode := true
  interpreter := interpreter

theorem ReadSafely.legible {interpreter : Interpreter} {raw : Bytes}
    (h : ReadSafely interpreter raw) : Legible interpreter raw := by
  rcases h 0 (checkedDetach interpreter) "amt:16994" "s" rfl with
    ⟨hexisting, hdetach, _⟩
  have hsmall : (15 : Int).natAbs < 2 ^ 53 := by decide
  have hfits : FitsDouble (checkedDetach interpreter).detachTimeout :=
    fitsDouble_iff.mpr ⟨_, floatOf_exact hsmall⟩
  rcases pid_of_existing hexisting with ⟨parsed, hparsed, hlooked⟩
  apply legible_iff.mpr
  refine ⟨parsed, hparsed, ?_⟩
  rintro record rfl
  constructor
  · exact (hlooked record rfl).1
  · exact (hlooked record rfl).2
  · exact devices_of_detach rfl (hdetach hfits) hparsed

/-- A state file is read without an exception exactly if it is legible. -/
theorem readSafely_iff (interpreter : Interpreter) (raw : Bytes) :
    ReadSafely interpreter raw ↔ Legible interpreter raw := by
  constructor
  · exact fun h => h.legible
  · rintro h looks params endpoint session rfl
    exact ⟨h.existing endpoint session,
      fun hfits => h.detached hfits looks endpoint session,
      signals_main looks params⟩

/-- No text in UTF-8 has this byte. -/
theorem undecodable_raises :
    ¬ forall interpreter raw, ReadSafely interpreter raw := by
  intro h
  rcases (h usualInterpreter [0xff]).legible with ⟨text, htext, _⟩
  cases htext

end AmtMedia
end IntelAmt
