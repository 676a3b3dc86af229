import IntelAmt.AmtMedia.OneDaemon

/-!
# The verdict of an attach

From the return of the spawn on, the attach polls the state file, looks whether
the daemon is alive, and may read the file once more.  All three can change in
between; the verdict is stated over whatever they answer.
-/

namespace IntelAmt
namespace AmtMedia

open Foundation Ider MediaSession

/-!
## What the attach can observe
-/

/-- A record with any texts, whose pid is a number or is missing. -/
structure PlainRecord (record : Members) : Prop where
  state : exists points, getOr (some record) "state" (jsonText "unknown") =
    Json.str points
  pid : get record "pid" = Json.null ∨ exists n, get record "pid" = Json.int n

/-- The record that an answer of the operating system holds. -/
def recordIn (interpreter : Interpreter) :
    Except FileError Bytes -> Option Members
  | Except.error _ => none
  | Except.ok raw =>
      match parseState interpreter raw with
      | Except.error _ => none
      | Except.ok parsed => parsed

/-- The file is not there, or is read as no session or as a plain record. -/
def Observable (interpreter : Interpreter) : Except FileError Bytes -> Prop
  | Except.error e => e = FileError.notFound
  | Except.ok raw =>
      parseState interpreter raw = Except.ok none ∨
        exists record, parseState interpreter raw = Except.ok (some record) ∧
          PlainRecord record

/-- `is_pid_alive` asks about this pid. -/
def probed (pid : Json) : Option Int :=
  match pid with
  | Json.int n => if 0 < n ∧ n < 2147483648 then some n else none
  | _ => none

/-- A pid that `os.kill` does not take. -/
def Unprobeable (pid : Json) : Prop :=
  exists n, pid = Json.int n ∧ 2147483648 ≤ n

def stillThere : KillResult -> Bool
  | KillResult.noSuchProcess => false
  | KillResult.notPermitted => true
  | KillResult.delivered => true

section Answers

variable (answers : Nat -> (o : SystemOp) -> SystemAnswer o)

/-- The process of the pid is found alive at the position. -/
def foundAlive (position : Nat) (pid : Json) : Bool :=
  match probed pid with
  | none => false
  | some n =>
      stillThere (answers position (SystemOp.kill n Signal.probe))

/-- Where the script stands after it has asked. -/
def afterProbe (position : Nat) (pid : Json) : Nat :=
  if (probed pid).isSome then position + 1 else position

/-- The record that is read after the liveness of the observed one has been
looked at; the observed one if there is none, or an empty one. -/
def rereadRecord (params : Params) (session : String) (position : Nat)
    (observed : Option Members) : Option Members :=
  let last := recordIn params.interpreter
    (answers (afterProbe position (getOf observed "pid"))
      (SystemOp.readFile (SessionFile.state params.runtimeDir session)))
  (last.filter fun members => members ≠ []).or observed

/-- Every look at the file is one that the attach can make. -/
def ObservesRecords (interpreter : Interpreter) (dir session : String) :
    Prop :=
  forall position, Observable interpreter
    (answers position (SystemOp.readFile (SessionFile.state dir session)))

/-- The clock, which is read at every third operation of the wait, gets past
the deadline. -/
def ClockPasses (position : Nat) (timeout : Rat) : Prop :=
  exists k, answers position SystemOp.monotonic + timeout ≤
    answers (position + 2 + 3 * k) SystemOp.monotonic

end Answers

/-!
## Playing the parts
-/

section Playing

variable {answers : Nat -> (o : SystemOp) -> SystemAnswer o}
variable {interpreter : Interpreter} {dir session : String} {position : Nat}

theorem play_ask (o : SystemOp) (position : Nat) :
    Script.play answers position
        (Script.ask o : MediaScript (SystemAnswer o)) =
      (Except.ok (answers position o), position + 1) := rfl

theorem parseRead_observable {raw : Except FileError Bytes}
    (h : Observable interpreter raw) :
    parseRead interpreter raw =
      Script.returned (recordIn interpreter raw) := by
  rcases raw with e | bytes
  · cases h
    rfl
  · rcases h with hnone | ⟨record, hrecord, _⟩
    · rw [parseRead, recordIn, hnone]
      rfl
    · rw [parseRead, recordIn, hrecord]
      rfl

theorem play_readState
    (h : Observable interpreter
      (answers position (SystemOp.readFile (SessionFile.state dir session)))) :
    Script.play answers position (readState interpreter dir session) =
      (Except.ok (recordIn interpreter
        (answers position
          (SystemOp.readFile (SessionFile.state dir session)))),
        position + 1) := by
  rw [readState, Script.play_bind_ok (play_ask _ position),
    parseRead_observable h]
  rfl

theorem recordIn_plain {raw : Except FileError Bytes}
    (h : Observable interpreter raw) :
    forall record, recordIn interpreter raw = some record ->
      PlainRecord record := by
  intro record hrecord
  rcases raw with e | bytes
  · cases hrecord
  · rcases h with hnone | ⟨found, hfound, hplain⟩
    · rw [recordIn, hnone] at hrecord
      cases hrecord
    · rw [recordIn, hfound] at hrecord
      cases hrecord
      exact hplain

theorem play_killResult (result : KillResult) :
    Script.play answers position
        (match result with
          | KillResult.noSuchProcess => pure false
          | KillResult.notPermitted => pure true
          | KillResult.delivered => pure true : MediaScript Bool) =
      (Except.ok (stillThere result), position) := by
  cases result <;> rfl

theorem play_isPidAlive {pid : Json}
    (hpid : pid = Json.null ∨ exists n, pid = Json.int n) :
    Unprobeable pid ∧
        Script.play answers position (isPidAlive pid) =
          (Except.error (Raised.exception PyException.overflow), position) ∨
      ¬ Unprobeable pid ∧
        Script.play answers position (isPidAlive pid) =
          (Except.ok (foundAlive answers position pid),
            afterProbe position pid) := by
  rcases hpid with rfl | ⟨n, rfl⟩
  · right
    constructor
    · rintro ⟨n, hnull, _⟩
      cases hnull
    · rfl
  · rw [isPidAlive, isNumberAlive]
    by_cases hpos : n ≤ 0
    · right
      have hnone : probed (Json.int n) = none := by
        rw [probed, if_neg (by lia)]
      rw [if_pos hpos, foundAlive, afterProbe, hnone]
      constructor
      · rintro ⟨m, hm, hlarge⟩
        cases hm
        lia
      · rfl
    · rw [if_neg hpos]
      by_cases hlarge : n < 2147483648
      · right
        have hsome : probed (Json.int n) = some n := by
          rw [probed, if_pos (by lia)]
        rw [osKill, if_pos hlarge, Script.play_bind_ok (play_ask _ position),
          foundAlive, afterProbe, hsome]
        constructor
        · rintro ⟨m, hm, hover⟩
          cases hm
          lia
        · exact play_killResult _
      · left
        rw [osKill, if_neg hlarge]
        exact ⟨⟨n, rfl, by lia⟩, rfl⟩

theorem pollState_ends
    (hrecords : ObservesRecords answers interpreter dir session)
    (settled : Members -> Bool) {deadline : Rat} (k : Nat)
    (hclock : deadline ≤
      answers (position + 1 + 3 * k) SystemOp.monotonic) :
    forall looks, k < looks -> exists observed later,
      Script.play answers position
          (pollState interpreter dir session settled deadline looks) =
        (Except.ok observed, later) ∧
      forall record, observed = some record -> PlainRecord record := by
  induction k generalizing position with
  | zero =>
      intro looks hlooks
      obtain ⟨looks, rfl⟩ := Nat.exists_eq_succ_of_ne_zero
        (Nat.ne_of_gt hlooks)
      rw [pollState, Script.play_bind_ok (play_readState (hrecords position))]
      have hplain := recordIn_plain (hrecords position)
      split
      · exact ⟨_, _, rfl, hplain⟩
      · rw [Script.play_bind_ok (play_ask _ _), if_pos hclock]
        exact ⟨_, _, rfl, hplain⟩
  | succ k ih =>
      intro looks hlooks
      obtain ⟨looks, rfl⟩ := Nat.exists_eq_succ_of_ne_zero
        (show looks ≠ 0 by lia)
      rw [pollState, Script.play_bind_ok (play_readState (hrecords position))]
      have hplain := recordIn_plain (hrecords position)
      split
      · exact ⟨_, _, rfl, hplain⟩
      · rw [Script.play_bind_ok (play_ask _ _)]
        split
        · exact ⟨_, _, rfl, hplain⟩
        · rw [Script.play_bind_ok (play_ask _ _)]
          have hlater : position + 1 + 3 * (k + 1) =
              position + 1 + 1 + 1 + 1 + 3 * k := by lia
          rw [hlater] at hclock
          exact ih hclock looks (by lia)

theorem waitForState_ends
    (hrecords : ObservesRecords answers interpreter dir session)
    (settled : Members -> Bool) {timeout : Rat}
    (hclock : ClockPasses answers position timeout) :
    exists enough, forall looks, enough ≤ looks -> exists observed later,
      Script.play answers position
          (waitForState interpreter dir session settled timeout looks) =
        (Except.ok observed, later) ∧
      forall record, observed = some record -> PlainRecord record := by
  rcases hclock with ⟨k, hclock⟩
  refine ⟨k + 1, ?_⟩
  intro looks hlooks
  rw [waitForState, Script.play_bind_ok (play_ask _ position)]
  have hposition : position + 2 + 3 * k = position + 1 + 1 + 3 * k := by lia
  rw [hposition] at hclock
  exact pollState_ends hrecords settled k hclock looks hlooks

end Playing

/-!
## The verdict
-/

/-- The state of a record as the module reports it. -/
def stateOf (observed : Option Members) : Json :=
  getOr observed "state" (jsonText "unknown")

def InState (observed : Option Members) (state : SessionState) : Prop :=
  stateIs (stateOf observed) state.name = true

instance (observed : Option Members) (state : SessionState) :
    Decidable (InState observed state) :=
  inferInstanceAs (Decidable (_ = true))

def Ended (observed : Option Members) : Prop :=
  InState observed SessionState.detached ∨ InState observed SessionState.error

/-- The counters of the devices of a record add up. -/
def CountersSum (state : Option Members) : Prop :=
  exists totals, aggregateBytes state = Except.ok totals

/-- The record that a failure reports on. -/
def reportedRecord (observed : Option Members) (alive : Bool)
    (reread : Option Members) : Option Members :=
  if InState observed SessionState.error then observed
  else if alive then observed
  else reread

/-- A result exactly for an attached session; otherwise a failure that names the
session, calls for a new look exactly if the daemon lives and the session has
not ended, and else has the class of the record that it reports on. -/
inductive Verdict (session : String) (observed : Option Members) (alive : Bool)
    (reported : Option Members) : Except Raised ModuleResult -> Prop where
  | attached (result : ModuleResult)
      (hattached : InState observed SessionState.attached) :
      Verdict session observed alive reported (Except.ok result)
  | failed (result : FailResult)
      (hunattached : ¬ InState observed SessionState.attached)
      (hsession : result.sessionId = some session)
      (hindeterminate : result.indeterminate = true ↔
        alive = true ∧ ¬ Ended observed)
      (hclass : result.indeterminate = false ->
        (getOf reported "error_class").truthy = true ->
        result.errorClass = getOf reported "error_class") :
      Verdict session observed alive reported
        (Except.error (Raised.failJson result))

theorem not_verdict_exception {session : String} {observed : Option Members}
    {alive : Bool} {reported : Option Members} (e : PyException) :
    ¬ Verdict session observed alive reported
      (Except.error (Raised.exception e)) := by
  intro h
  cases h

/-- The observed record can be reported on; unless it settles the matter by
itself, its pid can be probed, and if the daemon is gone the record that is
read then can be reported on as well. -/
def Reportable (observed : Option Members) (alive : Bool)
    (reread : Option Members) : Prop :=
  CountersSum observed ∧
    (InState observed SessionState.attached ∨
      InState observed SessionState.error ∨
      ¬ Unprobeable (getOf observed "pid") ∧
        (alive = true ∨ CountersSum reread))

section Verdicts

variable {answers : Nat -> (o : SystemOp) -> SystemAnswer o}
variable {params : Params} {session endpoint : String}
variable {observed : Option Members} {fields : StatusFields}
variable {position : Nat}

theorem statusFields_cases (state : Option Members) :
    (exists fields, statusFields state = Except.ok fields ∧
        CountersSum state ∧ fields.sessionState = stateOf state ∧
        fields.error = getOf state "error") ∨
      exists e, statusFields state = Except.error e ∧
        ¬ CountersSum state := by
  unfold statusFields CountersSum
  cases hbytes : aggregateBytes state with
  | ok bytes => exact Or.inl ⟨_, rfl, ⟨bytes, rfl⟩, rfl, rfl⟩
  | error e =>
      refine Or.inr ⟨e, rfl, ?_⟩
      rintro ⟨totals, htotals⟩
      cases htotals

theorem errorClassOf_carried {state : Option Members}
    (h : (getOf state "error_class").truthy = true) :
    errorClassOf state = getOf state "error_class" := by
  rw [errorClassOf, Json.orElse, if_pos h]

theorem not_attached_of_error
    (h : InState observed SessionState.error) :
    ¬ InState observed SessionState.attached := by
  intro hattached
  unfold InState at h hattached
  cases hstate : stateOf observed with
  | str points =>
      rw [hstate, stateIs, decide_eq_true_eq] at h hattached
      exact absurd (h.symm.trans hattached) (by decide)
  | null | bool _ | int _ | float _ | arr _ | obj _ =>
      rw [hstate] at h
      cases h

theorem stateOf_text
    (h : forall record, observed = some record -> PlainRecord record) :
    exists points, stateOf observed = Json.str points := by
  cases observed with
  | none => exact ⟨jsonKey "unknown", rfl⟩
  | some record => exact (h record rfl).state

theorem pid_plain
    (h : forall record, observed = some record -> PlainRecord record) :
    getOf observed "pid" = Json.null ∨
      exists n, getOf observed "pid" = Json.int n := by
  cases observed with
  | none => exact Or.inl rfl
  | some record => exact (h record rfl).pid

theorem terminal_iff {points : List Nat}
    (h : stateOf observed = Json.str points) :
    exists terminal, inTerminalStates (stateOf observed) =
      Except.ok terminal ∧ (terminal = true ↔ Ended observed) := by
  unfold Ended InState
  rw [h]
  exact ⟨_, rfl, Bool.or_eq_true_iff⟩

theorem play_failExited {last : Option Members}
    (hread : Script.play answers position
      (readState params.interpreter params.runtimeDir session) =
        (Except.ok last, position + 1)) :
    let final := (last.filter fun members => members ≠ []).or observed
    CountersSum final ∧
        (exists result : FailResult, (Script.play answers position
            (failExited params session observed fields)) =
              (Except.error (Raised.failJson result), position + 1) ∧
            result.sessionId = some session ∧ result.indeterminate = false ∧
            result.errorClass = errorClassOf final) ∨
      ¬ CountersSum final ∧
        exists e, (Script.play answers position
          (failExited params session observed fields)) =
            (Except.error (Raised.exception e), position + 1) := by
  intro final
  rw [failExited, Script.play_bind_ok hread]
  simp only []
  rcases statusFields_cases final with ⟨found, hfound, hsum, _, _⟩ |
    ⟨e, herror, hnot⟩
  · left
    show CountersSum final ∧ exists result : FailResult, _
    rw [hfound]
    exact ⟨hsum, _, rfl, rfl, rfl, rfl⟩
  · right
    rw [herror]
    exact ⟨hnot, e, rfl⟩

theorem play_confirm_error {report : StatusFields -> ModuleResult}
    {raised : Raised} {later : Nat}
    (hfields : statusFields observed = Except.ok fields)
    (h : Script.play answers position
      (verdict params endpoint session observed fields) =
        (Except.error raised, later)) :
    (Script.play answers position
      (confirmAttach params endpoint session observed report)).1 =
        Except.error raised := by
  rw [confirmAttach, hfields]
  exact congrArg Prod.fst (Script.play_bind_error h)

theorem verdict_error (hstate : fields.sessionState = stateOf observed)
    (h : InState observed SessionState.error) :
    verdict params endpoint session observed fields =
      failJson
        { msg := reportedMessage fields.error
          errorClass := errorClassOf observed
          sessionId := some session
          fields := some fields } := by
  unfold InState at h
  rw [verdict, hstate, if_pos h]

theorem verdict_attached (hstate : fields.sessionState = stateOf observed)
    (h : InState observed SessionState.attached) :
    verdict params endpoint session observed fields = pure () := by
  have hfailed : ¬ InState observed SessionState.error :=
    fun hfailed => not_attached_of_error hfailed h
  unfold InState at h hfailed
  rw [verdict, hstate, if_neg hfailed, if_pos h]

section Unconfirmed

variable (hstate : fields.sessionState = stateOf observed)
variable (hfailed : ¬ InState observed SessionState.error)
variable (hattached : ¬ InState observed SessionState.attached)
variable {later : Nat}

include hstate hfailed hattached

theorem play_verdict_unprobed {raised : Raised}
    (h : Script.play answers position (isPidAlive (getOf observed "pid")) =
      (Except.error raised, later)) :
    Script.play answers position
        (verdict params endpoint session observed fields) =
      (Except.error raised, later) := by
  unfold InState at hfailed hattached
  rw [verdict, hstate, if_neg hfailed, if_neg hattached]
  exact Script.play_bind_error h

theorem play_verdict_exited
    (h : Script.play answers position (isPidAlive (getOf observed "pid")) =
      (Except.ok false, later)) :
    Script.play answers position
        (verdict params endpoint session observed fields) =
      Script.play answers later
        (failExited params session observed fields) := by
  unfold InState at hfailed hattached
  rw [verdict, hstate, if_neg hfailed, if_neg hattached,
    Script.play_bind_ok h]
  rfl

theorem play_verdict_alive {points : List Nat}
    (htext : stateOf observed = Json.str points)
    (h : Script.play answers position (isPidAlive (getOf observed "pid")) =
      (Except.ok true, later)) :
    exists result : FailResult,
      Script.play answers position
          (verdict params endpoint session observed fields) =
        (Except.error (Raised.failJson result), later) ∧
      result.sessionId = some session ∧
      (result.indeterminate = true ↔ ¬ Ended observed) ∧
      (result.indeterminate = false ->
        result.errorClass = errorClassOf observed) := by
  rcases terminal_iff htext with ⟨terminal, hterminal, hended⟩
  unfold InState at hfailed hattached
  rw [verdict, hstate, if_neg hfailed, if_neg hattached,
    Script.play_bind_ok h, if_pos rfl, hterminal]
  cases terminal with
  | true =>
      refine ⟨_, rfl, rfl, ?_, fun _ => rfl⟩
      exact iff_of_false Bool.false_ne_true fun hlive => hlive (hended.mp rfl)
  | false =>
      refine ⟨_, rfl, rfl, ?_, fun hfalse => by cases hfalse⟩
      exact iff_of_true rfl fun hnow => Bool.false_ne_true (hended.mpr hnow)

end Unconfirmed

section Confirming

variable {report : StatusFields -> ModuleResult}
variable (hfields : statusFields observed = Except.ok fields)
variable (hstate : fields.sessionState = stateOf observed)

include hfields hstate

theorem confirm_failed {alive : Bool} (reread : Option Members)
    (h : InState observed SessionState.error) :
    Verdict session observed alive (reportedRecord observed alive reread)
      (Script.play answers position
        (confirmAttach params endpoint session observed report)).1 := by
  rw [play_confirm_error hfields (by rw [verdict_error hstate h]; rfl)]
  apply Verdict.failed _ (not_attached_of_error h) rfl
  · exact iff_of_false Bool.false_ne_true fun hlive => hlive.2 (Or.inr h)
  · intro _ hcarried
    rw [reportedRecord, if_pos h] at hcarried ⊢
    exact errorClassOf_carried hcarried

theorem confirm_attached {alive : Bool} {reported : Option Members}
    (h : InState observed SessionState.attached) :
    Verdict session observed alive reported
      (Script.play answers position
        (confirmAttach params endpoint session observed report)).1 := by
  rw [confirmAttach, hfields]
  show Verdict _ _ _ _ (Script.play answers position
    (verdict params endpoint session observed fields >>= fun _ =>
      pure (report fields))).1
  rw [verdict_attached hstate h]
  exact Verdict.attached _ h

variable (hfailed : ¬ InState observed SessionState.error)
variable (hattached : ¬ InState observed SessionState.attached)
variable {later : Nat}

include hfailed hattached

theorem confirm_alive {points : List Nat} (reread : Option Members)
    (htext : stateOf observed = Json.str points)
    (h : Script.play answers position (isPidAlive (getOf observed "pid")) =
      (Except.ok true, later)) :
    Verdict session observed true (reportedRecord observed true reread)
      (Script.play answers position
        (confirmAttach params endpoint session observed report)).1 := by
  rcases play_verdict_alive hstate hfailed hattached htext h with
    ⟨result, hresult, hsession, hpending, hclass⟩
  rw [play_confirm_error hfields hresult]
  apply Verdict.failed _ hattached hsession
  · rw [hpending]
    exact (and_iff_right rfl).symm
  · intro hdefinite hcarried
    rw [reportedRecord, if_neg hfailed, if_pos rfl] at hcarried ⊢
    rw [hclass hdefinite]
    exact errorClassOf_carried hcarried

theorem confirm_exited_iff {last : Option Members}
    (hread : Script.play answers later
      (readState params.interpreter params.runtimeDir session) =
        (Except.ok last, later + 1))
    (h : Script.play answers position (isPidAlive (getOf observed "pid")) =
      (Except.ok false, later)) :
    let final := (last.filter fun members => members ≠ []).or observed
    Verdict session observed false (reportedRecord observed false final)
        (Script.play answers position
          (confirmAttach params endpoint session observed report)).1 ↔
      CountersSum final := by
  intro final
  have hexited := @play_verdict_exited answers params session endpoint
    observed fields position hstate hfailed hattached later h
  rcases play_failExited hread with
    ⟨hsums, result, hresult, hsession, hdefinite, hclass⟩ | ⟨hnot, e, hresult⟩
  · rw [play_confirm_error hfields (hexited.trans hresult)]
    refine iff_of_true (Verdict.failed _ hattached hsession ?_ ?_) hsums
    · rw [hdefinite]
      exact iff_of_false Bool.false_ne_true
        fun hlive => Bool.false_ne_true hlive.1
    · intro _ hcarried
      rw [reportedRecord, if_neg hfailed, if_neg Bool.false_ne_true]
        at hcarried ⊢
      rw [hclass]
      exact errorClassOf_carried hcarried
  · rw [play_confirm_error hfields (hexited.trans hresult)]
    exact iff_of_false (not_verdict_exception _) hnot

end Confirming

theorem confirmAttach_iff {report : StatusFields -> ModuleResult}
    (hrecords : ObservesRecords answers params.interpreter
      params.runtimeDir session)
    (hplain : forall record, observed = some record -> PlainRecord record) :
    Verdict session observed
        (foundAlive answers position (getOf observed "pid"))
        (reportedRecord observed
          (foundAlive answers position (getOf observed "pid"))
          (rereadRecord answers params session position observed))
        (Script.play answers position
          (confirmAttach params endpoint session observed report)).1 ↔
      Reportable observed
        (foundAlive answers position (getOf observed "pid"))
        (rereadRecord answers params session position observed) := by
  rcases statusFields_cases observed with
    ⟨fields, hfields, hsum, hstate, _⟩ | ⟨e, hfields, hnot⟩
  case inr =>
    rw [confirmAttach, hfields]
    exact iff_of_false (not_verdict_exception _)
      fun hreportable => hnot hreportable.1
  by_cases hfailed : InState observed SessionState.error
  · exact iff_of_true (confirm_failed hfields hstate _ hfailed)
      ⟨hsum, Or.inr (Or.inl hfailed)⟩
  by_cases hattached : InState observed SessionState.attached
  · exact iff_of_true (confirm_attached hfields hstate hattached)
      ⟨hsum, Or.inl hattached⟩
  rw [Reportable, and_iff_right hsum, or_iff_right hattached,
    or_iff_right hfailed]
  rcases play_isPidAlive (pid_plain hplain) with ⟨hover, hplay⟩ |
    ⟨hprobeable, hplay⟩
  · rw [play_confirm_error hfields
      (play_verdict_unprobed hstate hfailed hattached hplay)]
    exact iff_of_false (not_verdict_exception _) fun hnow => hnow.1 hover
  rw [and_iff_right hprobeable]
  cases halive : foundAlive answers position (getOf observed "pid") with
  | true =>
      rw [halive] at hplay
      rcases stateOf_text hplain with ⟨points, hpoints⟩
      exact iff_of_true
        (confirm_alive hfields hstate hfailed hattached _ hpoints hplay)
        (Or.inl rfl)
  | false =>
      rw [halive] at hplay
      have hread := play_readState
        (hrecords (afterProbe position (getOf observed "pid")))
      rw [or_iff_right Bool.false_ne_true]
      exact confirm_exited_iff hfields hstate hfailed hattached hread hplay

/-!
## From the spawn to the verdict
-/

section Settling

variable (answers : Nat -> (o : SystemOp) -> SystemAnswer o)
variable (params : Params) (session : String) (spawned looks : Nat)

/-- What the wait of an attach returns, and where the attach stands then; there
is no wait if `float` does not take the timeout. -/
def Waited (observed : Option Members) (later : Nat) : Prop :=
  exists timeout, floatOf params.attachTimeout = Except.ok timeout ∧
    Script.play answers spawned
        (waitForState params.interpreter params.runtimeDir session settled
          timeout looks) = (Except.ok observed, later)

/-- The result of an attach is a verdict, and one on the record that its wait
has returned. -/
structure Settles (result : Except Raised ModuleResult) : Prop where
  verdict : exists observed alive reported,
    Verdict session observed alive reported result
  waited : forall observed later,
    Waited answers params session spawned looks observed later ->
    Verdict session observed
      (foundAlive answers later (getOf observed "pid"))
      (reportedRecord observed
        (foundAlive answers later (getOf observed "pid"))
        (rereadRecord answers params session later observed)) result

/-- `float` takes the timeout, and the attach can report on what its wait
returns. -/
structure CanSettle : Prop where
  timeout : FitsDouble params.attachTimeout
  reportable : forall observed later,
    Waited answers params session spawned looks observed later ->
    Reportable observed (foundAlive answers later (getOf observed "pid"))
      (rereadRecord answers params session later observed)

end Settling

theorem waited_unique {spawned looks later later' : Nat}
    {observed' : Option Members}
    (h : Waited answers params session spawned looks observed later)
    (h' : Waited answers params session spawned looks observed' later') :
    observed' = observed ∧ later' = later := by
  rcases h with ⟨timeout, htimeout, hwait⟩
  rcases h' with ⟨timeout', htimeout', hwait'⟩
  cases htimeout.symm.trans htimeout'
  cases hwait.symm.trans hwait'
  exact ⟨rfl, rfl⟩

theorem startSession_overflow {looks : Nat} {port : Int}
    {specs : List MediaSpec} {existing : Option Members}
    {recoveredStale : Bool} {pid spawned : Nat}
    (hspawn : Script.play answers position
      (spawnFor params session port specs) = (Except.ok pid, spawned))
    (hover : floatOf params.attachTimeout =
      Except.error PyException.overflow) :
    (Script.play answers position
      (startSession looks params endpoint session port specs existing
        recoveredStale)).1 =
      Except.error (Raised.exception PyException.overflow) := by
  rcases startSession_eq looks params endpoint session port specs existing
    recoveredStale with ⟨report, hstart⟩
  rw [hstart, Script.play_bind_ok hspawn, hover]
  rfl

theorem settles_iff_of_wait {looks : Nat} {port : Int}
    {specs : List MediaSpec} {existing : Option Members}
    {recoveredStale : Bool} {pid spawned later : Nat} {timeout : Rat}
    (hspawn : Script.play answers position
      (spawnFor params session port specs) = (Except.ok pid, spawned))
    (hrecords : ObservesRecords answers params.interpreter params.runtimeDir
      session)
    (htimeout : floatOf params.attachTimeout = Except.ok timeout)
    (hwait : Script.play answers spawned
      (waitForState params.interpreter params.runtimeDir session settled
        timeout looks) = (Except.ok observed, later))
    (hplain : forall record, observed = some record -> PlainRecord record) :
    Settles answers params session spawned looks
        (Script.play answers position
          (startSession looks params endpoint session port specs existing
            recoveredStale)).1 ↔
      CanSettle answers params session spawned looks := by
  have hself : Waited answers params session spawned looks observed later :=
    ⟨timeout, htimeout, hwait⟩
  have hfits := fitsDouble_iff.mpr ⟨timeout, htimeout⟩
  rcases startSession_eq looks params endpoint session port specs existing
    recoveredStale with ⟨report, hstart⟩
  have hconfirm := @confirmAttach_iff answers params session endpoint observed
    later (report observed) hrecords hplain
  have hconverted : Script.play answers spawned
      (ofResult (floatOf params.attachTimeout)) = (Except.ok timeout, spawned) :=
    by rw [htimeout]; rfl
  rw [hstart, Script.play_bind_ok hspawn, Script.play_bind_ok hconverted,
    Script.play_bind_ok hwait]
  constructor
  · intro h
    refine ⟨hfits, ?_⟩
    rintro observed' later' hwait'
    rcases waited_unique hself hwait' with ⟨rfl, rfl⟩
    exact hconfirm.mp (h.waited _ _ hself)
  · intro h
    have hverdict := hconfirm.mpr (h.reportable _ _ hself)
    refine ⟨⟨_, _, _, hverdict⟩, ?_⟩
    rintro observed' later' hwait'
    rcases waited_unique hself hwait' with ⟨rfl, rfl⟩
    exact hverdict

/-- Once the session is spawned, an attach that has a clock comes to its verdict
on the record that the wait returns exactly if `float` takes its timeout and it
can report on what it finds. -/
theorem attach_verdict_iff {port : Int} {specs : List MediaSpec}
    {existing : Option Members} {recoveredStale : Bool} {pid spawned : Nat}
    (hspawn : Script.play answers position
      (spawnFor params session port specs) = (Except.ok pid, spawned))
    (hrecords : ObservesRecords answers params.interpreter params.runtimeDir
      session)
    (hclock : forall timeout, floatOf params.attachTimeout = Except.ok timeout ->
      ClockPasses answers spawned timeout) :
    exists enough, forall looks, enough ≤ looks ->
      (FitsDouble params.attachTimeout -> exists observed later,
        Waited answers params session spawned looks observed later) ∧
      (Settles answers params session spawned looks
          (Script.play answers position
            (startSession looks params endpoint session port specs existing
              recoveredStale)).1 ↔
        CanSettle answers params session spawned looks) := by
  rcases floatOf_cases params.attachTimeout with ⟨_, timeout, htimeout⟩ |
    ⟨hlarge, hover⟩
  · rcases waitForState_ends hrecords settled (hclock timeout htimeout) with
      ⟨enough, hends⟩
    refine ⟨enough, ?_⟩
    intro looks hlooks
    rcases hends looks hlooks with ⟨observed, later, hwait, hplain⟩
    refine ⟨fun _ => ⟨observed, later, timeout, htimeout, hwait⟩, ?_⟩
    exact settles_iff_of_wait hspawn hrecords htimeout hwait hplain
  · refine ⟨0, ?_⟩
    intro looks _
    refine ⟨fun hfits => absurd hfits hlarge, ?_⟩
    rw [startSession_overflow hspawn hover]
    refine iff_of_false ?_ fun h => hlarge h.timeout
    rintro ⟨⟨_, _, _, hverdict⟩, _⟩
    exact not_verdict_exception _ hverdict

end Verdicts

/-!
## A record that stays
-/

/-- A session whose state file holds this record from the spawn on, on a host
where every process is found. -/
def showsRecord (record : StateRecord) (position : Nat) :
    (o : SystemOp) -> SystemAnswer o
  | SystemOp.readFile _ => Except.ok (stateBytes record)
  | SystemOp.unlink _ => Except.ok ()
  | SystemOp.createExclusive _ _ => CreateResult.exists
  | SystemOp.kill _ _ => KillResult.delivered
  | SystemOp.files => emptyDisk
  | SystemOp.fork _ => ForkResult.started 100
  | SystemOp.monotonic => 10 * position
  | SystemOp.sleep _ => ()
  | SystemOp.now => "t"
  | SystemOp.uuid => "s"
  | SystemOp.warn _ => ()

theorem observes_shown {record : StateRecord} (h : record.Dumped)
    (interpreter : Interpreter) (dir session : String) :
    ObservesRecords (showsRecord record) interpreter dir session := by
  intro position
  exact Or.inr ⟨recordMembers record, parseState_stateBytes h interpreter,
    ⟨_, rfl⟩, Or.inr ⟨_, rfl⟩⟩

theorem deadline_shown (record : StateRecord) (position : Nat) :
    showsRecord record position SystemOp.monotonic + 10 ≤
      showsRecord record (position + 2) SystemOp.monotonic := by
  show 10 * (position : Rat) + 10 ≤ 10 * ((position + 2 : Nat) : Rat)
  push_cast
  linarith

theorem readState_shown {record : StateRecord} (h : record.Dumped)
    (interpreter : Interpreter) (position : Nat) (dir session : String) :
    Script.play (showsRecord record) position
        (readState interpreter dir session) =
      (Except.ok (some (recordMembers record)), position + 1) := by
  rw [play_readState (observes_shown h interpreter dir session position)]
  show (Except.ok (recordIn interpreter (Except.ok (stateBytes record))), _) = _
  rw [recordIn, parseState_stateBytes h]

theorem spawnFor_shown (record : StateRecord) :
    Script.play (showsRecord record) 0
        (spawnFor againParams "s" 16994 againConfig.devices) =
      (Except.ok 100, 3) := by
  rw [spawnFor, againConfig_built]
  rfl

theorem againParams_timeout :
    floatOf againParams.attachTimeout = Except.ok 10 :=
  floatOf_exact (by decide)

theorem clock_shown (record : StateRecord) (timeout : Rat)
    (h : floatOf againParams.attachTimeout = Except.ok timeout) :
    ClockPasses (showsRecord record) 3 timeout := by
  cases againParams_timeout.symm.trans h
  exact ⟨0, deadline_shown record 3⟩

theorem wait_shown {record : StateRecord} (h : record.Dumped)
    (hpending : settled (recordMembers record) = false) (looks : Nat) :
    Waited (showsRecord record) againParams "s" 3 (looks + 1)
      (some (recordMembers record)) 6 := by
  have hany : (some (recordMembers record)).any settled = false := hpending
  refine ⟨10, againParams_timeout, ?_⟩
  rw [waitForState, Script.play_bind_ok (play_ask _ _), pollState,
    Script.play_bind_ok (readState_shown h _ _ _ _), hany,
    if_neg Bool.false_ne_true, Script.play_bind_ok (play_ask _ _),
    if_pos (deadline_shown record 3)]
  rfl

/-- The daemon has been forked and says nothing more. -/
def forkedRecord : StateRecord := initialState "s" "amt:16994" 100 "t"

theorem forkedRecord_dumped : forkedRecord.Dumped :=
  initialState_dumped (by decide) _ _ _

/-- The attach of a daemon that says nothing ends in a verdict. -/
theorem attach_verdict_iff_forked : exists looks,
    Waited (showsRecord forkedRecord) againParams "s" 3 looks
        (some (recordMembers forkedRecord)) 6 ∧
      Settles (showsRecord forkedRecord) againParams "s" 3 looks
        (Script.play (showsRecord forkedRecord) 0
          (startSession looks againParams "amt:16994" "s" 16994
            againConfig.devices none false)).1 := by
  rcases @attach_verdict_iff (showsRecord forkedRecord) againParams "s"
    "amt:16994" 0 16994 againConfig.devices none false 100 3
    (spawnFor_shown _) (observes_shown forkedRecord_dumped _ _ _)
    (clock_shown _) with ⟨enough, h⟩
  have hwait := wait_shown forkedRecord_dumped rfl enough
  refine ⟨enough + 1, hwait, (h (enough + 1) (Nat.le_succ _)).2.mpr ?_⟩
  refine ⟨fitsDouble_iff.mpr ⟨10, againParams_timeout⟩, ?_⟩
  intro observed later hlater
  rcases waited_unique hwait hlater with ⟨rfl, rfl⟩
  have halive : foundAlive (showsRecord forkedRecord) 6
      (getOf (some (recordMembers forkedRecord)) "pid") = true := rfl
  refine ⟨⟨_, rfl⟩, Or.inr (Or.inr ⟨?_, Or.inl halive⟩)⟩
  rintro ⟨n, hn, hlarge⟩
  have hpid : n = 100 := (Json.int.inj hn).symm
  lia

/-- The daemon has not reported that it is attached, and its pid is larger than
any that the operating system takes. -/
def largePidRecord : StateRecord :=
  { initialState "s" "amt:16994" 2147483648 "t" with
    state := SessionState.connecting }

theorem largePidRecord_dumped : largePidRecord.Dumped where
  pid := by decide
  devices := fun entry h => by cases h

theorem largePid_unreportable (alive : Bool) (reread : Option Members) :
    ¬ Reportable (some (recordMembers largePidRecord)) alive reread := by
  rintro ⟨_, hnow | hnow | ⟨hprobeable, _⟩⟩
  · exact absurd hnow (by decide)
  · exact absurd hnow (by decide)
  · exact hprobeable ⟨2147483648, rfl, le_refl _⟩

/-- A session that shows a large pid ends an attach with an exception instead
of a verdict. -/
theorem large_pid_without_verdict :
    ¬ forall (answers : Nat -> (o : SystemOp) -> SystemAnswer o)
      (params : Params) (session endpoint : String) (port : Int)
      (specs : List MediaSpec) (position pid spawned : Nat),
      Script.play answers position (spawnFor params session port specs) =
        (Except.ok pid, spawned) ->
      ObservesRecords answers params.interpreter params.runtimeDir session ->
      (forall timeout, floatOf params.attachTimeout = Except.ok timeout ->
        ClockPasses answers spawned timeout) ->
      exists enough, forall looks, enough ≤ looks ->
        Settles answers params session spawned looks
          (Script.play answers position
            (startSession looks params endpoint session port specs none
              false)).1 := by
  intro h
  rcases h (showsRecord largePidRecord) againParams "s" "amt:16994" 16994
    againConfig.devices 0 100 3 (spawnFor_shown _)
    (observes_shown largePidRecord_dumped _ _ _) (clock_shown _) with
    ⟨enough, h⟩
  have hwait := wait_shown largePidRecord_dumped rfl enough
  rcases hwait with ⟨timeout, htimeout, hplay⟩
  have hplain : forall record,
      some (recordMembers largePidRecord) = some record ->
        PlainRecord record := by
    intro record hrecord
    injection hrecord with hrecord
    rw [← hrecord]
    exact ⟨⟨_, rfl⟩, Or.inr ⟨_, rfl⟩⟩
  have hsettled := (settles_iff_of_wait (spawnFor_shown largePidRecord)
    (observes_shown largePidRecord_dumped _ _ _) htimeout hplay hplain).mp
    (h (enough + 1) (Nat.le_succ _))
  exact largePid_unreportable _ _
    (hsettled.reportable _ _ ⟨timeout, htimeout, hplay⟩)

end AmtMedia
end IntelAmt
