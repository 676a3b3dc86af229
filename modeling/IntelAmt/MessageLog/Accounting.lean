import IntelAmt.MessageLog.Endings

/-!
# What a complete read accounts for

The elements that the firmware has delivered, against the records and the
empty slots of the read.
-/

namespace IntelAmt
namespace MessageLog

open Foundation Wsman Models AmtLogClear

/-!
## What is delivered
-/

/-- The output parameters of a `GetRecords` call. -/
def recordsOutput (client : Client) : Exchange WsmanAnswer -> Option Instance
  | ⟨WsmanOp.post request, result⟩ =>
      if request.action = messageLogUri ++ "/" ++ "GetRecords" then
        outputOf client "GetRecords" result
      else none
  | _ => none

/-- The output parameters of the `GetRecords` calls of a transcript. -/
def outputsOf (client : Client) (log : Log) : List Instance :=
  log.filterMap (recordsOutput client)

/-- The elements of all `RecordArray`s. -/
def allElements (outputs : List Instance) : List Value :=
  outputs.flatMap recordElements

/-- Each element is one of the records or one of the empty slots, in the order
in which they are delivered. -/
def Accounted (elements : List Value) (read : MessageLogRead) : Prop :=
  exists texts : List String,
    elements.map (fun element => optionalStr (some element)) =
        texts.map some ∧
      read.records = (texts.map decodeRecord).filter
        (fun record => !isEmptyRecordSlot record) ∧
      read.emptySlots = (texts.map decodeRecord).countP isEmptyRecordSlot

/-- The firmware has said that there are no more records. -/
def lastOfAll (output : Instance) : Bool :=
  extractReturnValue output = 3 ||
    extractReturnValue output = 0 && truthy (output.lookup "NoMoreRecords")

def SaysAll (outputs : List Instance) : Prop :=
  exists output, outputs.getLast? = some output ∧ lastOfAll output = true

/-- Every element is a text that is not blank, there are no more of them than
may be read, and none come with a return value other than zero. -/
structure Lossless (maxRecords : Int) (outputs : List Instance) : Prop where
  texts : forall element, element ∈ allElements outputs ->
    (optionalStr (some element)).isSome = true
  count : (allElements outputs).length ≤ maxRecords.toNat
  returned : forall output, output ∈ outputs ->
    extractReturnValue output ≠ 0 -> recordElements output = []

/-!
## What is kept
-/

/-- The texts that are taken from the answers, as many as there is room for. -/
def keptTexts (room : Nat) (outputs : List Instance) : List String :=
  ((outputs.filter fun output => extractReturnValue output = 0).flatMap
    recordArray).take room

theorem keptTexts_none (room : Nat) : keptTexts room [] = [] :=
  List.take_nil

theorem keptTexts_zero {output : Instance}
    (hzero : extractReturnValue output = 0) (room : Nat)
    (rest : List Instance) :
    keptTexts room (output :: rest) =
      (recordArray output).take room ++
        keptTexts (room - (recordArray output).length) rest := by
  rw [keptTexts, List.filter_cons_of_pos (by simpa using hzero),
    List.flatMap_cons, List.take_append]
  rfl

theorem keptTexts_nonzero {output : Instance}
    (hnonzero : extractReturnValue output ≠ 0) (room : Nat)
    (rest : List Instance) :
    keptTexts room (output :: rest) = keptTexts room rest := by
  rw [keptTexts, List.filter_cons_of_neg (by simpa using hnonzero)]
  rfl

theorem foldl_keep (batch : List String) (reading : Reading) :
    (batch.foldl Reading.keep reading).records = reading.records ++
        (batch.map decodeRecord).filter
          (fun record => !isEmptyRecordSlot record) ∧
      (batch.foldl Reading.keep reading).emptySlots = reading.emptySlots +
        (batch.map decodeRecord).countP isEmptyRecordSlot := by
  induction batch generalizing reading with
  | nil => exact ⟨(List.append_nil _).symm, rfl⟩
  | cons item rest ih =>
      rw [List.foldl_cons]
      rcases ih (reading.keep item) with ⟨hrecords, hslots⟩
      rw [hrecords, hslots, Reading.keep]
      cases hempty : isEmptyRecordSlot (decodeRecord item) with
      | true =>
          simp [hempty]
          lia
      | false => simp [hempty]

/-- What a read has made of the answers that it was given from some point
on. -/
structure Reads (maxRecords : Int) (reading : Reading)
    (outputs : List Instance) (read : MessageLogRead) : Prop where
  records : read.records = reading.records ++
    ((keptTexts (maxRecords - reading.consumed).toNat outputs).map
      decodeRecord).filter (fun record => !isEmptyRecordSlot record)
  emptySlots : read.emptySlots = reading.emptySlots +
    ((keptTexts (maxRecords - reading.consumed).toNat outputs).map
      decodeRecord).countP isEmptyRecordSlot
  complete : read.complete = true ↔ SaysAll outputs
  truncated : read.complete = true -> read.truncated = false

theorem saysAll_one (output : Instance) :
    SaysAll [output] ↔ lastOfAll output = true := by
  constructor
  · intro hsays
    rcases hsays with ⟨last, hlast, hall⟩
    cases hlast
    exact hall
  · intro hall
    exact ⟨output, rfl, hall⟩

theorem not_saysAll_none : ¬ SaysAll [] := by
  intro hsays
  rcases hsays with ⟨_, hlast, _⟩
  cases hlast

theorem saysAll_more {output : Instance} (h : lastOfAll output = false)
    (rest : List Instance) : SaysAll (output :: rest) ↔ SaysAll rest := by
  cases rest with
  | nil =>
      rw [saysAll_one, h]
      exact iff_of_false Bool.false_ne_true not_saysAll_none
  | cons next rest =>
      rw [SaysAll, List.getLast?_cons_cons]
      rfl

section Rounds

variable {maxRecords : Int} {reading : Reading}
variable {properties : MessageLogProperties}

theorem lastOfAll_zero {output : Instance}
    (hzero : extractReturnValue output = 0) :
    lastOfAll output = truthy (output.lookup "NoMoreRecords") := by
  rw [lastOfAll, hzero]
  rfl

theorem lastOfAll_nonzero {output : Instance}
    (hnonzero : extractReturnValue output ≠ 0) :
    lastOfAll output = decide (extractReturnValue output = 3) := by
  rw [lastOfAll, decide_eq_false hnonzero, Bool.false_and, Bool.or_false]

theorem reads_full :
    Reads maxRecords reading []
      (readOf properties StopReason.maxRecords true false reading) := by
  constructor
  · rw [keptTexts_none]
    exact (List.append_nil _).symm
  · rw [keptTexts_none]
    rfl
  · exact iff_of_false Bool.false_ne_true not_saysAll_none
  · exact fun h => nomatch h

theorem reads_tolerated {output : Instance}
    (hnonzero : extractReturnValue output ≠ 0) (reason : StopReason) :
    Reads maxRecords reading [output]
      (readOf properties reason false (extractReturnValue output = 3)
        { reading with batches := reading.batches + 1 }) := by
  constructor
  · rw [keptTexts_nonzero hnonzero, keptTexts_none]
    exact (List.append_nil _).symm
  · rw [keptTexts_nonzero hnonzero, keptTexts_none]
    rfl
  · rw [saysAll_one, lastOfAll_nonzero hnonzero]
    rfl
  · exact fun _ => rfl

theorem reads_stopped {output : Instance}
    (hzero : extractReturnValue output = 0) (reason : StopReason) :
    Reads maxRecords reading [output]
      (readOf properties reason false
        (truthy (output.lookup "NoMoreRecords"))
        (Reading.take { reading with batches := reading.batches + 1 }
          maxRecords output)) := by
  constructor
  · rw [keptTexts_zero hzero, keptTexts_none, List.append_nil]
    exact (foldl_keep _ _).1
  · rw [keptTexts_zero hzero, keptTexts_none, List.append_nil]
    exact (foldl_keep _ _).2
  · rw [saysAll_one, lastOfAll_zero hzero]
    rfl
  · exact fun _ => rfl

theorem Reads.more {output : Instance} {identifier : Int}
    {outputs : List Instance} {read : MessageLogRead}
    (hzero : extractReturnValue output = 0)
    (hnext : nextIdentifier output = some identifier)
    (h : Reads maxRecords (reading.advance maxRecords output identifier)
      outputs read) :
    Reads maxRecords reading (output :: outputs) read := by
  have hmore : truthy (output.lookup "NoMoreRecords") = false := by
    rw [nextIdentifier] at hnext
    cases hlast : truthy (output.lookup "NoMoreRecords") with
    | true =>
        rw [hlast] at hnext
        cases hnext
    | false => rfl
  have hroom : (maxRecords -
        (reading.advance maxRecords output identifier).consumed).toNat =
      (maxRecords - reading.consumed).toNat - (recordArray output).length := by
    have hconsumed :
        (reading.advance maxRecords output identifier).consumed =
          reading.consumed + min (maxRecords - reading.consumed).toNat
            (recordArray output).length :=
      take_consumed _ maxRecords output
    rw [hconsumed]
    lia
  have hadvance :
      (reading.advance maxRecords output identifier).records =
          reading.records ++
            (((recordArray output).take
              (maxRecords - reading.consumed).toNat).map decodeRecord).filter
                (fun record => !isEmptyRecordSlot record) ∧
        (reading.advance maxRecords output identifier).emptySlots =
          reading.emptySlots +
            (((recordArray output).take
              (maxRecords - reading.consumed).toNat).map decodeRecord).countP
                isEmptyRecordSlot :=
    foldl_keep _ _
  constructor
  · rw [h.records, hadvance.1, hroom, keptTexts_zero hzero, List.map_append,
      List.filter_append, List.append_assoc]
  · rw [h.emptySlots, hadvance.2, hroom, keptTexts_zero hzero,
      List.map_append, List.countP_append, Nat.add_assoc]
  · rw [saysAll_more]
    · exact h.complete
    · rw [lastOfAll_zero hzero]
      exact hmore
  · exact h.truncated

variable {client : Client} {batchSize : Int} {rounds : Nat} {log : Log}

theorem outputsOf_append (first rest : Log) :
    outputsOf client (first ++ rest) =
      outputsOf client first ++ outputsOf client rest :=
  List.filterMap_append

theorem outputsOf_call {request : Request} {result : PostResult}
    {output : Instance}
    (haction : request.action = messageLogUri ++ "/" ++ "GetRecords")
    (hgiven : outputOf client "GetRecords" result = some output) :
    outputsOf client (⟨WsmanOp.post request, result⟩ :: log) =
      output :: outputsOf client log := by
  apply List.filterMap_cons_some
  rw [recordsOutput, if_pos haction]
  exact hgiven

theorem readUpTo_reads {read : MessageLogRead}
    (h : Script.After
      (readUpTo client properties maxRecords batchSize rounds reading) log
      (Script.returned read)) :
    Reads maxRecords reading (outputsOf client log) read := by
  induction rounds generalizing reading log with
  | zero =>
      rw [readUpTo] at h
      split at h
      · rcases Script.after_returned h with ⟨hlog, hread⟩
        cases hread
        rw [hlog]
        exact reads_full
      · cases (Script.after_raised h).2
  | succ rounds ih =>
      rw [readUpTo] at h
      split at h
      · rcases Script.after_returned h with ⟨hlog, hread⟩
        cases hread
        rw [hlog]
        exact reads_full
      · dsimp only at h
        rcases getRecords_call reading.identifier
            (min (min batchSize (maxRecords - reading.consumed))
              maxReadRecords) with
          ⟨request, haction, hcall⟩
        rw [hcall, Script.call_bind] at h
        rcases Script.after_call h with ⟨_, hread⟩ | ⟨result, rest, hlog, hrest⟩
        · cases hread
        · rw [hlog]
          have hjudged : Judged client "GetRecords" [2, 3] result
              (judged client "GetRecords" [2, 3] result) :=
            judged_cases [2, 3] result
          revert hrest hjudged
          generalize judged client "GetRecords" [2, 3] result = x
          intro hrest hjudged
          cases hjudged with
          | failed e _ _ => cases (Script.after_raised hrest).2
          | tolerated output hgiven hnonzero hknown =>
              rw [outputsOf_call haction hgiven]
              rcases takeBatch_tolerated hknown with ⟨reason, htake⟩
              rw [Script.returned_bind] at hrest
              dsimp only at hrest
              rw [htake] at hrest
              rcases Script.after_returned hrest with ⟨hnil, hread⟩
              cases hread
              rw [hnil]
              exact reads_tolerated hnonzero reason
          | usable output hgiven hzero =>
              rw [outputsOf_call haction hgiven]
              rw [Script.returned_bind] at hrest
              dsimp only at hrest
              rcases takeBatch_zero maxRecords reading output with
                ⟨reason, htake, _⟩ | ⟨identifier, hnext, _, htake⟩
              · rw [htake] at hrest
                rcases Script.after_returned hrest with ⟨hnil, hread⟩
                cases hread
                rw [hnil]
                exact reads_stopped hzero reason
              · rw [htake] at hrest
                exact (ih hrest).more hzero hnext

end Rounds

/-!
## The read
-/

section Read

variable {client : Client} {maxRecords batchSize : Int} {pulls rounds : Nat}
variable {log : Log}

theorem outputsOf_reading
    (h : forall exchange, exchange ∈ log -> Wsman.Reading exchange.1) :
    outputsOf client log = [] := by
  apply List.filterMap_eq_nil_iff.mpr
  intro exchange hmem
  have hreading := h exchange hmem
  rcases exchange with ⟨o, result⟩
  cases o with
  | post request =>
      apply if_neg
      intro haction
      have hreads : request.reads = true := hreading
      rw [Request.reads, haction] at hreads
      revert hreads
      decide +kernel
  | sleep _ => rfl
  | connect _ _ => rfl

theorem positionToFirstRecord_silent {answer : Int × Int}
    (h : Script.After (positionToFirstRecord client) log
      (Script.returned answer)) : outputsOf client log = [] := by
  rcases positionToFirstRecord_call client with ⟨request, haction, hcall⟩
  rw [hcall] at h
  rcases Script.after_call h with ⟨_, hanswer⟩ | ⟨result, rest, hlog, hrest⟩
  · cases hanswer
  · have hnone : recordsOutput client ⟨WsmanOp.post request, result⟩ = none := by
      apply if_neg
      rw [haction]
      decide +kernel
    have hjudged : Judged client "PositionToFirstRecord" [1, 2] result
        (judged client "PositionToFirstRecord" [1, 2] result) :=
      judged_cases [1, 2] result
    have hnil : rest = [] := by
      revert hrest hjudged
      generalize judged client "PositionToFirstRecord" [1, 2] result = x
      intro hrest hjudged
      cases hjudged with
      | failed e _ _ => exact (Script.after_raised hrest).1
      | usable output _ _ => exact (Script.after_returned hrest).1
      | tolerated output _ _ _ =>
          rw [Script.returned_bind] at hrest
          split at hrest
          · exact (Script.after_raised hrest).1
          · exact (Script.after_returned hrest).1
    rw [hlog, hnil, outputsOf, List.filterMap_cons_none hnone]
    rfl

theorem readRecords_reads {read : MessageLogRead}
    (h : Script.After (readRecords client pulls rounds maxRecords batchSize)
      log (Script.returned read)) :
    (outputsOf client log = [] ∧ read.records = [] ∧ read.emptySlots = 0) ∨
      exists identifier, Reads maxRecords { identifier := identifier }
        (outputsOf client log) read := by
  rcases Script.after_bind_returned h with
    ⟨first, behind, properties, hlog, hproperties, hbehind⟩
  rcases Script.after_bind_returned hbehind with
    ⟨second, third, answer, hsplit, hposition, hloop⟩
  have hfirst : outputsOf client first = [] :=
    outputsOf_reading (Script.after_uses getLogProperties_reads hproperties)
  have houtputs : outputsOf client log = outputsOf client third := by
    rw [hlog, hsplit, outputsOf_append, outputsOf_append, hfirst,
      positionToFirstRecord_silent hposition]
    rfl
  rw [houtputs]
  dsimp only at hloop
  split at hloop
  · rcases Script.after_returned hloop with ⟨hnil, hread⟩
    cases hread
    rw [hnil]
    exact Or.inl ⟨rfl, rfl, rfl⟩
  · exact Or.inr ⟨_, readUpTo_reads hloop⟩

end Read

/-!
## Elements and texts
-/

/-- The text of an element. -/
def textOf (element : Value) : Option String := optionalStr (some element)

theorem flatMap_recordArray (outputs : List Instance) :
    outputs.flatMap recordArray =
      (allElements outputs).filterMap textOf := by
  rw [allElements, List.filterMap_flatMap]
  rfl

theorem filterMap_textOf {elements : List Value}
    (h : forall element, element ∈ elements ->
      (textOf element).isSome = true) :
    elements.map textOf = (elements.filterMap textOf).map some := by
  induction elements with
  | nil => rfl
  | cons element rest ih =>
      rcases Option.isSome_iff_exists.mp
          (h element List.mem_cons_self) with ⟨text, htext⟩
      rw [List.map_cons, List.filterMap_cons_some htext, List.map_cons,
        htext, ih fun other hmem => h other (List.mem_cons_of_mem _ hmem)]

theorem length_shown (texts : List String) :
    ((texts.map decodeRecord).filter
          (fun record => !isEmptyRecordSlot record)).length +
        (texts.map decodeRecord).countP isEmptyRecordSlot = texts.length := by
  rw [List.countP_eq_length_filter, Nat.add_comm,
    ← List.length_eq_length_filter_add, List.length_map]

theorem length_allElements (outputs : List Instance) :
    (allElements outputs).length =
      (allElements (outputs.filter fun output =>
          extractReturnValue output = 0)).length +
        (allElements (outputs.filter fun output =>
          extractReturnValue output ≠ 0)).length := by
  have hcons : forall (output : Instance) (rest : List Instance),
      (allElements (output :: rest)).length =
        (recordElements output).length + (allElements rest).length :=
    fun _ _ => List.length_append
  induction outputs with
  | nil => rfl
  | cons output rest ih =>
      rw [hcons]
      by_cases hzero : extractReturnValue output = 0
      · rw [List.filter_cons_of_pos (by simpa using hzero),
          List.filter_cons_of_neg (by simpa using hzero), hcons, ih,
          Nat.add_assoc]
      · rw [List.filter_cons_of_neg (by simpa using hzero),
          List.filter_cons_of_pos (by simpa using hzero), hcons, ih]
        lia

/-!
## Complete reads
-/

section Complete

variable {maxRecords : Int} {outputs : List Instance} {read : MessageLogRead}

theorem allElements_zero {outputs : List Instance}
    (h : forall output, output ∈ outputs ->
      extractReturnValue output ≠ 0 -> recordElements output = []) :
    allElements (outputs.filter fun output =>
      extractReturnValue output = 0) = allElements outputs := by
  induction outputs with
  | nil => rfl
  | cons output rest ih =>
      have hrest := ih fun other hmem =>
        h other (List.mem_cons_of_mem output hmem)
      by_cases hzero : extractReturnValue output = 0
      · rw [List.filter_cons_of_pos (by simpa using hzero), allElements,
          List.flatMap_cons, ← allElements, hrest]
        rfl
      · rw [List.filter_cons_of_neg (by simpa using hzero), hrest,
          allElements, allElements, List.flatMap_cons,
          h output List.mem_cons_self hzero, List.nil_append]

theorem keptTexts_eq (room : Nat) (outputs : List Instance) :
    keptTexts room outputs =
      ((allElements (outputs.filter fun output =>
        extractReturnValue output = 0)).filterMap textOf).take room := by
  rw [keptTexts, flatMap_recordArray]

/-- The elements of a lossless iteration are all kept. -/
theorem Lossless.kept (h : Lossless maxRecords outputs) :
    (allElements outputs).map textOf =
      (keptTexts maxRecords.toNat outputs).map some := by
  have hlength : ((allElements outputs).filterMap textOf).length ≤
      maxRecords.toNat :=
    Nat.le_trans (List.length_filterMap_le _ _) h.count
  rw [keptTexts_eq, allElements_zero h.returned,
    List.take_of_length_le hlength]
  exact filterMap_textOf h.texts

theorem lossless_of_kept {texts : List String}
    (htexts : (allElements outputs).map textOf = texts.map some)
    (hlength : texts.length =
      (keptTexts maxRecords.toNat outputs).length) :
    Lossless maxRecords outputs := by
  have hall : (allElements outputs).length = texts.length := by
    rw [← List.length_map textOf, htexts, List.length_map]
  rw [keptTexts_eq, List.length_take] at hlength
  have hzero := List.length_filterMap_le textOf
    (allElements (outputs.filter fun output => extractReturnValue output = 0))
  have hsplit := length_allElements outputs
  have hnone : (allElements (outputs.filter fun output =>
      extractReturnValue output ≠ 0)).length = 0 := by
    lia
  constructor
  · intro element hmem
    have hsome : textOf element ∈ texts.map some := by
      rw [← htexts]
      exact List.mem_map_of_mem hmem
    rcases List.mem_map.mp hsome with ⟨text, _, htext⟩
    rw [show optionalStr (some element) = some text from htext.symm]
    rfl
  · lia
  · intro output hmem hnonzero
    apply List.flatMap_eq_nil_iff.mp (List.eq_nil_of_length_eq_zero hnone)
    exact List.mem_filter.mpr ⟨hmem, by simpa using hnonzero⟩

/-- A complete read accounts for all that was delivered exactly when nothing
of it was left out. -/
theorem complete_accounts_iff {client : Client} {batchSize : Int}
    {pulls rounds : Nat} {log : Log}
    (h : Script.After (readRecords client pulls rounds maxRecords batchSize)
      log (Script.returned read)) :
    (read.complete = true -> read.truncated = false ->
        Accounted (allElements (outputsOf client log)) read) ↔
      (SaysAll (outputsOf client log) ->
        Lossless maxRecords (outputsOf client log)) := by
  rcases readRecords_reads h with
    ⟨hnil, hrecords, hslots⟩ | ⟨identifier, hreads⟩
  · rw [hnil]
    apply iff_of_true
    · intro _ _
      refine ⟨[], rfl, ?_, ?_⟩
      · rw [hrecords]
        rfl
      · rw [hslots]
        rfl
    · exact fun hsays => absurd hsays not_saysAll_none
  · have hrecords := hreads.records
    have hslots := hreads.emptySlots
    rw [show maxRecords - ((0 : Nat) : Int) = maxRecords from
      Int.sub_zero _] at hrecords hslots
    rw [List.nil_append] at hrecords
    rw [Nat.zero_add] at hslots
    constructor
    · intro haccounts hsays
      have hcomplete := hreads.complete.mpr hsays
      rcases haccounts hcomplete (hreads.truncated hcomplete) with
        ⟨texts, htexts, hshown, hempty⟩
      apply lossless_of_kept htexts
      rw [← length_shown texts, ← hshown, ← hempty, hrecords, hslots]
      exact length_shown _
    · intro hlossless hcomplete _
      refine ⟨_, (hlossless (hreads.complete.mp hcomplete)).kept, ?_, ?_⟩
      · exact hrecords
      · exact hslots

/-- The firmware delivers two records to every call and says that there are
no more. -/
def twoRecords : Nat -> PostResult
  | 0 => instanceResponse messageLogClass [("CurrentNumberOfRecords", "2")]
  | 1 =>
      instanceResponse "PositionToFirstRecord_OUTPUT"
        [("IterationIdentifier", "1"), ("ReturnValue", "0")]
  | _ =>
      instanceResponse "GetRecords_OUTPUT"
        [("IterationIdentifier", "3"), ("NoMoreRecords", "true"),
          ("RecordArray", "Y8iYZf8GbwVoEP8mYaoKAAAAAAAA"),
          ("RecordArray", "Y8iYZf8PbwJoAf8iAKoTAAAAAAAA"),
          ("ReturnValue", "0")]

/-- A read that may take so many records. -/
def twoRecordsRead (maxRecords : Int) : Log × WsmanScript MessageLogRead :=
  Script.recorded (answersOf twoRecords) 4 0
    (readRecords { endpoint := "h:16993" } 0 1 maxRecords 390)

theorem twoRecords_after {maxRecords : Int} {read : MessageLogRead}
    (h : (twoRecordsRead maxRecords).2.result = some read) :
    Script.After (readRecords { endpoint := "h:16993" } 0 1 maxRecords 390)
      (twoRecordsRead maxRecords).1 (Script.returned read) := by
  rw [← Script.eq_returned_of_result h]
  exact Script.after_recorded _ _ _ _

/-- There is room for both of the records. -/
theorem twoRecords_accounted :
    exists log read,
      Script.After (readRecords { endpoint := "h:16993" } 0 1 2 390) log
          (Script.returned read) ∧
        ((read.complete = true -> read.truncated = false ->
            Accounted (allElements (outputsOf { endpoint := "h:16993" } log))
              read) ↔
          (SaysAll (outputsOf { endpoint := "h:16993" } log) ->
            Lossless 2 (outputsOf { endpoint := "h:16993" } log))) := by
  have hsome : (twoRecordsRead 2).2.result.isSome = true := by
    decide +kernel
  rcases Option.isSome_iff_exists.mp hsome with ⟨read, hread⟩
  exact ⟨_, read, twoRecords_after hread,
    complete_accounts_iff (twoRecords_after hread)⟩

/-- There is room for one of the records. -/
theorem twoRecords_not_accounted :
    exists log read,
      Script.After (readRecords { endpoint := "h:16993" } 0 1 1 390) log
          (Script.returned read) ∧
        read.complete = true ∧ read.truncated = false ∧
        ¬ Accounted (allElements (outputsOf { endpoint := "h:16993" } log))
          read := by
  have hread : (twoRecordsRead 1).2.result.map (fun read =>
      (read.complete, read.truncated,
        read.records.length + read.emptySlots)) = some (true, false, 1) := by
    decide +kernel
  have helements : (allElements (outputsOf { endpoint := "h:16993" }
      (twoRecordsRead 1).1)).length = 2 := by
    decide +kernel
  rcases Option.map_eq_some_iff.mp hread with ⟨read, hresult, hfields⟩
  rcases Prod.mk.inj hfields with ⟨hcomplete, hrest⟩
  rcases Prod.mk.inj hrest with ⟨htruncated, hcount⟩
  refine ⟨_, read, twoRecords_after hresult, hcomplete, htruncated, ?_⟩
  intro haccounted
  rcases haccounted with ⟨texts, htexts, hrecords, hslots⟩
  have hlength := congrArg List.length htexts
  rw [List.length_map, List.length_map, helements] at hlength
  rw [hrecords, hslots, length_shown, ← hlength] at hcount
  cases hcount

end Complete

end MessageLog
end IntelAmt
