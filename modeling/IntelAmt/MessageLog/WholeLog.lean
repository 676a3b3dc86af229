import IntelAmt.MessageLog.Accounting
import IntelAmt.MessageLog.Decoding
import IntelAmt.MessageLog.Endings
import IntelAmt.Tls.Fingerprints
import IntelAmt.Wsman.Paging

/-!
# The whole log

What is read from a firmware that pages its log, however it cuts the pages.
-/

namespace IntelAmt
namespace MessageLog

open Foundation Wsman Models AmtLogClear

/-!
## Texts of records
-/

/-- A text that reaches the decoding as it is, as base64 does. -/
structure RecordText (text : String) : Prop where
  nonempty : text ≠ ""
  stripped : strip text = text

theorem strip_unspaced {text : String}
    (h : forall c, c ∈ text.toList -> Tls.isSpace c = false) :
    strip text = text := by
  rw [strip, Tls.strip_eq_self h, String.ofList_toList]

/-- What the decoding lets pass. -/
def isBase64 (c : Char) : Bool := (Base64.sextet c).isSome || c = '='

/-- The characters that are stripped. -/
def spaceCodes : List Nat :=
  [9, 10, 11, 12, 13, 28, 29, 30, 31, 32, 133, 160, 5760, 8192, 8193, 8194,
    8195, 8196, 8197, 8198, 8199, 8200, 8201, 8202, 8232, 8233, 8239, 8287,
    12288]

theorem isSpace_base64 {c : Char} (h : isBase64 c = true) :
    Tls.isSpace c = false := by
  by_contra hspace
  rw [Bool.not_eq_false] at hspace
  have hnone : forall n, n ∈ spaceCodes -> isBase64 (Char.ofNat n) = false := by
    decide
  have hmem : c.toNat ∈ spaceCodes := of_decide_eq_true hspace
  have hc := hnone c.toNat hmem
  rw [Char.ofNat_toNat, h] at hc
  cases hc

theorem padded_base64 {group : Base64.Group} {bytes raw : Bytes}
    {pads : Nat} {text : List Char}
    (h : Base64.padded group bytes pads text = Except.ok raw) :
    forall c, c ∈ text -> isBase64 c = true := by
  induction text generalizing pads with
  | nil =>
      intro c hc
      cases hc
  | cons first rest ih =>
      rw [Base64.padded] at h
      split at h
      · cases h
      split at h
      · rename_i hpad
        intro c hc
        rcases List.mem_cons.mp hc with rfl | hc
        · rw [hpad]
          rfl
        · exact ih h c hc
      split at h
      · cases h
      · cases h

theorem decodeFrom_base64 {group : Base64.Group} {bytes raw : Bytes}
    {text : List Char}
    (h : Base64.decodeFrom group bytes text = Except.ok raw) :
    forall c, c ∈ text -> isBase64 c = true := by
  induction text generalizing group bytes with
  | nil =>
      intro c hc
      cases hc
  | cons first rest ih =>
      intro c hc
      unfold Base64.decodeFrom at h
      split at h
      · rename_i heq
        cases heq
      · rename_i heq
        cases heq
        rcases List.mem_cons.mp hc with rfl | hc
        · rfl
        · exact padded_base64 h c hc
      · rename_i heq
        cases heq
        cases hbits : Base64.sextet first with
        | none =>
            rw [hbits] at h
            cases h
        | some bits =>
            rw [hbits] at h
            rcases List.mem_cons.mp hc with rfl | hc
            · rw [isBase64, hbits]
              rfl
            · exact ih h c hc

theorem recordText_of_decoded {text : String}
    (h : (Base64.b64decode text).toOption.getD [] ≠ []) :
    RecordText text := by
  constructor
  · rintro rfl
    exact h rfl
  · apply strip_unspaced
    intro c hc
    cases hraw : Base64.b64decode text with
    | error reason =>
        rw [hraw] at h
        exact absurd rfl h
    | ok raw =>
        rw [Base64.b64decode] at hraw
        split at hraw
        · cases hraw
        · split at hraw
          · cases hraw
          · exact isSpace_base64 (decodeFrom_base64 hraw c hc)

/-- The text is that of 21 zeros. -/
def isSlot (text : String) : Bool :=
  match Base64.b64decode text with
  | Except.ok raw => raw = List.replicate recordSize 0
  | Except.error _ => false

theorem isSlot_eq (text : String) :
    isEmptyRecordSlot (decodeRecord text) = isSlot text := by
  rw [Bool.eq_iff_iff, isEmptyRecordSlot_iff, isSlot]
  cases Base64.b64decode text with
  | error reason => simp
  | ok raw => simp

theorem optionalStr_text {text : String} (h : RecordText text) :
    optionalStr (some (Value.text text)) = some text := by
  rw [optionalStr, h.stripped]
  simp [h.nonempty]

theorem recordElements_gathered {output : Instance} (texts : List String)
    (h : output.lookup "RecordArray" =
      gathered none (texts.map Value.text)) :
    recordElements output = texts.map Value.text := by
  rw [recordElements, h]
  rcases texts with _ | ⟨first, _ | ⟨second, rest⟩⟩
  · rfl
  · rfl
  · have hmany : gathered none ((first :: second :: rest).map Value.text) =
        some (Value.list ((first :: second :: rest).map Value.text)) :=
      gathered_list [Value.text first, Value.text second] _
    rw [hmany]

theorem recordArray_texts {output : Instance} {texts : List String}
    (h : output.lookup "RecordArray" = gathered none (texts.map Value.text))
    (htexts : forall text, text ∈ texts -> RecordText text) :
    recordArray output = texts := by
  rw [recordArray, recordElements_gathered texts h, List.filterMap_map]
  have hall : forall text, text ∈ texts ->
      ((fun item => optionalStr (some item)) ∘ Value.text) text =
        some text := by
    intro text htext
    rw [Function.comp_apply, optionalStr_text (htexts text htext)]
  rw [List.filterMap_congr hall, List.filterMap_some]

/-!
## A firmware that pages its log
-/

/-- The request for the first record. -/
def positionRequest : Request :=
  methodRequest "PositionToFirstRecord" messageLogUri [] []

/-- The request for some records. -/
def recordsRequest (identifier most : Int) : Request :=
  methodRequest "GetRecords" messageLogUri []
    [{ tag := qualified messageLogUri "IterationIdentifier"
       text := some (Scalar.int identifier).coerceText },
      { tag := qualified messageLogUri "MaxReadRecords"
        text := some (Scalar.int most).coerceText }]

theorem getRecords_posts (client : Client) (identifier most : Int) :
    getRecords client identifier most =
      Script.call (WsmanOp.post (recordsRequest identifier most))
        (judged client "GetRecords" [2, 3]) :=
  invokeTolerating_posts rfl [2, 3]

/-- The result of a `GetRecords` call brings these texts and says where to go
on, or that there is no more. -/
structure Brings (client : Client) (texts : List String) (next : Option Int)
    (result : PostResult) : Prop where
  answered : exists response body output others,
    result = PostResult.response response ∧
    handleResponse client (messageLogClass ++ "." ++ "GetRecords")
      response = Except.ok body ∧
    body.children = output :: others ∧ output.children ≠ [] ∧
    (childrenNamed "RecordArray" output.children).map elementToValue =
      texts.map Value.text ∧
    extractReturnValue (singleInstance body) = 0 ∧
    truthy ((singleInstance body).lookup "NoMoreRecords") = next.isNone ∧
    forall identifier, next = some identifier ->
      optionalInt ((singleInstance body).lookup "IterationIdentifier") =
        some identifier

/-- An identifier addresses an element of the log at a position of the
answers.  A call that asks from there on for some elements is answered with
one of them or more, and behind them with an identifier that is larger, unless
the log is at its end. -/
structure Pages (client : Client)
    (answers : Nat -> (o : WsmanOp) -> WsmanAnswer o) (log : List String)
    (addresses : Nat -> Int -> Nat -> Prop) : Prop where
  page : forall position identifier start most,
    addresses position identifier start -> start < log.length ->
    (1 : Int) ≤ most ->
      exists (count : Nat) (next : Option Int),
        1 ≤ count ∧ (count : Int) ≤ most ∧ start + count ≤ log.length ∧
        Brings client ((log.drop start).take count) next
          (answers position
            (WsmanOp.post (recordsRequest identifier most))) ∧
        (next = none ↔ start + count = log.length) ∧
        forall later, next = some later ->
          identifier < later ∧
            addresses (position + 1) later (start + count)

theorem singleInstance_children {body output : Element}
    {others : List Element} (hbody : body.children = output :: others)
    (hchildren : output.children ≠ []) :
    singleInstance body = membersOf output.children [] := by
  rcases output with ⟨tag, attributes, text, _ | ⟨child, rest⟩⟩
  · exact absurd rfl hchildren
  · rw [singleInstance, hbody]
    dsimp only
    rw [elementToValue, membersOf]

theorem Brings.output {client : Client} {texts : List String}
    {next : Option Int} {result : PostResult}
    (h : Brings client texts next result)
    (htexts : forall text, text ∈ texts -> RecordText text) :
    exists output, usableOutput client "GetRecords" result = some output ∧
      recordArray output = texts ∧
      truthy (output.lookup "NoMoreRecords") = next.isNone ∧
      forall identifier, next = some identifier ->
        optionalInt (output.lookup "IterationIdentifier") =
          some identifier := by
  rcases h.answered with ⟨response, body, output, others, hresult, hbody,
    hparts, hchildren, hrecords, hzero, hmore, hnext⟩
  refine ⟨singleInstance body, ?_, ?_, hmore, hnext⟩
  · apply usableOutput_some _ hzero
    rw [hresult, outputOf, hbody]
  · apply recordArray_texts _ htexts
    rw [singleInstance_children hparts hchildren, lookup_membersOf, hrecords]
    rfl

/-!
## The loop
-/

/-- What is made of the elements that are left when there is some room. -/
structure ReadsRest (room : Nat) (rest : List String) (reading : Reading)
    (read : MessageLogRead) : Prop where
  records : read.records = reading.records ++
    ((rest.take room).map decodeRecord).filter fun record =>
      !isEmptyRecordSlot record
  emptySlots : read.emptySlots = reading.emptySlots +
    ((rest.take room).map decodeRecord).countP isEmptyRecordSlot
  complete : read.complete = decide (rest.length ≤ room)
  truncated : read.truncated = decide (room < rest.length)

section Batches

variable (properties : MessageLogProperties) {maxRecords : Int}
variable {reading : Reading} {output : Instance} {batch rest : List String}
variable {read : MessageLogRead}

theorem take_batch (reading : Reading) (hbatch : recordArray output = batch)
    (hroom : batch.length ≤ (maxRecords - reading.consumed).toNat) :
    (reading.take maxRecords output).records = reading.records ++
        ((batch.map decodeRecord).filter fun record =>
          !isEmptyRecordSlot record) ∧
      (reading.take maxRecords output).emptySlots = reading.emptySlots +
        (batch.map decodeRecord).countP isEmptyRecordSlot ∧
      (reading.take maxRecords output).consumed =
        reading.consumed + batch.length := by
  rw [Reading.take, hbatch, List.take_of_length_le hroom]
  exact ⟨(foldl_keep batch _).1, (foldl_keep batch _).2,
    (keep_batch batch _).2⟩

theorem readsRest_full (hrest : rest ≠ []) :
    ReadsRest 0 rest reading
      (readOf properties StopReason.maxRecords true false reading) := by
  have hlength : 0 < rest.length := List.length_pos_of_ne_nil hrest
  constructor
  · exact (List.append_nil _).symm
  · rfl
  · exact (decide_eq_false (Nat.not_le.mpr hlength)).symm
  · exact (decide_eq_true hlength).symm

theorem readsRest_last (reason : StopReason)
    (hbatch : recordArray output = rest)
    (hroom : rest.length ≤ (maxRecords - reading.consumed).toNat) :
    ReadsRest (maxRecords - reading.consumed).toNat rest reading
      (readOf properties reason false true
        (Reading.take { reading with batches := reading.batches + 1 }
          maxRecords output)) := by
  have htaken := take_batch { reading with batches := reading.batches + 1 }
    hbatch hroom
  constructor
  · rw [List.take_of_length_le hroom]
    exact htaken.1
  · rw [List.take_of_length_le hroom]
    exact htaken.2.1
  · exact (decide_eq_true hroom).symm
  · exact (decide_eq_false (Nat.not_lt.mpr hroom)).symm

theorem ReadsRest.behind {identifier : Int}
    (hbatch : recordArray output = batch)
    (hroom : batch.length ≤ (maxRecords - reading.consumed).toNat)
    (h : ReadsRest
      (maxRecords - (reading.advance maxRecords output
        identifier).consumed).toNat rest
      (reading.advance maxRecords output identifier) read) :
    ReadsRest (maxRecords - reading.consumed).toNat (batch ++ rest) reading
      read := by
  have htaken := take_batch { reading with batches := reading.batches + 1 }
    hbatch hroom
  have hconsumed : (reading.advance maxRecords output identifier).consumed =
      reading.consumed + batch.length := htaken.2.2
  have hleft : (maxRecords - (reading.advance maxRecords output
      identifier).consumed).toNat =
        (maxRecords - reading.consumed).toNat - batch.length := by
    rw [hconsumed]
    lia
  have htake : (batch ++ rest).take (maxRecords - reading.consumed).toNat =
      batch ++ rest.take
        ((maxRecords - reading.consumed).toNat - batch.length) := by
    rw [List.take_append, List.take_of_length_le hroom]
  rw [hleft] at h
  constructor
  · have hrecords : read.records =
        (reading.records ++ (batch.map decodeRecord).filter fun record =>
            !isEmptyRecordSlot record) ++ _ :=
      h.records.trans (congrArg (· ++ _) htaken.1)
    rw [hrecords, htake, List.map_append, List.filter_append,
      List.append_assoc]
  · have hslots : read.emptySlots =
        reading.emptySlots +
            (batch.map decodeRecord).countP isEmptyRecordSlot + _ :=
      h.emptySlots.trans (congrArg (· + _) htaken.2.1)
    rw [hslots, htake, List.map_append, List.countP_append, Nat.add_assoc]
  · rw [h.complete, List.length_append, Bool.eq_iff_iff, decide_eq_true_iff,
      decide_eq_true_iff]
    lia
  · rw [h.truncated, List.length_append, Bool.eq_iff_iff, decide_eq_true_iff,
      decide_eq_true_iff]
    lia

end Batches

section Loop

variable {client : Client} {log : List String}
variable {answers : Nat -> (o : WsmanOp) -> WsmanAnswer o}
variable {addresses : Nat -> Int -> Nat -> Prop}
variable (properties : MessageLogProperties) {maxRecords batchSize : Int}

/-- One call of the loop. -/
theorem play_readUpTo_call {position rounds : Nat} {reading : Reading}
    {output : Instance} (hroom : reading.consumed < maxRecords)
    (husable : usableOutput client "GetRecords"
      (answers position (WsmanOp.post (recordsRequest reading.identifier
        (min (min batchSize (maxRecords - reading.consumed))
          maxReadRecords)))) = some output) :
    Script.play answers position
        (readUpTo client properties maxRecords batchSize (rounds + 1)
          reading) =
      Script.play answers (position + 1)
        (match takeBatch maxRecords reading output 0 with
        | Pass.stopped reason complete reading =>
            pure (readOf properties reason false complete reading)
        | Pass.next reading =>
            readUpTo client properties maxRecords batchSize rounds
              reading) := by
  rw [readUpTo, if_neg (Int.not_le.mpr hroom)]
  dsimp only
  rw [getRecords_posts, Script.call_bind, Script.play, judged_usable husable]
  rfl

theorem takeBatch_last {reading : Reading} {output : Instance}
    (hmore : truthy (output.lookup "NoMoreRecords") = true) :
    takeBatch maxRecords reading output 0 =
      Pass.stopped StopReason.noMoreRecords true
        (Reading.take { reading with batches := reading.batches + 1 }
          maxRecords output) := by
  have hthree : ¬ (0 : Int) = 3 := by decide
  have htwo : ¬ (0 : Int) = 2 := by decide
  rw [takeBatch]
  simp only [if_neg hthree, if_neg htwo, if_pos hmore]

theorem takeBatch_onwards {reading : Reading} {output : Instance}
    {later : Int} (hmore : truthy (output.lookup "NoMoreRecords") = false)
    (hnext : optionalInt (output.lookup "IterationIdentifier") = some later)
    (hlater : later ≠ reading.identifier) :
    takeBatch maxRecords reading output 0 =
      Pass.next (reading.advance maxRecords output later) := by
  have hthree : ¬ (0 : Int) = 3 := by decide
  have htwo : ¬ (0 : Int) = 2 := by decide
  rw [takeBatch]
  simp only [if_neg hthree, if_neg htwo, hmore, hnext, take_identifier]
  exact if_neg hlater

/-- The loop reads what is left, from any element that an identifier
addresses. -/
theorem readUpTo_pages (hpages : Pages client answers log addresses)
    (htexts : forall text, text ∈ log -> RecordText text)
    (hbatch : 1 ≤ batchSize) {rounds position start : Nat}
    {reading : Reading}
    (haddressed : addresses position reading.identifier start)
    (hstart : start < log.length) (hrounds : log.length - start ≤ rounds) :
    exists read,
      (Script.play answers position
        (readUpTo client properties maxRecords batchSize rounds
          reading)).1 = Except.ok read ∧
      ReadsRest (maxRecords - reading.consumed).toNat (log.drop start)
        reading read := by
  induction rounds generalizing position start reading with
  | zero => lia
  | succ rounds ih =>
      by_cases hfull : maxRecords ≤ reading.consumed
      · refine ⟨readOf properties StopReason.maxRecords true false reading,
          ?_, ?_⟩
        · rw [readUpTo, if_pos hfull]
          rfl
        · have hzero : (maxRecords - reading.consumed).toNat = 0 := by lia
          rw [hzero]
          apply readsRest_full
          exact List.ne_nil_of_length_pos (by rw [List.length_drop]; lia)
      · have hroom := Int.not_le.mp hfull
        have hmost : (1 : Int) ≤ min (min batchSize
            (maxRecords - reading.consumed)) maxReadRecords := by
          rw [maxReadRecords]
          lia
        rcases hpages.page position reading.identifier start _ haddressed
            hstart hmost with
          ⟨count, next, hone, hcount, hin, hbrings, hend, hnext⟩
        rcases hbrings.output fun text htext => htexts text
            (List.mem_of_mem_drop (List.mem_of_mem_take htext)) with
          ⟨output, husable, hrecords, hmore, hidentifier⟩
        have hlength : ((log.drop start).take count).length = count := by
          rw [List.length_take, List.length_drop]
          lia
        have hfits : ((log.drop start).take count).length ≤
            (maxRecords - reading.consumed).toNat := by
          rw [hlength]
          lia
        rw [play_readUpTo_call properties hroom husable]
        cases next with
        | none =>
            have hall : (log.drop start).take count = log.drop start := by
              apply List.take_of_length_le
              rw [List.length_drop]
              have hlast := hend.mp rfl
              lia
            rw [takeBatch_last hmore]
            rw [hall] at hrecords hfits
            exact ⟨_, rfl, readsRest_last properties _ hrecords hfits⟩
        | some later =>
            rcases hnext later rfl with ⟨hlarger, hlaterAddressed⟩
            have hadvances : takeBatch maxRecords reading output 0 =
                Pass.next (reading.advance maxRecords output later) :=
              takeBatch_onwards hmore (hidentifier later rfl)
                (Int.ne_of_gt hlarger)
            have hgoesOn : addresses (position + 1)
                (reading.advance maxRecords output later).identifier
                (start + count) := hlaterAddressed
            have hmiddle : start + count ≠ log.length := by
              intro heq
              cases hend.mpr heq
            rw [hadvances]
            dsimp only
            rcases ih hgoesOn (by lia) (by lia) with ⟨read, hplay, hrest⟩
            refine ⟨read, hplay, ?_⟩
            have hsplit : log.drop start = (log.drop start).take count ++
                log.drop (start + count) := by
              rw [← List.drop_drop, List.take_append_drop]
            rw [hsplit]
            exact hrest.behind hrecords hfits

end Loop

/-!
## The read
-/

/-- What a read of the log has to be. -/
structure WholeRead (log : List String) (maxRecords : Int)
    (read : MessageLogRead) : Prop where
  records : read.records =
    ((log.take maxRecords.toNat).filter fun text => !isSlot text).map
      decodeRecord
  emptySlots : read.emptySlots = (log.take maxRecords.toNat).countP isSlot
  complete : read.complete = true ↔ (log.length : Int) ≤ maxRecords
  truncated : read.truncated = true ↔ maxRecords < log.length

theorem filter_decoded (texts : List String) :
    ((texts.map decodeRecord).filter fun record =>
        !isEmptyRecordSlot record) =
      (texts.filter fun text => !isSlot text).map decodeRecord := by
  rw [List.filter_map]
  congr 2
  funext text
  exact congrArg _ (isSlot_eq text)

theorem countP_decoded (texts : List String) :
    (texts.map decodeRecord).countP isEmptyRecordSlot =
      texts.countP isSlot := by
  rw [List.countP_map]
  congr 1
  funext text
  exact isSlot_eq text

theorem play_positionToFirstRecord {client : Client}
    {answers : Nat -> (o : WsmanOp) -> WsmanAnswer o} {position : Nat}
    {output : Instance}
    (h : usableOutput client "PositionToFirstRecord"
      (answers position (WsmanOp.post positionRequest)) = some output) :
    Script.play answers position (positionToFirstRecord client) =
      (Except.ok (firstIdentifier output, 0), position + 1) := by
  have hposts : invokeTolerating client "PositionToFirstRecord" [] [1, 2] =
      Script.call (WsmanOp.post positionRequest)
        (judged client "PositionToFirstRecord" [1, 2]) :=
    invokeTolerating_posts rfl [1, 2]
  rw [positionToFirstRecord, hposts, Script.call_bind, Script.play,
    judged_usable h]
  rfl

/-- A read of a log that the firmware pages gives what is in the log, as far
as it may go. -/
theorem readRecords_whole {client : Client}
    {answers : Nat -> (o : WsmanOp) -> WsmanAnswer o} {log : List String}
    {addresses : Nat -> Int -> Nat -> Prop} {pulls rounds position : Nat}
    {maxRecords batchSize : Int} {properties : MessageLogProperties}
    {output : Instance}
    (hproperties : Script.play answers 0 (getLogProperties client pulls) =
      (Except.ok properties, position))
    (hfirst : usableOutput client "PositionToFirstRecord"
      (answers position (WsmanOp.post positionRequest)) = some output)
    (haddressed : addresses (position + 1) (firstIdentifier output) 0)
    (hpages : Pages client answers log addresses) (hlog : log ≠ [])
    (htexts : forall text, text ∈ log -> RecordText text)
    (hbatch : 1 ≤ batchSize) (hrounds : log.length ≤ rounds) :
    exists read,
      (Script.play answers 0
        (readRecords client pulls rounds maxRecords batchSize)).1 =
          Except.ok read ∧
      WholeRead log maxRecords read := by
  have hloop : Script.play answers 0
      (readRecords client pulls rounds maxRecords batchSize) =
        Script.play answers (position + 1)
          (readUpTo client properties maxRecords batchSize rounds
            { identifier := firstIdentifier output }) := by
    rw [readRecords, Script.play_bind_ok hproperties,
      Script.play_bind_ok (play_positionToFirstRecord hfirst)]
    rfl
  have hgoesOn : addresses (position + 1)
      ({ identifier := firstIdentifier output } : Reading).identifier 0 :=
    haddressed
  rcases readUpTo_pages properties hpages htexts hbatch hgoesOn
      (List.length_pos_of_ne_nil hlog) hrounds with ⟨read, hplay, hrest⟩
  rw [hloop]
  refine ⟨read, hplay, ?_⟩
  have hroom : (maxRecords - ((0 : Nat) : Int)).toNat = maxRecords.toNat := by
    lia
  have hpositive := List.length_pos_of_ne_nil hlog
  dsimp only at hrest
  rw [hroom, List.drop_zero] at hrest
  constructor
  · rw [hrest.records, filter_decoded]
    rfl
  · rw [hrest.emptySlots, countP_decoded, Nat.zero_add]
  · rw [hrest.complete, decide_eq_true_iff]
    lia
  · rw [hrest.truncated, decide_eq_true_iff]
    lia

/-- The body of an answer that brings one element. -/
def recordBody (identifier noMoreRecords text : String) : Element where
  tag := qualified soapNs "Body"
  children :=
    [instanceElement "GetRecords_OUTPUT"
      [("IterationIdentifier", identifier), ("NoMoreRecords", noMoreRecords),
        ("RecordArray", text), ("ReturnValue", "0")]]

def recordPage (identifier noMoreRecords text : String) : PostResult :=
  PostResult.response (enveloped (recordBody identifier noMoreRecords text))

def recordText : String := "Y8iYZf8GbwVoEP8mYaoKAAAAAAAA"

def slotText : String := "AAAAAAAAAAAAAAAAAAAAAAAAAAAA"

theorem recordText_record : RecordText recordText :=
  recordText_of_decoded (by decide +kernel)

theorem recordText_slot : RecordText slotText :=
  recordText_of_decoded (by decide +kernel)

/-- A log of two records around an empty slot, one element for each call. -/
def oneByOne : Nat -> PostResult
  | 0 => instanceResponse messageLogClass [("CurrentNumberOfRecords", "2")]
  | 1 =>
      instanceResponse "PositionToFirstRecord_OUTPUT"
        [("IterationIdentifier", "1"), ("ReturnValue", "0")]
  | 2 => recordPage "2" "false" recordText
  | 3 => recordPage "3" "false" slotText
  | _ => recordPage "4" "true" recordText

theorem oneByOne_properties :
    exists properties, Script.play (answersOf oneByOne) 0
        (getLogProperties { endpoint := "h:16993" } 0) =
      (Except.ok properties, 1) := by
  have hget : Script.play (answersOf oneByOne) 0
      (get { endpoint := "h:16993" } messageLogClass) =
        (Except.ok [("CurrentNumberOfRecords", Value.text "2")], 1) := rfl
  have hgot : Script.play (answersOf oneByOne) 0
      (degrading [] (get { endpoint := "h:16993" } messageLogClass)) =
        (Except.ok [("CurrentNumberOfRecords", Value.text "2")], 1) :=
    Script.play_handle_ok hget
  refine ⟨MessageLogProperties.fromInstance
    [("CurrentNumberOfRecords", Value.text "2")], ?_⟩
  rw [getLogProperties, Script.play_bind_ok hgot]
  rfl

theorem recordNames :
    localName "IterationIdentifier" = "IterationIdentifier" ∧
      localName "NoMoreRecords" = "NoMoreRecords" ∧
      localName "RecordArray" = "RecordArray" ∧
      localName "ReturnValue" = "ReturnValue" ∧
      localName "GetRecords_OUTPUT" = "GetRecords_OUTPUT" := by
  decide +kernel

theorem singleInstance_recordBody (identifier noMoreRecords text : String) :
    singleInstance (recordBody identifier noMoreRecords text) =
      [("IterationIdentifier", Value.text (strip identifier)),
        ("NoMoreRecords", Value.text (strip noMoreRecords)),
        ("RecordArray", Value.text (strip text)),
        ("ReturnValue", Value.text (strip "0"))] := by
  rcases recordNames with ⟨hidentifier, hmore, hrecords, hvalue, _⟩
  simp [recordBody, singleInstance, instanceElement, elementToValue,
    membersOf, addMember, hidentifier, hmore, hrecords, hvalue]

theorem recordBody_noFault (identifier noMoreRecords text : String) :
    findByLocalName (recordBody identifier noMoreRecords text) "Fault" =
      none := by
  have hbody : localName (qualified soapNs "Body") = "Body" :=
    localName_qualified _ (by decide)
  rcases recordNames with ⟨hidentifier, hmore, hrecords, hvalue, houtput⟩
  simp [findByLocalName, recordBody, instanceElement, Element.iter, iterAll,
    hbody, hidentifier, hmore, hrecords, hvalue, houtput]

theorem recordPage_brings {identifier noMoreRecords text : String}
    {next : Option Int} (htext : strip text = text)
    (hmore : truthy (some (Value.text (strip noMoreRecords))) = next.isNone)
    (hnext : forall later, next = some later ->
      optionalInt (some (Value.text (strip identifier))) = some later) :
    Brings { endpoint := "h:16993" } [text] next
      (recordPage identifier noMoreRecords text) := by
  have hinstance :=
    singleInstance_recordBody identifier noMoreRecords text
  have hhandled : handleResponse { endpoint := "h:16993" }
      (messageLogClass ++ "." ++ "GetRecords")
      (enveloped (recordBody identifier noMoreRecords text)) =
        Except.ok (recordBody identifier noMoreRecords text) :=
    handleResponse_answers _ (answers_enveloped rfl)
      (recordBody_noFault identifier noMoreRecords text)
  rcases recordNames with ⟨hidentifier, hmoreName, hrecords, hvalue, _⟩
  constructor
  refine ⟨_, _, _, [], rfl, hhandled, rfl, List.cons_ne_nil _ _, ?_, ?_, ?_,
    ?_⟩
  · simp [childrenNamed, nameOf, elementToValue, instanceElement, hidentifier,
      hmoreName, hrecords, hvalue, htext]
  · have hzero : extractReturnValue
        [("ReturnValue", Value.text (strip "0"))] = 0 := by
      decide +kernel
    rw [hinstance, ← hzero, extractReturnValue, extractReturnValue]
    simp [List.lookup_cons]
  · rw [hinstance]
    simpa [List.lookup_cons] using hmore
  · rw [hinstance]
    simpa [List.lookup_cons] using hnext

theorem oneByOne_pages :
    Pages { endpoint := "h:16993" } (answersOf oneByOne)
      [recordText, slotText, recordText]
      fun position identifier start =>
        position = start + 2 ∧ identifier = (start : Int) + 1 := by
  constructor
  rintro position identifier start most ⟨rfl, rfl⟩ hstart hmost
  have hcount : ((1 : Nat) : Int) ≤ most := hmost
  match start, hstart with
  | 0, _ =>
      refine ⟨1, some 2, by decide, hcount, by decide, ?_, by simp, ?_⟩
      · apply recordPage_brings recordText_record.stripped (by decide +kernel)
        rintro later ⟨⟩
        decide +kernel
      · rintro later ⟨⟩
        simp
  | 1, _ =>
      refine ⟨1, some 3, by decide, hcount, by decide, ?_, by simp, ?_⟩
      · apply recordPage_brings recordText_slot.stripped (by decide +kernel)
        rintro later ⟨⟩
        decide +kernel
      · rintro later ⟨⟩
        simp
  | 2, _ =>
      refine ⟨1, none, by decide, hcount, by decide, ?_, by simp, ?_⟩
      · apply recordPage_brings recordText_record.stripped (by decide +kernel)
        intro later hlater
        cases hlater
      · intro later hlater
        cases hlater

theorem readRecords_whole_three :
    exists read,
      (Script.play (answersOf oneByOne) 0
        (readRecords { endpoint := "h:16993" } 0 3 10 390)).1 =
          Except.ok read ∧
      WholeRead [recordText, slotText, recordText] 10 read := by
  rcases oneByOne_properties with ⟨properties, hproperties⟩
  have hannounced : firstAnnounced { endpoint := "h:16993" } (oneByOne 1) =
      some 1 := by
    decide +kernel
  rcases Option.map_eq_some_iff.mp hannounced with
    ⟨output, houtput, hidentifier⟩
  apply readRecords_whole hproperties houtput _ oneByOne_pages
    (List.cons_ne_nil _ _)
  · intro text htext
    rcases htext with _ | ⟨_, _ | ⟨_, _ | ⟨_, htext⟩⟩⟩
    · exact recordText_record
    · exact recordText_slot
    · exact recordText_record
    · cases htext
  · decide
  · exact Nat.le_refl 3
  · exact ⟨rfl, hidentifier⟩

end MessageLog
end IntelAmt
