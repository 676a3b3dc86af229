import IntelAmt.MessageLog.Records

/-!
# What decoding keeps of a record

`decode_record` with the exceptions that its parts could raise, and the fields
of a record packed again.
-/

namespace IntelAmt
namespace MessageLog

open Foundation

/-!
## Exceptions
-/

/-- What the parts of the decoding could raise. -/
inductive RecordError where
  | index
  | struct
deriving DecidableEq, Repr

/-- `data[i]` -/
def indexed (data : Bytes) (i : Nat) : Except RecordError Nat :=
  match data[i]? with
  | some b => Except.ok b.toNat
  | none => Except.error RecordError.index

def describeFirmwareRaising (eventOffset : Nat) (eventData : Bytes) :
    Except RecordError (Option String) := do
  let marker ← indexed eventData 0
  if marker = 0xEB then pure (some "Invalid Data")
  else if eventOffset = 0 then do
    let code ← indexed eventData 1
    pure (systemFirmwareErrorTable.lookup code)
  else if marker = 0xAA then pure none
  else do
    let code ← indexed eventData 1
    pure (systemFirmwareProgressTable.lookup code)

/-- The digits of some bytes, in the given order. -/
def hexAt (eventData : Bytes) (indices : List Nat) :
    Except RecordError String := do
  let bytes ← indices.mapM (indexed eventData)
  pure (hexOf (bytes.map UInt8.ofNat))

def describeWatchdogRaising (eventData : Bytes) :
    Except RecordError (Option String) := do
  let marker ← indexed eventData 0
  if marker ≠ 0xAA then pure none
  else do
    let first ← hexAt eventData [4, 3, 2, 1]
    let second ← hexAt eventData [6, 5]
    let state ← indexed eventData 7
    pure
      (some
        ("Agent watchdog " ++ first ++ "-" ++ second ++ "-... changed to " ++
          decodeTable watchdogStateTable state))

def describeEventRaising (eventSensorType eventOffset : Nat)
    (eventData : Bytes) : Except RecordError (Option String) :=
  if eventData.length < 8 then pure none
  else if eventSensorType = 6 then do
    let low ← indexed eventData 1
    let high ← indexed eventData 2
    pure
      (some
        ("Authentication failed " ++ toString (low + high * 256) ++
          " times. The system may be under attack."))
  else if eventSensorType = 15 then
    describeFirmwareRaising eventOffset eventData
  else if eventSensorType = 18 then describeWatchdogRaising eventData
  else pure (fixedSensorDescriptions.lookup eventSensorType)

/-- What `_RECORD_STRUCT` unpacks. -/
structure RecordFields where
  timestamp : Nat
  deviceAddress : Nat
  eventSensorType : Nat
  eventType : Nat
  eventOffset : Nat
  eventSourceType : Nat
  eventSeverity : Nat
  sensorNumber : Nat
  entity : Nat
  entityInstance : Nat
  eventData : List Nat

/-- `_RECORD_STRUCT.unpack_from` -/
def unpackFrom (raw : Bytes) : Except RecordError RecordFields :=
  if raw.length < recordSize then Except.error RecordError.struct
  else
    Except.ok
      { timestamp := leNat (slice raw 0 4)
        deviceAddress := byteOf raw 4
        eventSensorType := byteOf raw 5
        eventType := byteOf raw 6
        eventOffset := byteOf raw 7
        eventSourceType := byteOf raw 8
        eventSeverity := byteOf raw 9
        sensorNumber := byteOf raw 10
        entity := byteOf raw 11
        entityInstance := byteOf raw 12
        eventData := (slice raw 13 8).map UInt8.toNat }

def recordOf (encoded : String) (raw : Bytes) (fields : RecordFields)
    (description : Option String) : EventRecord where
  rawBase64 := encoded
  rawHex := some (hexOf raw)
  rawLength := some raw.length
  timestamp := some fields.timestamp
  timestampUtc := formatTimestamp fields.timestamp
  deviceAddress := some fields.deviceAddress
  eventSensorType := some fields.eventSensorType
  eventType := some fields.eventType
  eventOffset := some fields.eventOffset
  eventSourceType := some fields.eventSourceType
  eventSeverity := some fields.eventSeverity
  eventSeverityText := some (decodeTable eventSeverityTable fields.eventSeverity)
  sensorNumber := some fields.sensorNumber
  entity := some fields.entity
  entityText := some (decodeTable systemEntityTable fields.entity)
  entityInstance := some fields.entityInstance
  eventData := some fields.eventData
  description := description

/-- `decode_record`, as far as its parts let it come. -/
def decodeRecordRaising (encoded : String) : Except RecordError EventRecord :=
  match Base64.b64decode encoded with
  | Except.error reason =>
      pure
        { rawBase64 := encoded
          decodeError := some ("record is not valid base64: " ++ reason) }
  | Except.ok raw =>
      if raw.length < recordSize then
        pure
          { rawBase64 := encoded
            rawHex := some (hexOf raw)
            rawLength := some raw.length
            decodeError := some
              ("record is " ++ toString raw.length ++
                " bytes, expected at least " ++ toString recordSize) }
      else do
        let fields ← unpackFrom raw
        let description ← describeEventRaising fields.eventSensorType
          fields.eventOffset (fields.eventData.map UInt8.ofNat)
        pure (recordOf encoded raw fields description)

/-!
## None of them is raised
-/

section Described

variable {eventData : Bytes} (h : ¬ eventData.length < 8)

include h

theorem indexed_ok {i : Nat} (hi : i < 8) :
    indexed eventData i = Except.ok (byteOf eventData i) := by
  have hin : i < eventData.length := by lia
  rw [indexed, byteOf, List.getD_eq_getElem?_getD,
    List.getElem?_eq_getElem hin]
  rfl

theorem describeFirmwareRaising_eq (eventOffset : Nat) :
    describeFirmwareRaising eventOffset eventData =
      Except.ok (describeFirmware eventOffset eventData) := by
  rw [describeFirmwareRaising, describeFirmware, indexed_ok h (by decide),
    indexed_ok h (by decide)]
  simp only [pure, Except.pure, bind, Except.bind]
  split
  · rfl
  · split
    · rfl
    · split
      · rfl
      · rfl

theorem hexAt_eq {indices : List Nat} (hall : forall i, i ∈ indices -> i < 8) :
    hexAt eventData indices =
      Except.ok (hexOf (indices.map fun i => eventData.getD i 0)) := by
  have hbytes : indices.mapM (indexed eventData) =
      Except.ok (indices.map (byteOf eventData)) := by
    induction indices with
    | nil => rfl
    | cons i rest ih =>
        rw [List.mapM_cons, indexed_ok h (hall i List.mem_cons_self),
          ih fun j hj => hall j (List.mem_cons_of_mem _ hj)]
        rfl
  have hround : (UInt8.ofNat ∘ byteOf eventData) =
      fun i => eventData.getD i 0 := by
    funext i
    exact UInt8.ofNat_toNat
  rw [hexAt, hbytes, ← hround, ← List.map_map]
  rfl

theorem describeWatchdogRaising_eq :
    describeWatchdogRaising eventData =
      Except.ok (describeWatchdog eventData) := by
  rw [describeWatchdogRaising, describeWatchdog, indexed_ok h (by decide),
    indexed_ok h (by decide), hexAt_eq h (by decide),
    hexAt_eq h (by decide)]
  simp only [pure, Except.pure, bind, Except.bind]
  split
  · rfl
  · rfl

omit h in
theorem describeEventRaising_eq (eventSensorType eventOffset : Nat) :
    describeEventRaising eventSensorType eventOffset eventData =
      Except.ok (describeEvent eventSensorType eventOffset eventData) := by
  rw [describeEventRaising, describeEvent]
  by_cases hshort : eventData.length < 8
  · rw [if_pos hshort, if_pos hshort]
    rfl
  · rw [if_neg hshort, if_neg hshort, indexed_ok hshort (by decide),
      indexed_ok hshort (by decide), describeFirmwareRaising_eq hshort,
      describeWatchdogRaising_eq hshort]
    split
    · rfl
    · split
      · rfl
      · split
        · rfl
        · rfl

end Described

theorem map_ofNat_toNat (bytes : Bytes) :
    (bytes.map UInt8.toNat).map UInt8.ofNat = bytes := by
  rw [List.map_map]
  apply List.map_id''
  exact fun b => UInt8.ofNat_toNat

/-- No exception comes out of the decoding. -/
theorem decodeRecordRaising_eq (encoded : String) :
    decodeRecordRaising encoded = Except.ok (decodeRecord encoded) := by
  rw [decodeRecordRaising, decodeRecord]
  cases Base64.b64decode encoded with
  | error reason => rfl
  | ok raw =>
      dsimp only
      by_cases hshort : raw.length < recordSize
      · rw [if_pos hshort, if_pos hshort]
        rfl
      · rw [if_neg hshort, if_neg hshort, unpackFrom, if_neg hshort]
        simp only [bind, Except.bind, map_ofNat_toNat,
          describeEventRaising_eq]
        rfl

/-!
## Packed again
-/

/-- The decoded fields of a record, if it has them all. -/
def EventRecord.fields (record : EventRecord) : Option RecordFields := do
  let timestamp ← record.timestamp
  let deviceAddress ← record.deviceAddress
  let eventSensorType ← record.eventSensorType
  let eventType ← record.eventType
  let eventOffset ← record.eventOffset
  let eventSourceType ← record.eventSourceType
  let eventSeverity ← record.eventSeverity
  let sensorNumber ← record.sensorNumber
  let entity ← record.entity
  let entityInstance ← record.entityInstance
  let eventData ← record.eventData
  pure
    { timestamp := timestamp
      deviceAddress := deviceAddress
      eventSensorType := eventSensorType
      eventType := eventType
      eventOffset := eventOffset
      eventSourceType := eventSourceType
      eventSeverity := eventSeverity
      sensorNumber := sensorNumber
      entity := entity
      entityInstance := entityInstance
      eventData := eventData }

/-- A number of some width, if it is not too large for it. -/
def packed (width n : Nat) : Option Bytes :=
  if n < 256 ^ width then some (packLE width n) else none

/-- Bytes one after the other, as far as they are bytes. -/
def packedBytes : List Nat -> Option Bytes
  | [] => some []
  | n :: rest => do
      let first ← packed 1 n
      let more ← packedBytes rest
      pure (first ++ more)

/-- `_RECORD_STRUCT.pack` -/
def RecordFields.pack (fields : RecordFields) : Option Bytes := do
  let timestamp ← packed 4 fields.timestamp
  let single ← packedBytes
    [fields.deviceAddress, fields.eventSensorType, fields.eventType,
      fields.eventOffset, fields.eventSourceType, fields.eventSeverity,
      fields.sensorNumber, fields.entity, fields.entityInstance]
  let eventData ← packedBytes fields.eventData
  pure (timestamp ++ single ++ eventData)

theorem packed_leNat (bytes : Bytes) {width : Nat}
    (h : bytes.length = width) : packed width (leNat bytes) = some bytes := by
  have hlt : leNat bytes < 256 ^ width := by
    rw [← h]
    exact leNat_lt bytes
  rw [packed, if_pos hlt, ← h, packLE_leNat]

theorem packedBytes_toNat (bytes : Bytes) :
    packedBytes (bytes.map UInt8.toNat) = some bytes := by
  induction bytes with
  | nil => rfl
  | cons b rest ih =>
      have hone : packed 1 b.toNat = some [b] := @packed_leNat [b] 1 rfl
      rw [List.map_cons, packedBytes, hone, ih]
      rfl

theorem slice_eq_map {raw : Bytes} {offset n : Nat}
    (h : offset + n ≤ raw.length) :
    slice raw offset n = (List.range n).map fun i => raw.getD (offset + i) 0 := by
  apply List.ext_getElem
  · rw [slice_length_of_le h, List.length_map, List.length_range]
  · intro i hleft hright
    rw [List.length_map, List.length_range] at hright
    have hin : offset + i < raw.length := by lia
    simp [slice, List.getD_eq_getElem?_getD, List.getElem?_eq_getElem hin]

theorem pack_unpacked {raw : Bytes} {fields : RecordFields}
    (h : unpackFrom raw = Except.ok fields) :
    fields.pack = some (raw.take recordSize) := by
  rw [unpackFrom] at h
  split at h
  · cases h
  · rename_i hlong
    have hlength : 21 ≤ raw.length := Nat.not_lt.mp hlong
    cases h
    have hsingle : [byteOf raw 4, byteOf raw 5, byteOf raw 6, byteOf raw 7,
        byteOf raw 8, byteOf raw 9, byteOf raw 10, byteOf raw 11,
        byteOf raw 12] = (slice raw 4 9).map UInt8.toNat := by
      rw [slice_eq_map (by lia)]
      rfl
    have htimestamp : (slice raw 0 4).length = 4 :=
      slice_length_of_le (by lia)
    have hwhole : slice raw 0 4 ++ slice raw 4 9 ++ slice raw 13 8 =
        raw.take recordSize := by
      have hfront := slice_append raw 0 4 9
      have hall := slice_append raw 0 13 8
      rw [Nat.zero_add] at hfront hall
      rw [hfront, hall]
      rfl
    rw [RecordFields.pack]
    dsimp only
    rw [hsingle, packed_leNat _ htimestamp, packedBytes_toNat,
      packedBytes_toNat, ← hwhole]
    rfl

theorem decodedRecord_fields (encoded : String) {raw : Bytes}
    (h : recordSize ≤ raw.length) :
    exists fields, unpackFrom raw = Except.ok fields ∧
      (decodedRecord encoded raw).fields = some fields := by
  rw [unpackFrom, if_neg (Nat.not_lt.mpr h)]
  exact ⟨_, rfl, rfl⟩

/-!
## What is kept
-/

/-- Nothing but the raw text, the raw bytes and the failure is in a record. -/
def EventRecord.bare (record : EventRecord) : EventRecord where
  rawBase64 := record.rawBase64
  rawHex := record.rawHex
  rawLength := record.rawLength
  decodeError := record.decodeError

/-- What the record of a text is. -/
structure Decodes (encoded : String) (record : EventRecord) : Prop where
  long : forall raw, Base64.b64decode encoded = Except.ok raw ->
    recordSize ≤ raw.length ->
      record.decodeError = none ∧ record.rawHex = some (hexOf raw) ∧
        record.fields.bind RecordFields.pack = some (raw.take recordSize)
  other : (forall raw, Base64.b64decode encoded = Except.ok raw ->
      raw.length < recordSize) ->
    record.decodeError ≠ none ∧ record = record.bare
  empty : isEmptyRecordSlot record = true ↔
    Base64.b64decode encoded = Except.ok (List.replicate recordSize 0)

theorem isEmptyRecordSlot_iff (encoded : String) :
    isEmptyRecordSlot (decodeRecord encoded) = true ↔
      Base64.b64decode encoded = Except.ok (List.replicate recordSize 0) := by
  rw [decodeRecord]
  cases Base64.b64decode encoded with
  | error reason => simp [isEmptyRecordSlot]
  | ok raw =>
      dsimp only
      split
      · rename_i hshort
        have hne : raw ≠ List.replicate recordSize 0 := by
          intro heq
          rw [heq, List.length_replicate] at hshort
          exact Nat.lt_irrefl _ hshort
        simp [isEmptyRecordSlot, hne]
      · constructor
        · intro hempty
          have hhex : hexOf raw = emptySlotHex := by
            simpa [isEmptyRecordSlot, decodedRecord] using hempty
          rw [hexOf_injective hhex]
        · intro heq
          cases heq
          simp [isEmptyRecordSlot, decodedRecord, emptySlotHex]

theorem decodeRecord_long {encoded : String} {raw : Bytes}
    (hraw : Base64.b64decode encoded = Except.ok raw)
    (hlong : recordSize ≤ raw.length) :
    decodeRecord encoded = decodedRecord encoded raw := by
  rw [decodeRecord, hraw]
  exact if_neg (Nat.not_lt.mpr hlong)

/-- Nothing is raised, and nothing of the record is lost. -/
theorem decodeRecord_decodes (encoded : String) :
    decodeRecordRaising encoded = Except.ok (decodeRecord encoded) ∧
      Decodes encoded (decodeRecord encoded) := by
  constructor
  · exact decodeRecordRaising_eq encoded
  constructor
  · intro raw hraw hlong
    rw [decodeRecord_long hraw hlong]
    rcases decodedRecord_fields encoded hlong with
      ⟨fields, hunpacked, hfields⟩
    rw [hfields]
    exact ⟨rfl, rfl, pack_unpacked hunpacked⟩
  · intro hother
    rw [decodeRecord]
    cases hraw : Base64.b64decode encoded with
    | error reason => exact ⟨Option.some_ne_none _, rfl⟩
    | ok raw =>
        dsimp only
        rw [if_pos (hother raw hraw)]
        exact ⟨Option.some_ne_none _, rfl⟩
  · exact isEmptyRecordSlot_iff encoded

end MessageLog
end IntelAmt
