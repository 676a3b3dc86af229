import IntelAmt.Foundation.Base64
import IntelAmt.Foundation.Hex
import IntelAmt.Models

/-!
# Records of the event log

The records of `AMT_MessageLog`: 21 bytes each, what is decoded of them, and
the empty slots among them.
-/

namespace IntelAmt
namespace MessageLog

open Foundation

/-!
## Tables
-/

abbrev Table := List (Nat × String)

def eventSeverityTable : Table :=
  [(0, "unspecified"),
    (1, "monitor"),
    (2, "information"),
    (4, "ok"),
    (8, "non_critical"),
    (16, "critical"),
    (32, "non_recoverable")]

def systemEntityTable : Table :=
  [(0, "Unspecified"),
    (1, "Other"),
    (2, "Unknown"),
    (3, "Processor"),
    (4, "Disk"),
    (5, "Peripheral"),
    (6, "System management module"),
    (7, "System board"),
    (8, "Memory module"),
    (9, "Processor module"),
    (10, "Power supply"),
    (11, "Add in card"),
    (12, "Front panel board"),
    (13, "Back panel board"),
    (14, "Power system board"),
    (15, "Drive backplane"),
    (16, "System internal expansion board"),
    (17, "Other system board"),
    (18, "Processor board"),
    (19, "Power unit"),
    (20, "Power module"),
    (21, "Power management board"),
    (22, "Chassis back panel board"),
    (23, "System chassis"),
    (24, "Sub chassis"),
    (25, "Other chassis board"),
    (26, "Disk drive bay"),
    (27, "Peripheral bay"),
    (28, "Device bay"),
    (29, "Fan cooling"),
    (30, "Cooling unit"),
    (31, "Cable interconnect"),
    (32, "Memory device"),
    (33, "System management software"),
    (34, "BIOS"),
    (35, "Intel(r) ME"),
    (36, "System bus"),
    (37, "Group"),
    (38, "Intel(r) ME"),
    (39, "External environment"),
    (40, "Battery"),
    (41, "Processing blade"),
    (42, "Connectivity switch"),
    (43, "Processor/memory module"),
    (44, "I/O module"),
    (45, "Processor I/O module"),
    (46, "Management controller firmware"),
    (47, "IPMI channel"),
    (48, "PCI bus"),
    (49, "PCI express bus"),
    (50, "SCSI bus"),
    (51, "SATA/SAS bus"),
    (52, "Processor front side bus")]

def systemFirmwareErrorTable : Table :=
  [(0, "Unspecified."),
    (1, "No system memory is physically installed in the system."),
    (2,
      "No usable system memory, all installed memory has " ++
        "experienced an unrecoverable failure."),
    (3, "Unrecoverable hard-disk/ATAPI/IDE device failure."),
    (4, "Unrecoverable system-board failure."),
    (5, "Unrecoverable diskette subsystem failure."),
    (6, "Unrecoverable hard-disk controller failure."),
    (7, "Unrecoverable PS/2 or USB keyboard failure."),
    (8, "Removable boot media not found."),
    (9, "Unrecoverable video controller failure."),
    (10, "No video device detected."),
    (11, "Firmware (BIOS) ROM corruption detected."),
    (12,
      "CPU voltage mismatch (processors that share same supply " ++
        "have mismatched voltage requirements)"),
    (13, "CPU speed matching failure")]

def systemFirmwareProgressTable : Table :=
  [(0, "Unspecified."),
    (1, "Memory initialization."),
    (2, "Starting hard-disk initialization and test"),
    (3, "Secondary processor(s) initialization"),
    (4, "User authentication"),
    (5, "User-initiated system setup"),
    (6, "USB resource configuration"),
    (7, "PCI resource configuration"),
    (8, "Option ROM initialization"),
    (9, "Video initialization"),
    (10, "Cache initialization"),
    (11, "SM Bus initialization"),
    (12, "Keyboard controller initialization"),
    (13, "Embedded controller/management controller initialization"),
    (14, "Docking station attachment"),
    (15, "Enabling docking station"),
    (16, "Docking station ejection"),
    (17, "Disabling docking station"),
    (18, "Calling operating system wake-up vector"),
    (19, "Starting operating system boot process"),
    (20, "Baseboard or motherboard initialization"),
    (21, "reserved"),
    (22, "Floppy initialization"),
    (23, "Keyboard test"),
    (24, "Pointing device test"),
    (25, "Primary processor initialization")]

def watchdogStateTable : Table :=
  [(1, "Not Started"),
    (2, "Stopped"),
    (4, "Running"),
    (8, "Expired"),
    (16, "Suspended")]

def fixedSensorDescriptions : Table :=
  [(30, "No bootable media"),
    (32, "Operating system lockup or power interrupt"),
    (35, "System boot failure"),
    (37,
      "System firmware started (at least one CPU is properly " ++
        "executing).")]

/-- `_decode_table`. -/
def decodeTable (table : Table) (value : Nat) : String :=
  (table.lookup value).getD ("unknown(" ++ toString value ++ ")")

/-!
## Texts
-/

def zeroFilled (width n : Nat) : String :=
  let digits := toString n
  String.ofList (List.replicate (width - digits.length) '0') ++ digits

/-- Year, month and day of a day that is counted from 1970 on. -/
def civilDate (day : Nat) : Nat × Nat × Nat :=
  -- years begin in March, so that a leap day comes last
  let shifted := day + 719468
  let era := shifted / 146097
  let dayOfEra := shifted % 146097
  let yearOfEra :=
    (dayOfEra - dayOfEra / 1460 + dayOfEra / 36524 - dayOfEra / 146096) / 365
  let dayOfYear :=
    dayOfEra - (365 * yearOfEra + yearOfEra / 4 - yearOfEra / 100)
  let month := (5 * dayOfYear + 2) / 153
  let year := yearOfEra + era * 400
  (if month < 10 then year else year + 1,
    if month < 10 then month + 3 else month - 9,
    dayOfYear - (153 * month + 2) / 5 + 1)

/-- `_format_timestamp`. -/
def formatTimestamp (timestamp : Nat) : Option String :=
  if timestamp = 0 || timestamp = 0xFFFFFFFF then none
  else
    let (year, month, day) := civilDate (timestamp / 86400)
    let second := timestamp % 86400
    some
      (zeroFilled 4 year ++ "-" ++ zeroFilled 2 month ++ "-" ++
        zeroFilled 2 day ++ "T" ++ zeroFilled 2 (second / 3600) ++ ":" ++
        zeroFilled 2 (second / 60 % 60) ++ ":" ++ zeroFilled 2 (second % 60) ++
        "Z")

example : formatTimestamp 0x6598c863 = some "2024-01-06T03:26:27Z" := by
  decide +kernel

/-!
## Descriptions
-/

def byteOf (data : Bytes) (i : Nat) : Nat := (data.getD i 0).toNat

/-- `_describe_firmware`. -/
def describeFirmware (eventOffset : Nat) (eventData : Bytes) :
    Option String :=
  if byteOf eventData 0 = 0xEB then some "Invalid Data"
  else if eventOffset = 0 then
    systemFirmwareErrorTable.lookup (byteOf eventData 1)
  -- the sources of the tables disagree about this marker
  else if byteOf eventData 0 = 0xAA then none
  else systemFirmwareProgressTable.lookup (byteOf eventData 1)

/-- `_describe_watchdog`. -/
def describeWatchdog (eventData : Bytes) : Option String :=
  if byteOf eventData 0 ≠ 0xAA then none
  else
    some
      ("Agent watchdog " ++
        hexOf ([4, 3, 2, 1].map fun i => eventData.getD i 0) ++ "-" ++
        hexOf ([6, 5].map fun i => eventData.getD i 0) ++
        "-... changed to " ++
        decodeTable watchdogStateTable (byteOf eventData 7))

/-- `describe_event`. -/
def describeEvent (eventSensorType eventOffset : Nat) (eventData : Bytes) :
    Option String :=
  if eventData.length < 8 then none
  else if eventSensorType = 6 then
    some
      ("Authentication failed " ++
        toString (byteOf eventData 1 + byteOf eventData 2 * 256) ++
        " times. The system may be under attack.")
  else if eventSensorType = 15 then describeFirmware eventOffset eventData
  else if eventSensorType = 18 then describeWatchdog eventData
  else fixedSensorDescriptions.lookup eventSensorType

/-!
## Records
-/

structure EventRecord where
  rawBase64 : String
  rawHex : Option String := none
  rawLength : Option Nat := none
  decodeError : Option String := none
  timestamp : Option Nat := none
  timestampUtc : Option String := none
  deviceAddress : Option Nat := none
  eventSensorType : Option Nat := none
  eventType : Option Nat := none
  eventOffset : Option Nat := none
  eventSourceType : Option Nat := none
  eventSeverity : Option Nat := none
  eventSeverityText : Option String := none
  sensorNumber : Option Nat := none
  entity : Option Nat := none
  entityText : Option String := none
  entityInstance : Option Nat := none
  eventData : Option (List Nat) := none
  description : Option String := none
deriving DecidableEq, Repr

def recordSize : Nat := 21

/-- The fields of a record that is long enough. -/
def decodedRecord (encoded : String) (raw : Bytes) : EventRecord :=
  let timestamp := leNat (slice raw 0 4)
  let eventData := slice raw 13 8
  { rawBase64 := encoded
    rawHex := some (hexOf raw)
    rawLength := some raw.length
    timestamp := some timestamp
    timestampUtc := formatTimestamp timestamp
    deviceAddress := some (byteOf raw 4)
    eventSensorType := some (byteOf raw 5)
    eventType := some (byteOf raw 6)
    eventOffset := some (byteOf raw 7)
    eventSourceType := some (byteOf raw 8)
    eventSeverity := some (byteOf raw 9)
    eventSeverityText := some (decodeTable eventSeverityTable (byteOf raw 9))
    sensorNumber := some (byteOf raw 10)
    entity := some (byteOf raw 11)
    entityText := some (decodeTable systemEntityTable (byteOf raw 11))
    entityInstance := some (byteOf raw 12)
    eventData := some (eventData.map UInt8.toNat)
    description := describeEvent (byteOf raw 5) (byteOf raw 7) eventData }

/-- `decode_record`. -/
def decodeRecord (encoded : String) : EventRecord :=
  match Base64.b64decode encoded with
  | Except.error reason =>
      { rawBase64 := encoded
        decodeError := some ("record is not valid base64: " ++ reason) }
  | Except.ok raw =>
      if raw.length < recordSize then
        { rawBase64 := encoded
          rawHex := some (hexOf raw)
          rawLength := some raw.length
          decodeError := some
            ("record is " ++ toString raw.length ++
              " bytes, expected at least " ++ toString recordSize) }
      else decodedRecord encoded raw

def emptySlotHex : String := hexOf (List.replicate recordSize 0)

/-- `is_empty_record_slot`. -/
def isEmptyRecordSlot (record : EventRecord) : Bool :=
  record.decodeError.isNone && record.rawHex = some emptySlotHex

example :
    (decodeRecord "Y8iYZf8GbwVoEP8mYaoKAAAAAAAA").description =
      some "Authentication failed 10 times. The system may be under attack." := by
  decide +kernel

end MessageLog
end IntelAmt
