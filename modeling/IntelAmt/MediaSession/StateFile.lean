import IntelAmt.Foundation.Files
import IntelAmt.Foundation.Json.RoundTrip
import IntelAmt.Foundation.Text
import IntelAmt.MediaSession.Record

/-!
# The state file

What the processes of a session do with the state file, split where the
operating system can switch between them: the process that spawned the daemon
creates the file if there is none, the daemon writes a temporary file and
renames it, and readers read whatever file the name led to when they opened it.
-/

namespace IntelAmt
namespace MediaSession

open Foundation Ider

/-!
## The contents
-/

def jsonText (s : String) : Json := Json.str (s.toList.map Char.toNat)

def jsonKey (s : String) : List Nat := s.toList.map Char.toNat

def jsonNat (n : Nat) : Json := Json.int n

def orNull {alpha : Type} (f : alpha -> Json) : Option alpha -> Json
  | none => Json.null
  | some a => f a

def deviceMembers (d : DeviceRecord) : List (List Nat × Json) :=
  [(jsonKey "path", jsonText d.path),
    (jsonKey "device", jsonText d.device),
    (jsonKey "writable", Json.bool d.writable),
    (jsonKey "size", jsonNat d.size),
    (jsonKey "bytes_read", jsonNat d.bytesRead),
    (jsonKey "bytes_written", jsonNat d.bytesWritten)]

def devicesMembers (devices : Dict DeviceCode DeviceRecord) :
    List (List Nat × Json) :=
  devices.entries.map fun entry =>
    (jsonKey (slotName entry.1), Json.obj (deviceMembers entry.2))

/-- The record as the dict that is written. -/
def recordMembers (r : StateRecord) : List (List Nat × Json) :=
  [(jsonKey "session_id", jsonText r.sessionId),
    (jsonKey "pid", jsonNat r.pid),
    (jsonKey "endpoint", jsonText r.endpoint),
    (jsonKey "state", jsonText r.state.name),
    (jsonKey "error", orNull jsonText r.error),
    (jsonKey "error_class", orNull (fun c => jsonText c.name) r.errorClass),
    (jsonKey "tls_peer_fingerprint", orNull jsonText r.tlsPeerFingerprint),
    (jsonKey "devices", Json.obj (devicesMembers r.devices)),
    (jsonKey "started_at", jsonText r.startedAt),
    (jsonKey "updated_at", jsonText r.updatedAt)]

/-- `json.dump` converts the number. -/
def Converted (n : Nat) : Prop :=
  (Nat.toDigits 10 n).length ≤ Json.maxTextDigits

instance (n : Nat) : Decidable (Converted n) :=
  inferInstanceAs (Decidable (_ ≤ _))

/-- `json.dump` writes the record: none of its numbers is too long. -/
structure StateRecord.Dumped (r : StateRecord) : Prop where
  pid : Converted r.pid
  devices : forall entry, entry ∈ r.devices.entries ->
    Converted entry.2.size ∧ Converted entry.2.bytesRead ∧
      Converted entry.2.bytesWritten

theorem initialState_dumped {pid : Nat} (hpid : Converted pid)
    (sessionId endpoint now : String) :
    (initialState sessionId endpoint pid now).Dumped where
  pid := hpid
  devices := by
    intro entry hentry
    cases hentry

def recordText (r : StateRecord) : List Char :=
  Json.dumps (Json.obj (recordMembers r))

/-- What `json.dump` puts into the file. -/
def stateBytes (r : StateRecord) : Bytes := encodeUtf8 (recordText r)

/-- How many arrays and objects are read inside one another where a state file
is read, before the interpreter has no room for more calls: a record fits. -/
structure Interpreter where
  nesting : Nat
  room : 3 ≤ nesting

def usualInterpreter : Interpreter where
  nesting := 900
  room := by decide

/-- `UnicodeDecodeError` and `RecursionError`, which `read_state` does not
catch. -/
inductive ReadError where
  | unicodeDecode
  | recursion
deriving DecidableEq, Repr

/-- What `read_state` makes of the bytes of a file. -/
def parseState (interpreter : Interpreter) (raw : Bytes) :
    Except ReadError (Option (List (List Nat × Json))) :=
  match decodeUtf8 raw with
  | none => Except.error ReadError.unicodeDecode
  | some text =>
      match Json.loads interpreter.nesting (universalNewlines text) with
      | Except.error Json.ScanError.recursion => Except.error ReadError.recursion
      | Except.ok (Json.obj members) => Except.ok (some members)
      | _ => Except.ok none

abbrev ReadResult := Except ReadError (Option (List (List Nat × Json)))

/-!
## What is written is read
-/

theorem scalarText_toNat (s : List Char) :
    Json.ScalarText (s.map Char.toNat) := by
  intro n hn
  rcases List.mem_map.mp hn with ⟨c, _, rfl⟩
  exact c.valid

theorem jsonText_plain (s : String) : Json.Plain (jsonText s) :=
  scalarText_toNat _

theorem jsonKey_scalar (s : String) : Json.ScalarText (jsonKey s) :=
  scalarText_toNat _

theorem orNull_plain {alpha : Type} {f : alpha -> Json}
    (h : forall a, Json.Plain (f a)) (a : Option alpha) :
    Json.Plain (orNull f a) := by
  cases a with
  | none => trivial
  | some a => exact h a

theorem slotName_injective {slot slot' : DeviceCode}
    (h : jsonKey (slotName slot) = jsonKey (slotName slot')) :
    slot = slot' := by
  cases slot <;> cases slot' <;> first | rfl | exact absurd h (by decide)

theorem deviceMembers_plain {d : DeviceRecord} (hsize : Converted d.size)
    (hread : Converted d.bytesRead) (hwritten : Converted d.bytesWritten) :
    Json.Plain (Json.obj (deviceMembers d)) := by
  have hkeys : (["path", "device", "writable", "size", "bytes_read",
      "bytes_written"].map jsonKey).Nodup := by decide
  refine ⟨?_, hkeys⟩
  exact ⟨jsonKey_scalar _, jsonText_plain _, jsonKey_scalar _,
    jsonText_plain _, jsonKey_scalar _, trivial, jsonKey_scalar _, hsize,
    jsonKey_scalar _, hread, jsonKey_scalar _, hwritten, trivial⟩

theorem devicesMembers_plain {devices : Dict DeviceCode DeviceRecord}
    (h : forall entry, entry ∈ devices.entries ->
      Converted entry.2.size ∧ Converted entry.2.bytesRead ∧
        Converted entry.2.bytesWritten) :
    Json.Plain (Json.obj (devicesMembers devices)) := by
  constructor
  · unfold devicesMembers
    generalize devices.entries = entries at h
    induction entries with
    | nil => trivial
    | cons entry entries ih =>
        rcases h entry List.mem_cons_self with ⟨hsize, hread, hwritten⟩
        exact ⟨jsonKey_scalar _, deviceMembers_plain hsize hread hwritten,
          ih fun other hmem => h other (List.mem_cons_of_mem _ hmem)⟩
  · have hkeys : (devicesMembers devices).map Prod.fst =
        (devices.entries.map Prod.fst).map fun slot =>
          jsonKey (slotName slot) := by
      simp [devicesMembers]
    rw [hkeys]
    exact devices.nodup.map fun _ _ h => slotName_injective h

theorem devicesMembers_height (entries : List (DeviceCode × DeviceRecord)) :
    Json.heightMembers (entries.map fun entry =>
      (jsonKey (slotName entry.1), Json.obj (deviceMembers entry.2))) ≤ 1 := by
  induction entries with
  | nil => exact Nat.zero_le 1
  | cons entry entries ih => exact Nat.max_le.mpr ⟨Nat.le_refl 1, ih⟩

section Dumped

variable {r : StateRecord}

theorem StateRecord.Dumped.plain (h : r.Dumped) :
    Json.Plain (Json.obj (recordMembers r)) := by
  have hkeys : (["session_id", "pid", "endpoint", "state", "error",
      "error_class", "tls_peer_fingerprint", "devices", "started_at",
      "updated_at"].map jsonKey).Nodup := by decide
  refine ⟨?_, hkeys⟩
  exact ⟨jsonKey_scalar _, jsonText_plain _, jsonKey_scalar _, h.pid,
    jsonKey_scalar _, jsonText_plain _, jsonKey_scalar _, jsonText_plain _,
    jsonKey_scalar _, orNull_plain jsonText_plain _,
    jsonKey_scalar _, orNull_plain (fun _ => jsonText_plain _) _,
    jsonKey_scalar _, orNull_plain jsonText_plain _,
    jsonKey_scalar _, devicesMembers_plain h.devices,
    jsonKey_scalar _, jsonText_plain _, jsonKey_scalar _, jsonText_plain _,
    trivial⟩

theorem orNull_height {alpha : Type} {f : alpha -> Json}
    (h : forall a, Json.height (f a) = 0) (a : Option alpha) :
    Json.height (orNull f a) = 0 := by
  cases a with
  | none => rfl
  | some a => exact h a

theorem recordMembers_height (r : StateRecord) :
    Json.height (Json.obj (recordMembers r)) ≤ 3 := by
  have htext (s : String) : Json.height (jsonText s) = 0 := rfl
  have herror := orNull_height htext r.error
  have hclass := orNull_height (fun c => htext c.name) r.errorClass
  have hpeer := orNull_height htext r.tlsPeerFingerprint
  have hdevices := devicesMembers_height r.devices.entries
  simp only [recordMembers, Json.height, Json.heightMembers, jsonNat, htext,
    herror, hclass, hpeer, devicesMembers]
  lia

theorem StateRecord.Dumped.printable (h : r.Dumped) :
    Json.Printable (recordText r) :=
  Json.dumps_printable _ h.plain

theorem StateRecord.Dumped.ascii (h : r.Dumped) :
    forall c, c ∈ recordText r -> c.toNat < 128 := by
  intro c hc
  have hprint := of_decide_eq_true (h.printable c hc)
  lia

theorem StateRecord.Dumped.length (h : r.Dumped) :
    (stateBytes r).length = (recordText r).length := by
  rw [stateBytes, encodeUtf8_of_ascii h.ascii, List.length_map]

theorem parseState_stateBytes (h : r.Dumped) (interpreter : Interpreter) :
    parseState interpreter (stateBytes r) =
      Except.ok (some (recordMembers r)) := by
  have hdecode : decodeUtf8 (stateBytes r) = some (recordText r) :=
    decodeUtf8_encodeUtf8 _
  have hnewlines : universalNewlines (recordText r) = recordText r := by
    apply universalNewlines_of_notMem
    intro hmem
    have hprint := h.printable _ hmem
    cases hprint
  have hheight := Nat.le_trans (recordMembers_height r) interpreter.room
  unfold parseState
  simp only [hdecode, hnewlines]
  rw [recordText, Json.loads_dumps h.plain hheight]

/-- A file that holds the beginning of a record reads as a session that is not
there, or as the record when it holds all of it. -/
theorem parseState_prefix (h : r.Dumped) (interpreter : Interpreter)
    {raw : Bytes} (hraw : raw <+: stateBytes r) :
    parseState interpreter raw = Except.ok none ∨
      raw = stateBytes r ∧ parseState interpreter raw =
        Except.ok (some (recordMembers r)) := by
  by_cases hwhole : raw.length = (stateBytes r).length
  · right
    have heq : raw = stateBytes r := hraw.eq_of_length hwhole
    exact ⟨heq, by rw [heq, parseState_stateBytes h]⟩
  · left
    have hdecode := decodeUtf8_prefix h.ascii hraw
    have hnewlines : universalNewlines ((recordText r).take raw.length) =
        (recordText r).take raw.length := by
      apply universalNewlines_of_notMem
      intro hmem
      have hprint := h.printable _ (List.mem_of_mem_take hmem)
      cases hprint
    have hrest : (recordText r).drop raw.length ≠ [] := by
      intro hnil
      have hle := List.drop_eq_nil_iff.mp hnil
      have hle' := hraw.length_le
      rw [h.length] at hwhole hle'
      exact hwhole (Nat.le_antisymm hle' hle)
    have hnone := Json.loads_prefix h.plain
      (Nat.le_trans (recordMembers_height r) interpreter.room)
      (List.take_append_drop raw.length (recordText r)) hrest
    unfold parseState
    simp only [hdecode, hnewlines]
    rw [hnone]

end Dumped

end MediaSession
end IntelAmt
