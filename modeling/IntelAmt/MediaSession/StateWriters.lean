import IntelAmt.MediaSession.StateFile

/-!
# Two writers and their readers

Every interleaving of the process that spawned the daemon, of the daemon and of
any number of readers of the state file.  The daemon may die between any two
of its steps; the write of a file goes to it in any pieces.
-/

namespace IntelAmt
namespace MediaSession

open Foundation

/-- The state file and the daemon's temporary file. -/
inductive StatePath where
  | state
  | temp
deriving DecidableEq, Repr

/-- `_write_state_if_absent`. -/
inductive Spawner where
  | started
  | writing (file : Handle) (rest : Bytes)
  | finished

/-- `_write_state_atomic`, over and over. -/
inductive DaemonWriter where
  | idle
  | writing (record : StateRecord) (file : Handle) (rest : Bytes)
  | closed (record : StateRecord)
  | stopped

structure Writers where
  files : Files StatePath
  spawner : Spawner
  daemon : DaemonWriter
  /-- the records that the daemon has renamed into place -/
  completed : List StateRecord

/-- One step of one of the writers. -/
inductive WriterStep (fallback : StateRecord) : Writers -> Writers -> Prop where
  | spawnerFinds {w : Writers} (hspawner : w.spawner = Spawner.started)
      (hopen : w.files.openExclusive StatePath.state = none) :
      WriterStep fallback w { w with spawner := Spawner.finished }
  | spawnerCreates {w : Writers} {file : Handle} {files : Files StatePath}
      (hspawner : w.spawner = Spawner.started)
      (hopen : w.files.openExclusive StatePath.state = some (file, files))
      (hdumped : fallback.Dumped) :
      WriterStep fallback w
        { w with
          files := files
          spawner := Spawner.writing file (stateBytes fallback) }
  | spawnerWrites {w : Writers} {file : Handle} {piece rest : Bytes}
      (hspawner : w.spawner = Spawner.writing file (piece ++ rest)) :
      WriterStep fallback w
        { w with
          files := w.files.write file piece
          spawner := Spawner.writing (file.advance piece.length) rest }
  | spawnerCloses {w : Writers} {file : Handle}
      (hspawner : w.spawner = Spawner.writing file []) :
      WriterStep fallback w { w with spawner := Spawner.finished }
  | daemonOpens {w : Writers} (record : StateRecord)
      (hdaemon : w.daemon = DaemonWriter.idle) :
      WriterStep fallback w
        { w with
          files := (w.files.openTruncate StatePath.temp).2
          daemon := DaemonWriter.writing record
            (w.files.openTruncate StatePath.temp).1 (stateBytes record) }
  | daemonWrites {w : Writers} {record : StateRecord} {file : Handle}
      {piece rest : Bytes}
      (hdaemon : w.daemon =
        DaemonWriter.writing record file (piece ++ rest)) :
      WriterStep fallback w
        { w with
          files := w.files.write file piece
          daemon := DaemonWriter.writing record (file.advance piece.length)
            rest }
  | daemonCloses {w : Writers} {record : StateRecord} {file : Handle}
      (hdaemon : w.daemon = DaemonWriter.writing record file [])
      (hdumped : record.Dumped) :
      WriterStep fallback w { w with daemon := DaemonWriter.closed record }
  | daemonRenames {w : Writers} {record : StateRecord}
      (hdaemon : w.daemon = DaemonWriter.closed record) :
      WriterStep fallback w
        { w with
          files := w.files.rename StatePath.temp StatePath.state
          daemon := DaemonWriter.idle
          completed := w.completed ++ [record] }
  | daemonDiscards {w : Writers} {record : StateRecord} {file : Handle}
      {rest : Bytes}
      (hdaemon : w.daemon = DaemonWriter.writing record file rest) :
      WriterStep fallback w
        { w with
          files := w.files.unlink StatePath.temp
          daemon := DaemonWriter.idle }
  | daemonStops {w : Writers} :
      WriterStep fallback w { w with daemon := DaemonWriter.stopped }

/-- `read_state`, over and over. -/
inductive Reader where
  | idle
  | reading (file : Handle) (raw : Bytes)
  | returned (result : ReadResult)

def Reader.free : Reader -> Bool
  | reading _ _ => false
  | _ => true

structure World (reader : Type) where
  writers : Writers
  readers : reader -> Reader

def Writers.stateFile (w : Writers) : Option Bytes :=
  (w.files.entry StatePath.state).map w.files.contents

section Worlds

variable {reader : Type} [DecidableEq reader]

def World.setReader (w : World reader) (i : reader) (r : Reader) :
    World reader :=
  { w with readers := Function.update w.readers i r }

inductive WorldStep (fallback : StateRecord) :
    World reader -> World reader -> Prop where
  | writer {w : World reader} {writers : Writers}
      (h : WriterStep fallback w.writers writers) :
      WorldStep fallback w { w with writers := writers }
  | readerMisses {w : World reader} (i : reader)
      (hfree : (w.readers i).free = true)
      (hentry : w.writers.files.entry StatePath.state = none) :
      WorldStep fallback w
        (w.setReader i (Reader.returned (Except.ok none)))
  | readerOpens {w : World reader} (i : reader) {inode : Nat}
      (hfree : (w.readers i).free = true)
      (hentry : w.writers.files.entry StatePath.state = some inode) :
      WorldStep fallback w
        (w.setReader i (Reader.reading { inode := inode, offset := 0 } []))
  | readerReads {w : World reader} (i : reader) {file : Handle} {raw : Bytes}
      (n : Nat) (hreader : w.readers i = Reader.reading file raw) :
      WorldStep fallback w
        (w.setReader i
          (Reader.reading
            (file.advance
              (slice (w.writers.files.contents file.inode) file.offset
                n).length)
            (raw ++
              slice (w.writers.files.contents file.inode) file.offset n)))
  | readerEnds {w : World reader} (i : reader) {file : Handle} {raw : Bytes}
      (hreader : w.readers i = Reader.reading file raw)
      (hend : (w.writers.files.contents file.inode).length ≤ file.offset)
      (interpreter : Interpreter) :
      WorldStep fallback w
        (w.setReader i (Reader.returned (parseState interpreter raw)))

/-- A session that begins: no state file, and perhaps a temporary file that an
earlier process of the same number has left. -/
def Writers.start (leftover : Option Bytes) : Writers where
  files :=
    { contents := fun _ => leftover.getD []
      next := 1
      entry := fun path =>
        if path = StatePath.temp ∧ leftover.isSome then some 0 else none }
  spawner := Spawner.started
  daemon := DaemonWriter.idle
  completed := []

inductive Reachable (fallback : StateRecord) (leftover : Option Bytes) :
    World reader -> Prop where
  | start :
      Reachable fallback leftover
        { writers := Writers.start leftover, readers := fun _ => Reader.idle }
  | step {w w' : World reader} (h : Reachable fallback leftover w)
      (hstep : WorldStep fallback w w') : Reachable fallback leftover w'

end Worlds

/-!
## The invariant of the writers
-/

/-- A file that is written from front to back. -/
structure Appends (files : Files StatePath) (file : Handle)
    (rest whole : Bytes) : Prop where
  bound : file.inode < files.next
  whole : files.contents file.inode ++ rest = whole
  offset : file.offset = (files.contents file.inode).length

section Invariant

variable (fallback : StateRecord)

/-- A record that one of the two has written or is writing in sight. -/
def Writers.Written (w : Writers) (r : StateRecord) : Prop :=
  r ∈ w.completed ∨ r = fallback ∧ w.spawner ≠ Spawner.started

/-- A file that the daemon no longer writes. -/
def Writers.Published (w : Writers) (inode : Nat) : Prop :=
  inode < w.files.next ∧ w.files.entry StatePath.temp ≠ some inode

/-- The beginning of a written record, or all of it. -/
def Writers.Holds (w : Writers) (inode : Nat) : Prop :=
  exists r, w.Written fallback r ∧ r.Dumped ∧
    w.files.contents inode <+: stateBytes r

structure Placed (w : Writers) : Prop where
  bounded : forall i, w.files.entry StatePath.temp = some i ->
    i < w.files.next
  visible : forall i, w.files.entry StatePath.state = some i ->
    w.Published i ∧ w.Holds fallback i
  spawner : forall file rest, w.spawner = Spawner.writing file rest ->
    fallback.Dumped ∧ Appends w.files file rest (stateBytes fallback) ∧
      w.Published file.inode
  daemon : forall record file rest,
    w.daemon = DaemonWriter.writing record file rest ->
      Appends w.files file rest (stateBytes record) ∧
        w.files.entry StatePath.temp = some file.inode
  closed : forall record, w.daemon = DaemonWriter.closed record ->
    record.Dumped ∧ exists i, w.files.entry StatePath.temp = some i ∧
      w.files.contents i = stateBytes record
  /-- the daemon's last record is in place, and nobody writes to it -/
  named : forall r, w.completed.getLast? = some r ->
    exists i, w.files.entry StatePath.state = some i ∧
      w.files.contents i = stateBytes r ∧
      forall file rest, w.spawner = Spawner.writing file rest ->
        file.inode ≠ i
  unnamed : w.completed = [] ->
    (w.spawner = Spawner.started ->
      w.files.entry StatePath.state = none) ∧
    (forall file rest, w.spawner = Spawner.writing file rest ->
      w.files.entry StatePath.state = some file.inode) ∧
    (w.spawner = Spawner.finished -> w.stateFile = some (stateBytes fallback))

/-- What the readers rely on from one moment to a later one. -/
structure Later (w w' : Writers) : Prop where
  published : forall i, w.Published i ->
    w'.Published i ∧ w.files.contents i <+: w'.files.contents i
  holds : forall i, w.Published i -> w.Holds fallback i -> w'.Holds fallback i
  written : forall r, w.Written fallback r -> w'.Written fallback r

end Invariant

end MediaSession
end IntelAmt
