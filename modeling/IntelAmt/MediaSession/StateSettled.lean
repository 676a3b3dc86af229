import Mathlib.Data.List.Infix
import IntelAmt.MediaSession.StateWriters

/-!
# The daemon's word stands

What one step of a writer preserves, and from it what every run leaves in the
state file and what its readers find there.
-/

namespace IntelAmt
namespace MediaSession

open Foundation

variable {fallback : StateRecord}

/-!
## Files that grow
-/

section Growing

variable {files files' : Files StatePath} {file : Handle}
variable {rest piece whole : Bytes}

theorem Appends.congr (h : Appends files file rest whole)
    (hnext : files.next ≤ files'.next)
    (hsame : files'.contents file.inode = files.contents file.inode) :
    Appends files' file rest whole where
  bound := Nat.lt_of_lt_of_le h.bound hnext
  whole := by
    rw [hsame]
    exact h.whole
  offset := by
    rw [hsame]
    exact h.offset

theorem Appends.write (h : Appends files file (piece ++ rest) whole) :
    Appends (files.write file piece) (file.advance piece.length) rest
      whole where
  bound := h.bound
  whole := by
    show (files.write file piece).contents file.inode ++ rest = whole
    rw [Files.write_contents_of_end h.offset, List.append_assoc]
    exact h.whole
  offset := by
    show file.offset + piece.length =
      ((files.write file piece).contents file.inode).length
    rw [Files.write_contents_of_end h.offset, List.length_append, h.offset]

theorem Appends.beginning (h : Appends files file rest whole) :
    files.contents file.inode <+: whole :=
  ⟨rest, h.whole⟩

theorem Appends.whole_of_nil (h : Appends files file [] whole) :
    files.contents file.inode = whole := by
  rw [← h.whole, List.append_nil]

theorem contents_write_of_ne {i : Nat} (h : i ≠ file.inode) :
    (files.write file piece).contents i = files.contents i :=
  Files.write_contents_of_ne h

end Growing

/-!
## Steps that leave the files alone
-/

theorem Later.of_same {w w' : Writers} (hfiles : w'.files = w.files)
    (hcompleted : w'.completed = w.completed)
    (hspawner : w.spawner ≠ Spawner.started ->
      w'.spawner ≠ Spawner.started) : Later fallback w w' := by
  have hwritten : forall r, w.Written fallback r -> w'.Written fallback r := by
    rintro r (hdaemon | ⟨hr, hstarted⟩)
    · exact Or.inl (hcompleted ▸ hdaemon)
    · exact Or.inr ⟨hr, hspawner hstarted⟩
  constructor
  · intro i hi
    unfold Writers.Published at hi ⊢
    rw [hfiles]
    exact ⟨hi, List.prefix_refl _⟩
  · rintro i _ ⟨r, hr, hdumped, hprefix⟩
    exact ⟨r, hwritten r hr, hdumped, hfiles ▸ hprefix⟩
  · exact hwritten

/-- What leads from one moment to the next: the files that are published stay,
with the same contents or a longer beginning of a written record. -/
theorem Later.of_kept {w w' : Writers}
    (hwritten : forall r, w.Written fallback r -> w'.Written fallback r)
    (hkept : forall i, w.Published i -> w'.Published i ∧
      (w'.files.contents i = w.files.contents i ∨
        w.files.contents i <+: w'.files.contents i ∧ w'.Holds fallback i)) :
    Later fallback w w' := by
  constructor
  · intro i hi
    rcases hkept i hi with ⟨hpublished, hsame | ⟨hgrown, _⟩⟩
    · exact ⟨hpublished, hsame ▸ List.prefix_refl _⟩
    · exact ⟨hpublished, hgrown⟩
  · rintro i hi ⟨r, hr, hdumped, hprefix⟩
    rcases hkept i hi with ⟨_, hsame | ⟨_, hholds⟩⟩
    · exact ⟨r, hwritten r hr, hdumped, hsame ▸ hprefix⟩
    · exact hholds
  · exact hwritten

theorem stateFile_congr {w w' : Writers}
    (hentry : w'.files.entry StatePath.state =
      w.files.entry StatePath.state)
    (hcontents : forall i, w.files.entry StatePath.state = some i ->
      w'.files.contents i = w.files.contents i) :
    w'.stateFile = w.stateFile := by
  unfold Writers.stateFile
  rw [hentry]
  cases hstate : w.files.entry StatePath.state with
  | none => rfl
  | some i => rw [Option.map_some, Option.map_some, hcontents i hstate]

/-!
## The spawner
-/

/-- The spawner is done where it finds a file or has written one. -/
theorem placed_spawnerEnds {w : Writers} (h : Placed fallback w)
    (hfallback : w.completed = [] ->
      w.stateFile = some (stateBytes fallback)) :
    Placed fallback { w with spawner := Spawner.finished } ∧
      Later fallback w { w with spawner := Spawner.finished } := by
  have hlater : Later fallback w { w with spawner := Spawner.finished } :=
    Later.of_same rfl rfl (by nofun)
  refine ⟨?_, hlater⟩
  constructor
  · exact h.bounded
  · intro i hi
    rcases h.visible i hi with ⟨hpublished, hholds⟩
    exact ⟨hpublished, hlater.holds i hpublished hholds⟩
  · nofun
  · exact h.daemon
  · exact h.closed
  · intro r hr
    rcases h.named r hr with ⟨i, hi, hcontents, _⟩
    exact ⟨i, hi, hcontents, by nofun⟩
  · exact fun hnone => ⟨by nofun, by nofun, fun _ => hfallback hnone⟩

theorem placed_spawnerFinds {w : Writers} (h : Placed fallback w)
    (hspawner : w.spawner = Spawner.started)
    (hopen : w.files.openExclusive StatePath.state = none) :
    Placed fallback { w with spawner := Spawner.finished } ∧
      Later fallback w { w with spawner := Spawner.finished } := by
  rcases Files.openExclusive_eq_none.mp hopen with ⟨inode, hentry⟩
  apply placed_spawnerEnds h
  intro hnone
  rw [(h.unnamed hnone).1 hspawner] at hentry
  cases hentry

theorem placed_spawnerCreates {w : Writers} (h : Placed fallback w)
    {file : Handle} {files : Files StatePath}
    (hspawner : w.spawner = Spawner.started)
    (hopen : w.files.openExclusive StatePath.state = some (file, files))
    (hdumped : fallback.Dumped) :
    Placed fallback
        { w with
          files := files
          spawner := Spawner.writing file (stateBytes fallback) } ∧
      Later fallback w
        { w with
          files := files
          spawner := Spawner.writing file (stateBytes fallback) } := by
  rcases Files.openExclusive_created hopen with ⟨hentry, hoffset, hcreated⟩
  have htemp : files.entry StatePath.temp = w.files.entry StatePath.temp :=
    hcreated.others _ (by decide)
  have hnext : w.files.next ≤ files.next := by
    rw [hcreated.next]
    exact Nat.le_succ _
  have hold : forall i, i < w.files.next ->
      files.contents i = w.files.contents i := by
    intro i hi
    apply hcreated.contents
    rw [hcreated.number]
    exact Nat.ne_of_lt hi
  have hbound : file.inode < files.next := by
    rw [hcreated.next, hcreated.number]
    exact Nat.lt_succ_self _
  have hnottemp : files.entry StatePath.temp ≠ some file.inode := by
    intro hsame
    rw [htemp] at hsame
    have hlt := h.bounded _ hsame
    rw [hcreated.number] at hlt
    exact Nat.lt_irrefl _ hlt
  constructor
  · constructor
    · intro i hi
      rw [htemp] at hi
      exact Nat.lt_of_lt_of_le (h.bounded i hi) hnext
    · intro i hi
      have hself : i = file.inode :=
        Option.some.inj (hi.symm.trans hcreated.self)
      subst hself
      refine ⟨⟨hbound, hnottemp⟩, fallback, Or.inr ⟨rfl, by nofun⟩, hdumped,
        ?_⟩
      rw [hcreated.empty]
      exact List.nil_prefix
    · intro file' rest hwriting
      cases hwriting
      refine ⟨hdumped, ⟨hbound, ?_, ?_⟩, hbound, hnottemp⟩
      · rw [hcreated.empty]
        rfl
      · rw [hcreated.empty, hoffset]
        rfl
    · intro record file' rest hdaemon
      rcases h.daemon record file' rest hdaemon with ⟨happends, htempfile⟩
      exact ⟨happends.congr hnext (hold _ happends.bound),
        htemp.trans htempfile⟩
    · intro record hdaemon
      rcases h.closed record hdaemon with ⟨hrecord, i, hi, hcontents⟩
      exact ⟨hrecord, i, htemp.trans hi,
        (hold i (h.bounded i hi)).trans hcontents⟩
    · intro r hr
      rcases h.named r hr with ⟨i, hi, _, _⟩
      rw [hentry] at hi
      cases hi
    · intro _
      refine ⟨by nofun, ?_, by nofun⟩
      intro file' rest hwriting
      cases hwriting
      exact hcreated.self
  · apply Later.of_kept
    · rintro r (hdaemon | ⟨_, hstarted⟩)
      · exact Or.inl hdaemon
      · exact absurd hspawner hstarted
    · rintro i ⟨hi, hitemp⟩
      refine ⟨⟨Nat.lt_of_lt_of_le hi hnext, ?_⟩, Or.inl (hold i hi)⟩
      show files.entry StatePath.temp ≠ some i
      rw [htemp]
      exact hitemp

theorem placed_spawnerWrites {w : Writers} (h : Placed fallback w)
    {file : Handle} {piece rest : Bytes}
    (hspawner : w.spawner = Spawner.writing file (piece ++ rest)) :
    Placed fallback
        { w with
          files := w.files.write file piece
          spawner := Spawner.writing (file.advance piece.length) rest } ∧
      Later fallback w
        { w with
          files := w.files.write file piece
          spawner := Spawner.writing (file.advance piece.length) rest } := by
  rcases h.spawner _ _ hspawner with ⟨hdumped, happends, hpublished⟩
  have hlater : Later fallback w
      { w with
        files := w.files.write file piece
        spawner := Spawner.writing (file.advance piece.length) rest } := by
    apply Later.of_kept
    · rintro r (hdaemon | ⟨hr, _⟩)
      · exact Or.inl hdaemon
      · exact Or.inr ⟨hr, by nofun⟩
    · intro i hi
      refine ⟨hi, ?_⟩
      by_cases hself : i = file.inode
      · right
        rw [hself]
        constructor
        · show w.files.contents file.inode <+:
            (w.files.write file piece).contents file.inode
          rw [Files.write_contents_of_end happends.offset]
          exact List.prefix_append _ _
        · exact ⟨fallback, Or.inr ⟨rfl, by nofun⟩, hdumped,
            happends.write.beginning⟩
      · exact Or.inl (contents_write_of_ne hself)
  refine ⟨?_, hlater⟩
  constructor
  · exact h.bounded
  · intro i hi
    rcases h.visible i hi with ⟨hpub, hholds⟩
    exact ⟨hpub, hlater.holds i hpub hholds⟩
  · intro file' rest' hwriting
    cases hwriting
    exact ⟨hdumped, happends.write, hpublished⟩
  · intro record file' rest' hdaemon
    rcases h.daemon record file' rest' hdaemon with ⟨happends', htemp⟩
    have hne : file'.inode ≠ file.inode := by
      intro heq
      exact hpublished.2 (heq ▸ htemp)
    exact ⟨happends'.congr (Nat.le_refl _) (contents_write_of_ne hne), htemp⟩
  · intro record hdaemon
    rcases h.closed record hdaemon with ⟨hrecord, i, hi, hcontents⟩
    have hne : i ≠ file.inode := by
      intro heq
      exact hpublished.2 (heq ▸ hi)
    exact ⟨hrecord, i, hi, (contents_write_of_ne hne).trans hcontents⟩
  · intro r hr
    rcases h.named r hr with ⟨i, hi, hcontents, hapart⟩
    have hne : i ≠ file.inode := (hapart _ _ hspawner).symm
    refine ⟨i, hi, (contents_write_of_ne hne).trans hcontents, ?_⟩
    intro file' rest' hwriting
    cases hwriting
    have hself := hapart _ _ hspawner
    exact hself
  · intro hnone
    refine ⟨by nofun, ?_, by nofun⟩
    intro file' rest' hwriting
    cases hwriting
    have hself := (h.unnamed hnone).2.1 _ _ hspawner
    exact hself

theorem placed_spawnerCloses {w : Writers} (h : Placed fallback w)
    {file : Handle} (hspawner : w.spawner = Spawner.writing file []) :
    Placed fallback { w with spawner := Spawner.finished } ∧
      Later fallback w { w with spawner := Spawner.finished } := by
  rcases h.spawner _ _ hspawner with ⟨_, happends, _⟩
  apply placed_spawnerEnds h
  intro hnone
  have hentry := (h.unnamed hnone).2.1 _ _ hspawner
  rw [Writers.stateFile, hentry, Option.map_some, happends.whole_of_nil]

/-!
## The daemon
-/

/-- Files in which the state file and everything that is published are as they
were. -/
structure LeavesPublished (w : Writers) (files : Files StatePath) : Prop where
  state : files.entry StatePath.state = w.files.entry StatePath.state
  next : w.files.next ≤ files.next
  temp : forall i, files.entry StatePath.temp = some i -> ¬ w.Published i
  contents : forall i, w.Published i ->
    files.contents i = w.files.contents i

theorem LeavesPublished.published {w : Writers} {files : Files StatePath}
    (hleaves : LeavesPublished w files) {i : Nat} (hi : w.Published i)
    (daemon : DaemonWriter) :
    Writers.Published { w with files := files, daemon := daemon } i := by
  constructor
  · exact Nat.lt_of_lt_of_le hi.1 hleaves.next
  · exact fun htemp => hleaves.temp i htemp hi

theorem placed_of_leaves {w : Writers} (h : Placed fallback w)
    {files : Files StatePath} (hleaves : LeavesPublished w files)
    (daemon : DaemonWriter)
    (hbounded : forall i, files.entry StatePath.temp = some i ->
      i < files.next)
    (hwriting : forall record file rest,
      daemon = DaemonWriter.writing record file rest ->
        Appends files file rest (stateBytes record) ∧
          files.entry StatePath.temp = some file.inode)
    (hclosed : forall record, daemon = DaemonWriter.closed record ->
      record.Dumped ∧ exists i, files.entry StatePath.temp = some i ∧
        files.contents i = stateBytes record) :
    Placed fallback { w with files := files, daemon := daemon } ∧
      Later fallback w { w with files := files, daemon := daemon } := by
  have hlater : Later fallback w
      { w with files := files, daemon := daemon } := by
    apply Later.of_kept
    · exact fun r hr => hr
    · exact fun i hi =>
        ⟨hleaves.published hi daemon, Or.inl (hleaves.contents i hi)⟩
  refine ⟨?_, hlater⟩
  constructor
  · exact hbounded
  · intro i hi
    rcases h.visible i (hleaves.state.symm.trans hi) with ⟨hpub, hholds⟩
    exact ⟨hleaves.published hpub daemon, hlater.holds i hpub hholds⟩
  · intro file rest hspawner
    rcases h.spawner file rest hspawner with ⟨hdumped, happends, hpub⟩
    exact ⟨hdumped, happends.congr hleaves.next (hleaves.contents _ hpub),
      hleaves.published hpub daemon⟩
  · exact hwriting
  · exact hclosed
  · intro r hr
    rcases h.named r hr with ⟨i, hi, hsame, hapart⟩
    have hpub := (h.visible i hi).1
    exact ⟨i, hleaves.state.trans hi, (hleaves.contents i hpub).trans hsame,
      hapart⟩
  · intro hnone
    rcases h.unnamed hnone with ⟨hstarted, hspawner, hfinished⟩
    refine ⟨fun hs => hleaves.state.trans (hstarted hs),
      fun file rest hs => hleaves.state.trans (hspawner file rest hs), ?_⟩
    intro hs
    rw [← hfinished hs]
    exact stateFile_congr hleaves.state fun i hi =>
      hleaves.contents i (h.visible i hi).1

theorem openTruncate_temp {w : Writers} (h : Placed fallback w) :
    let opened := w.files.openTruncate StatePath.temp
    opened.1.offset = 0 ∧
      opened.2.entry StatePath.temp = some opened.1.inode ∧
      opened.2.entry StatePath.state = w.files.entry StatePath.state ∧
      w.files.next ≤ opened.2.next ∧ opened.1.inode < opened.2.next ∧
      opened.2.contents opened.1.inode = [] ∧
      ¬ w.Published opened.1.inode ∧
      forall i, i ≠ opened.1.inode ->
        opened.2.contents i = w.files.contents i := by
  intro opened
  rcases @Files.openTruncate_cases _ w.files _ StatePath.temp with
    ⟨hoffset, hcreated | ⟨hentry, hnext, hentries, hcontents⟩⟩
  · refine ⟨hoffset, hcreated.self, hcreated.others _ (by decide), ?_, ?_,
      hcreated.empty, ?_, hcreated.contents⟩
    · rw [hcreated.next]
      exact Nat.le_succ _
    · rw [hcreated.next, hcreated.number]
      exact Nat.lt_succ_self _
    · rintro ⟨hlt, _⟩
      rw [hcreated.number] at hlt
      exact Nat.lt_irrefl _ hlt
  · refine ⟨hoffset, ?_, ?_, Nat.le_of_eq hnext.symm, ?_, ?_, ?_, ?_⟩
    · rw [hentries]
      exact hentry
    · rw [hentries]
    · rw [hnext]
      exact h.bounded _ hentry
    · rw [hcontents]
      exact Function.update_self _ _ _
    · rintro ⟨_, hnot⟩
      exact hnot hentry
    · intro i hi
      rw [hcontents]
      exact Function.update_of_ne hi _ _

theorem placed_daemonOpens {w : Writers} (h : Placed fallback w)
    (record : StateRecord) :
    Placed fallback
        { w with
          files := (w.files.openTruncate StatePath.temp).2
          daemon := DaemonWriter.writing record
            (w.files.openTruncate StatePath.temp).1 (stateBytes record) } ∧
      Later fallback w
        { w with
          files := (w.files.openTruncate StatePath.temp).2
          daemon := DaemonWriter.writing record
            (w.files.openTruncate StatePath.temp).1
            (stateBytes record) } := by
  rcases openTruncate_temp h with
    ⟨hoffset, htemp, hstate, hnext, hbound, hempty, hunpublished, hcontents⟩
  have hleaves : LeavesPublished w
      (w.files.openTruncate StatePath.temp).2 := by
    refine ⟨hstate, hnext, ?_, ?_⟩
    · intro i hi
      cases Option.some.inj (hi.symm.trans htemp)
      exact hunpublished
    · exact fun i hi => hcontents i fun heq => hunpublished (heq ▸ hi)
  apply placed_of_leaves h hleaves
  · intro i hi
    cases Option.some.inj (hi.symm.trans htemp)
    exact hbound
  · intro record' file rest hwriting
    cases hwriting
    refine ⟨⟨hbound, ?_, ?_⟩, htemp⟩
    · rw [hempty]
      rfl
    · rw [hempty, hoffset]
      rfl
  · intro record' hclosed
    cases hclosed

theorem placed_daemonWrites {w : Writers} (h : Placed fallback w)
    {record : StateRecord} {file : Handle} {piece rest : Bytes}
    (hdaemon : w.daemon = DaemonWriter.writing record file (piece ++ rest)) :
    Placed fallback
        { w with
          files := w.files.write file piece
          daemon := DaemonWriter.writing record (file.advance piece.length)
            rest } ∧
      Later fallback w
        { w with
          files := w.files.write file piece
          daemon := DaemonWriter.writing record (file.advance piece.length)
            rest } := by
  rcases h.daemon _ _ _ hdaemon with ⟨happends, htemp⟩
  have hleaves : LeavesPublished w (w.files.write file piece) := by
    refine ⟨rfl, Nat.le_refl _, fun i hi hpub => hpub.2 hi, ?_⟩
    rintro i ⟨_, hnot⟩
    exact contents_write_of_ne fun heq => hnot (heq ▸ htemp)
  apply placed_of_leaves h hleaves
  · exact h.bounded
  · intro record' file' rest' hwriting
    cases hwriting
    exact ⟨happends.write, htemp⟩
  · intro record' hclosed
    cases hclosed

theorem placed_daemon {w : Writers} (h : Placed fallback w)
    (daemon : DaemonWriter)
    (hwriting : forall record file rest,
      daemon ≠ DaemonWriter.writing record file rest)
    (hclosed : forall record, daemon = DaemonWriter.closed record ->
      record.Dumped ∧ exists i, w.files.entry StatePath.temp = some i ∧
        w.files.contents i = stateBytes record) :
    Placed fallback { w with daemon := daemon } ∧
      Later fallback w { w with daemon := daemon } := by
  have hleaves : LeavesPublished w w.files :=
    ⟨rfl, Nat.le_refl _, fun i hi hpub => hpub.2 hi, fun _ _ => rfl⟩
  apply placed_of_leaves h hleaves
  · exact h.bounded
  · exact fun record file rest hdaemon =>
      absurd hdaemon (hwriting record file rest)
  · exact hclosed

theorem published_of_no_temp {w w' : Writers} {i : Nat}
    (hnext : w'.files.next = w.files.next)
    (htemp : w'.files.entry StatePath.temp = none) (hi : i < w.files.next) :
    w'.Published i := by
  refine ⟨by rw [hnext]; exact hi, ?_⟩
  rw [htemp]
  nofun

theorem placed_daemonRenames {w : Writers} (h : Placed fallback w)
    {record : StateRecord}
    (hdaemon : w.daemon = DaemonWriter.closed record) :
    Placed fallback
        { w with
          files := w.files.rename StatePath.temp StatePath.state
          daemon := DaemonWriter.idle
          completed := w.completed ++ [record] } ∧
      Later fallback w
        { w with
          files := w.files.rename StatePath.temp StatePath.state
          daemon := DaemonWriter.idle
          completed := w.completed ++ [record] } := by
  rcases h.closed record hdaemon with ⟨hdumped, inode, htemp, hcontents⟩
  have hgone : (w.files.rename StatePath.temp StatePath.state).entry
      StatePath.temp = none := Files.rename_old _ _
  have hplaced : (w.files.rename StatePath.temp StatePath.state).entry
      StatePath.state = some inode :=
    (Files.rename_new (by decide)).trans htemp
  have hlater : Later fallback w
      { w with
        files := w.files.rename StatePath.temp StatePath.state
        daemon := DaemonWriter.idle
        completed := w.completed ++ [record] } := by
    apply Later.of_kept
    · rintro r (hold | hspawner)
      · exact Or.inl (List.mem_append_left _ hold)
      · exact Or.inr hspawner
    · exact fun i hi =>
        ⟨published_of_no_temp rfl hgone hi.1, Or.inl rfl⟩
  refine ⟨?_, hlater⟩
  constructor
  · intro i hi
    rw [hgone] at hi
    cases hi
  · intro i hi
    cases Option.some.inj (hi.symm.trans hplaced)
    refine ⟨published_of_no_temp rfl hgone (h.bounded _ htemp), record,
      Or.inl (by simp), hdumped, ?_⟩
    show w.files.contents inode <+: stateBytes record
    rw [hcontents]
  · intro file rest hwriting
    rcases h.spawner file rest hwriting with ⟨hfallback, happends, hpub⟩
    exact ⟨hfallback, happends.congr (Nat.le_refl _) rfl,
      published_of_no_temp rfl hgone hpub.1⟩
  · intro record' file rest hwriting
    cases hwriting
  · intro record' hclosed
    cases hclosed
  · intro r hr
    have hlast : r = record := by
      rw [List.getLast?_append] at hr
      cases hr
      rfl
    subst hlast
    refine ⟨inode, hplaced, hcontents, ?_⟩
    rintro file rest hwriting heq
    rcases h.spawner file rest hwriting with ⟨_, _, hpub⟩
    exact hpub.2 (heq ▸ htemp)
  · intro hnone
    exact absurd hnone (by simp)

theorem placed_daemonDiscards {w : Writers} (h : Placed fallback w) :
    Placed fallback
        { w with
          files := w.files.unlink StatePath.temp
          daemon := DaemonWriter.idle } ∧
      Later fallback w
        { w with
          files := w.files.unlink StatePath.temp
          daemon := DaemonWriter.idle } := by
  have hgone : (w.files.unlink StatePath.temp).entry StatePath.temp = none :=
    Files.unlink_self _
  have hleaves : LeavesPublished w (w.files.unlink StatePath.temp) := by
    refine ⟨Files.unlink_of_ne (by decide), Nat.le_refl _, ?_,
      fun _ _ => rfl⟩
    intro i hi
    rw [hgone] at hi
    cases hi
  apply placed_of_leaves h hleaves
  · intro i hi
    rw [hgone] at hi
    cases hi
  · intro record' file rest hwriting
    cases hwriting
  · intro record' hclosed
    cases hclosed

/-- Every step of a writer keeps the invariant, and its readers' files. -/
theorem placed_step {w w' : Writers} (h : Placed fallback w)
    (hstep : WriterStep fallback w w') :
    Placed fallback w' ∧ Later fallback w w' := by
  cases hstep with
  | spawnerFinds hspawner hopen => exact placed_spawnerFinds h hspawner hopen
  | spawnerCreates hspawner hopen hdumped =>
      exact placed_spawnerCreates h hspawner hopen hdumped
  | spawnerWrites hspawner => exact placed_spawnerWrites h hspawner
  | spawnerCloses hspawner => exact placed_spawnerCloses h hspawner
  | daemonOpens record => exact placed_daemonOpens h record
  | daemonWrites hdaemon => exact placed_daemonWrites h hdaemon
  | daemonCloses hdaemon hdumped =>
      rcases h.daemon _ _ _ hdaemon with ⟨happends, htemp⟩
      apply placed_daemon h
      · intro record file rest hwriting
        cases hwriting
      · intro record hclosed
        cases hclosed
        exact ⟨hdumped, _, htemp, happends.whole_of_nil⟩
  | daemonRenames hdaemon => exact placed_daemonRenames h hdaemon
  | daemonDiscards hdaemon => exact placed_daemonDiscards h
  | daemonStops =>
      apply placed_daemon h
      · intro record file rest hwriting
        cases hwriting
      · intro record hclosed
        cases hclosed

theorem placed_start (leftover : Option Bytes) :
    Placed fallback (Writers.start leftover) where
  bounded := by
    intro i hi
    cases leftover with
    | none => cases hi
    | some bytes =>
        cases hi
        exact Nat.zero_lt_one
  visible := by
    intro i hi
    cases hi
  spawner := by nofun
  daemon := by
    intro record file rest hwriting
    cases hwriting
  closed := by
    intro record hclosed
    cases hclosed
  named := by
    intro r hr
    cases hr
  unnamed := fun _ => ⟨fun _ => rfl, by nofun, by nofun⟩

/-!
## The readers
-/

/-- A session that is not there, or a record that one of the two has
written. -/
def Answered (fallback : StateRecord) (w : Writers) (result : ReadResult) :
    Prop :=
  result = Except.ok none ∨
    exists r, w.Written fallback r ∧
      result = Except.ok (some (recordMembers r))

/-- What a reader has is the beginning of a published file. -/
def ReaderOk (fallback : StateRecord) (w : Writers) : Reader -> Prop
  | Reader.idle => True
  | Reader.reading file raw =>
      w.Published file.inode ∧ w.Holds fallback file.inode ∧
        file.offset ≤ (w.files.contents file.inode).length ∧
        raw = (w.files.contents file.inode).take file.offset
  | Reader.returned result => Answered fallback w result

theorem readerOk_later {w w' : Writers} (hlater : Later fallback w w')
    {r : Reader} (h : ReaderOk fallback w r) : ReaderOk fallback w' r := by
  cases r with
  | idle => trivial
  | reading file raw =>
      rcases h with ⟨hpublished, hholds, hoffset, hraw⟩
      rcases hlater.published _ hpublished with ⟨hpublished', more, hmore⟩
      refine ⟨hpublished', hlater.holds _ hpublished hholds, ?_, ?_⟩
      · rw [← hmore, List.length_append]
        exact Nat.le_add_right_of_le hoffset
      · rw [← hmore, List.take_append_of_le_length hoffset]
        exact hraw
  | returned result =>
      rcases h with hnone | ⟨r, hr, hresult⟩
      · exact Or.inl hnone
      · exact Or.inr ⟨r, hlater.written r hr, hresult⟩

theorem readerOk_opens {w : Writers} (h : Placed fallback w) {inode : Nat}
    (hentry : w.files.entry StatePath.state = some inode) :
    ReaderOk fallback w
      (Reader.reading { inode := inode, offset := 0 } []) := by
  rcases h.visible inode hentry with ⟨hpublished, hholds⟩
  exact ⟨hpublished, hholds, Nat.zero_le _, rfl⟩

theorem readerOk_reads {w : Writers} {file : Handle} {raw : Bytes} (n : Nat)
    (h : ReaderOk fallback w (Reader.reading file raw)) :
    ReaderOk fallback w
      (Reader.reading
        (file.advance (slice (w.files.contents file.inode) file.offset
          n).length)
        (raw ++ slice (w.files.contents file.inode) file.offset n)) := by
  rcases h with ⟨hpublished, hholds, hoffset, hraw⟩
  refine ⟨hpublished, hholds, ?_, ?_⟩
  · show file.offset + (slice (w.files.contents file.inode) file.offset
      n).length ≤ (w.files.contents file.inode).length
    rw [slice_length]
    lia
  · show _ = (w.files.contents file.inode).take (file.offset + _)
    rw [List.take_add, ← hraw, slice, List.length_take,
      ← List.take_eq_take_min]

theorem readerOk_ends {w : Writers} {file : Handle} {raw : Bytes}
    (h : ReaderOk fallback w (Reader.reading file raw))
    (hend : (w.files.contents file.inode).length ≤ file.offset)
    (interpreter : Interpreter) :
    Answered fallback w (parseState interpreter raw) := by
  rcases h with ⟨_, ⟨r, hr, hdumped, hprefix⟩, _, hraw⟩
  rw [List.take_of_length_le hend] at hraw
  rw [← hraw] at hprefix
  rcases parseState_prefix hdumped interpreter hprefix with hnone | ⟨_, hwhole⟩
  · exact Or.inl hnone
  · exact Or.inr ⟨r, hr, hwhole⟩

section Runs

variable {reader : Type} [DecidableEq reader]

theorem readers_update {w : World reader}
    (h : forall i, ReaderOk fallback w.writers (w.readers i)) (i : reader)
    {r : Reader} (hr : ReaderOk fallback w.writers r) (j : reader) :
    ReaderOk fallback (w.setReader i r).writers
      ((w.setReader i r).readers j) := by
  show ReaderOk fallback w.writers (Function.update w.readers i r j)
  by_cases hself : j = i
  · rw [hself, Function.update_self]
    exact hr
  · rw [Function.update_of_ne hself]
    exact h j

theorem reachable_ok {leftover : Option Bytes} {w : World reader}
    (h : Reachable fallback leftover w) :
    Placed fallback w.writers ∧
      forall i, ReaderOk fallback w.writers (w.readers i) := by
  induction h with
  | start => exact ⟨placed_start leftover, fun _ => trivial⟩
  | step _ hstep ih =>
      rcases ih with ⟨hplaced, hreaders⟩
      cases hstep with
      | writer hwriter =>
          rcases placed_step hplaced hwriter with ⟨hplaced', hlater⟩
          exact ⟨hplaced', fun i => readerOk_later hlater (hreaders i)⟩
      | readerMisses i =>
          exact ⟨hplaced, readers_update hreaders i (Or.inl rfl)⟩
      | readerOpens i _ hentry =>
          exact ⟨hplaced,
            readers_update hreaders i (readerOk_opens hplaced hentry)⟩
      | readerReads i n hreader =>
          have hok := hreaders i
          rw [hreader] at hok
          exact ⟨hplaced, readers_update hreaders i (readerOk_reads n hok)⟩
      | readerEnds i hreader hend interpreter =>
          have hok := hreaders i
          rw [hreader] at hok
          exact ⟨hplaced, readers_update hreaders i
            (readerOk_ends hok hend interpreter)⟩

/-- Once the spawner has finished the state file holds the last record that
the daemon has completed, or the spawner's record if there is none; and every
call of `read_state` returns nothing or one whole record of the two. -/
theorem state_file_keeps_word {leftover : Option Bytes} {w : World reader}
    (h : Reachable fallback leftover w) :
    (w.writers.spawner = Spawner.finished ->
      w.writers.stateFile =
        some (stateBytes (w.writers.completed.getLast?.getD fallback))) ∧
    (forall i result, w.readers i = Reader.returned result ->
      result = Except.ok none ∨
        exists r, w.writers.Written fallback r ∧
          result = Except.ok (some (recordMembers r))) := by
  rcases reachable_ok h with ⟨hplaced, hreaders⟩
  constructor
  · intro hfinished
    cases hlast : w.writers.completed.getLast? with
    | some r =>
        rcases hplaced.named r hlast with ⟨i, hentry, hcontents, _⟩
        unfold Writers.stateFile
        rw [hentry, Option.map_some, hcontents]
        rfl
    | none =>
        have hnone := List.getLast?_eq_none_iff.mp hlast
        exact (hplaced.unnamed hnone).2.2 hfinished
  · intro i result hreturned
    have hok := hreaders i
    rw [hreturned] at hok
    exact hok

end Runs

/-- The daemon dies before it has written anything. -/
theorem state_file_keeps_word_spawner :
    exists w : World Unit,
      Reachable (initialState "ab" "10.0.0.5:16994" 7 "now") none w ∧
        w.writers.daemon = DaemonWriter.stopped ∧
        w.writers.stateFile =
          some (stateBytes (initialState "ab" "10.0.0.5:16994" 7 "now")) := by
  have hstart : Reachable (initialState "ab" "10.0.0.5:16994" 7 "now") none
      ⟨Writers.start none, fun _ : Unit => Reader.idle⟩ := Reachable.start
  have hcreated := hstart.step
    (WorldStep.writer (WriterStep.spawnerCreates rfl rfl
      (initialState_dumped (by decide) _ _ _)))
  have hdead := hcreated.step (WorldStep.writer WriterStep.daemonStops)
  have hwritten := hdead.step (WorldStep.writer (WriterStep.spawnerWrites
    (congrArg (Spawner.writing _) (List.append_nil _).symm)))
  have hclosed := hwritten.step
    (WorldStep.writer (WriterStep.spawnerCloses rfl))
  exact ⟨_, hclosed, rfl, (state_file_keeps_word hclosed).1 rfl⟩

end MediaSession
end IntelAmt
