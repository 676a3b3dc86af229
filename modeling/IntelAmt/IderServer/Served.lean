import IntelAmt.IderServer.AccessAnswers

/-!
# Media served to a host

A host that reads and writes its media through the server, the connection and
the engine is served as by the block devices themselves, however the two
streams are cut and delivered.
-/

namespace IntelAmt
namespace IderServer

open Foundation Ider

variable {ref : Type} [DecidableEq ref]
variable {images : ref -> MediaImage} {config : ServerConfig}
variable {h : HandlerState ref} {r : Receiver ref} {n : Nat}

/-!
## One access
-/

theorem hostPieces_flatten {data : Bytes} {frameSize : Nat}
    (hsize : 0 < frameSize) (hdata : data ≠ []) :
    (hostPieces data frameSize).flatten = data ∧
      forall chunk, chunk ∈ hostPieces data frameSize -> chunk ≠ [] := by
  rw [hostPieces, if_neg (Nat.ne_of_gt hsize), if_neg hdata,
    IderMockServer.hostChunks]
  generalize hcount : (data.length + frameSize - 1) / frameSize = count
  have hupper := Nat.lt_mul_div_succ (data.length + frameSize - 1) hsize
  rw [hcount, Nat.mul_add, Nat.mul_one, Nat.mul_comm] at hupper
  constructor
  · have hblocks := slice_blocks frameSize data 0 count
    rw [← List.range_eq_range', Nat.zero_mul] at hblocks
    refine hblocks.symm.trans ?_
    rw [slice, List.drop_zero, List.take_of_length_le (by lia)]
  · intro chunk hmem hnil
    rcases List.mem_map.mp hmem with ⟨k, hk, rfl⟩
    rw [List.mem_range, ← hcount] at hk
    have hlower := (Nat.le_div_iff_mul_le hsize).mp (Nat.succ_le_of_lt hk)
    rw [Nat.succ_mul] at hlower
    have hlength := congrArg List.length hnil
    rw [slice, List.length_take, List.length_drop, List.length_nil]
      at hlength
    lia

/-- An engine between two accesses. -/
structure Ready (images : ref -> MediaImage) (config : ServerConfig)
    (h : HandlerState ref) (slots : Slots) (r : Receiver ref) (n : Nat)
    (sayings : List Saying) : Prop
    extends Attended images config h r n sayings where
  presents : Presents slots r.2
  pending : r.2.pendingWrite = none

theorem framed_command (n : Nat) (a : HostAccess)
    (rest : List (UInt8 × Bytes)) :
    framed n (parcels (Drive.issueScsi a.cdb a.device.code
        a.featureRegister) ++ rest) =
      commandMessage n a.featureRegister (deviceFlags a.device) a.cdb ::
        framed (n + 1) rest := by
  simp [framed, parcels, commandMessage, cmdCommandWritten, deviceFlags]

theorem Ready.atOnce {slots : Slots} {sayings : List Saying}
    (hr : Ready images config h slots r n sayings)
    (hconfig : config.Acceptable) {a : HostAccess}
    {outcome : AccessResult Bytes} {message : Bytes}
    (hframed : Framed config n message)
    (hanswered : AtOnce a outcome r.2 ((dispatch message).run r.2)) :
    exists r' more, Passes r [message] r' ∧
      Ready images config h slots r' (n + 1) (sayings ++ more) ∧
      Answers a outcome (more.flatMap Saying.heard) := by
  rcases hanswered with ⟨s, more, hrun, hsaid, hquiet, hanswers⟩
  rcases hr.step hconfig hframed hrun hsaid
    (by rw [hquiet.stopped, hquiet.featureToggleOk]; exact hr.live) with
    ⟨hproceed, hnext⟩
  exact ⟨_, more, Passes.cons hr.live hproceed (Passes.nil hnext.live),
    ⟨hnext, hr.presents.congr hquiet.devices hquiet.images,
      hquiet.pendingWrite.trans hr.pending⟩, hanswers⟩

omit [DecidableEq ref] in
theorem says_request (s : HandlerState ref) (p : PendingWrite ref)
    (device : UInt8) (chunk : Nat) :
    Says s ({ s with pendingWrite := some p }.send
      (getDataFromHost device chunk)) [.request device chunk] :=
  says_one (sends_send { s with pendingWrite := some p } _) trivial

omit [DecidableEq ref] in
theorem Presents.wrote {slots : Slots} {s s' : HandlerState ref}
    (hpresents : Presents slots s) (hstanding : Standing images s) {i : ref}
    (hi : s.devices DeviceCode.floppy = some i) {d : BlockDevice Bytes}
    (hd : slots DeviceCode.floppy = some d) {first : Nat}
    {blocks : List Bytes} (hrange : first + blocks.length ≤ d.count)
    (hsize : forall block, block ∈ blocks -> block.length = 512)
    (hwrote : Wrote s s' i (first * 512) blocks.flatten) :
    Presents (slots.put DeviceCode.floppy (d.overwrite first blocks)) s' where
  empty := by
    intro device hnone
    rw [hwrote.devices] at hnone
    rw [Slots.put]
    split
    · rename_i heq
      rw [heq, hi] at hnone
      cases hnone
    · exact hpresents.empty device hnone
  filled := by
    intro device j hj
    rw [hwrote.devices] at hj
    by_cases hdevice : device = DeviceCode.floppy
    · subst hdevice
      rw [hi] at hj
      cases hj
      rcases hpresents.image hd with ⟨i', hi', hbacks⟩
      rw [hi] at hi'
      cases hi'
      refine ⟨_, by rw [Slots.put, if_pos rfl], ?_, ?_, ?_, ?_⟩
      · exact hbacks.count.trans hwrote.blocks.symm
      · exact hbacks.writable.trans hwrote.writable.symm
      · rw [hwrote.file]
        exact hbacks.holds.write hsize hrange
      · exact hwrote.shortReads.trans hbacks.uncut
    · have hne : j ≠ i := by
        intro heq
        subst heq
        exact hdevice ((hstanding.slots device j hj).symm.trans
          (hstanding.slots _ j hi))
      rcases hpresents.filled device j hj with ⟨d', hd', hbacks⟩
      rw [hwrote.others j hne]
      exact ⟨d', by rw [Slots.put, if_neg hdevice, hd'], hbacks⟩

/-- The messages of an access lead to what it leaves, and are answered as it
is. -/
theorem Ready.access {slots : Slots} {sayings : List Saying}
    (hr : Ready images config h slots r n sayings)
    (hconfig : config.Acceptable) {a : HostAccess} (hfits : a.Fits)
    {outcome : AccessResult Bytes} {slots' : Slots}
    (hperform : slots.perform a.device a.access = (outcome, slots'))
    (hframed : FramedFrom config n
      (framed n ((a.drives outcome).flatMap parcels))) :
    exists r' more,
      Passes r (framed n ((a.drives outcome).flatMap parcels)) r' ∧
      Ready images config h slots' r'
        (n + ((a.drives outcome).flatMap parcels).length)
        (sayings ++ more) ∧
      Answers a outcome (more.flatMap Saying.heard) := by
  have hinfo := (hr.attending.accepted hr.opened).1
  rw [HostAccess.drives, List.flatMap_cons, framed_command] at hframed ⊢
  cases haccess : a.access with
  | read first length =>
      have hpayload : a.payload outcome = [] := by
        simp only [HostAccess.payload, haccess]
      rw [hpayload] at hframed ⊢
      simp only [HostAccess.Fits, haccess] at hfits
      have hread : r.2.sessionInfo.readbfr = config.readbfr := by
        rw [hinfo]
        rfl
      rcases read_answered hr.attending.standing hr.presents
        (by rw [hread]; exact hconfig.bounded)
        (by rw [hread]; exact hconfig.valid.2.1) haccess
        (commandDma a.featureRegister) with ⟨outcome', hsame, hanswered⟩
      rw [hperform] at hsame
      cases hsame
      apply hr.atOnce hconfig hframed.head
      rw [HostAccess.cdb, haccess, run_commandMessage n _ _
          (extentCdb_length _ _ _), commandDevice_deviceFlags,
        handleScsi_read (extentCdb_length _ _ _)
          (readExtent_extentCdb hfits.1 hfits.2)]
      exact hanswered
  | write first blocks =>
      simp only [HostAccess.Fits, haccess] at hfits
      rcases hfits with ⟨hfirst, hlength, hblocks, hsize, hsmall⟩
      have hrun : forall s : HandlerState ref,
          (dispatch (commandMessage n a.featureRegister
            (deviceFlags a.device) a.cdb)).run s =
          (scsiWriteRequest a.device (s.devices a.device) first
            blocks.length).run s := by
        intro s
        rw [HostAccess.cdb, haccess, run_commandMessage n _ _
            (extentCdb_length _ _ _), commandDevice_deviceFlags,
          handleScsi_write (extentCdb_length _ _ _)
            (writeExtent_extentCdb hfirst hlength)]
      rcases write_answered hr.presents haccess with
        ⟨outcome', hrefused, hsame, hanswered⟩ | ⟨i, d, hasks⟩
      · rw [hperform] at hsame
        cases hsame
        have hpayload : a.payload outcome = [] := by
          simp only [HostAccess.payload, haccess]
          cases outcome <;> first | rfl | exact absurd rfl hrefused
        rw [hpayload] at hframed ⊢
        apply hr.atOnce hconfig hframed.head
        rw [hrun]
        exact hanswered
      · have hsame := hasks.perform
        rw [hperform] at hsame
        cases hsame
        have hpayload : (a.payload AccessResult.stored).flatMap parcels =
            (hostPieces blocks.flatten a.frameSize).map dataParcel := by
          simp [HostAccess.payload, haccess, parcels]
        rw [hpayload] at hframed ⊢
        rcases hr.step hconfig hframed.head ((hrun r.2).trans hasks.asks)
          (says_request r.2 _ _ _) hr.live with ⟨hproceed, hnext⟩
        have hbytes : blocks.flatten.length = 512 * blocks.length := by
          rw [List.length_flatten, List.map_congr_left hblocks]
          simp [Nat.mul_comm]
        have hdata : blocks.flatten ≠ [] := by
          intro hnil
          rw [hnil, List.length_nil] at hbytes
          have hpos := List.length_pos_iff.mpr hasks.nonempty
          lia
        rcases hostPieces_flatten hsize hdata with ⟨hflatten, hpieces⟩
        rcases hnext.payload (hostPieces blocks.flatten a.frameSize) hconfig
          rfl
          (fun chunk hmem => ⟨hpieces chunk hmem, Nat.lt_of_le_of_lt
            (hostPieces_length chunk hmem) hsmall⟩)
          (by
            rw [hflatten, hbytes]
            exact Nat.zero_add _)
          hframed.tail with ⟨r', hpasses, hattended, hnone, hwrote⟩
        refine ⟨r', [.request DeviceCode.floppy.code (512 * blocks.length),
          .status false 0x00 DeviceCode.floppy.code 0x00 0x00],
          Passes.cons hr.live hproceed hpasses, ⟨?_, ?_, hnone⟩, ?_⟩
        · have hcount : n + (parcels (Drive.issueScsi a.cdb a.device.code
              a.featureRegister) ++ (hostPieces blocks.flatten
                a.frameSize).map dataParcel).length =
              n + 1 + (hostPieces blocks.flatten a.frameSize).length := by
            simp [parcels]
            lia
          rw [hcount]
          rw [List.append_assoc] at hattended
          exact hattended
        · rw [hflatten] at hwrote
          apply hr.presents.wrote hr.attending.standing hasks.image
            hasks.slot hasks.range hblocks
          have hoffset : (writeRecord DeviceCode.floppy i first
              blocks.length).byteOffset + 0 = first * 512 :=
            Nat.shiftLeft_eq first 9
          exact hoffset ▸ ⟨hwrote.devices, hwrote.others, hwrote.blocks,
            hwrote.writable, hwrote.shortReads, hwrote.file⟩
        · have hstored := Answers.stored (a := a) first blocks haccess
          rw [hasks.device] at hstored
          exact hstored

/-!
## All accesses
-/

/-- The events of successive accesses. -/
inductive AllAnswered : List HostAccess -> List (AccessResult Bytes) ->
    List Event -> Prop where
  | nil : AllAnswered [] [] []
  | cons {a : HostAccess} {accesses : List HostAccess}
      {outcome : AccessResult Bytes} {outcomes : List (AccessResult Bytes)}
      {events more : List Event} (first : Answers a outcome events)
      (rest : AllAnswered accesses outcomes more) :
      AllAnswered (a :: accesses) (outcome :: outcomes) (events ++ more)

theorem Ready.accesses (accesses : List HostAccess) {slots : Slots}
    {sayings : List Saying}
    (hr : Ready images config h slots r n sayings)
    (hconfig : config.Acceptable)
    (hfits : forall a, a ∈ accesses -> a.Fits)
    (hframed : FramedFrom config n
      (framed n ((script slots accesses).flatMap parcels))) :
    exists r' m more,
      Passes r (framed n ((script slots accesses).flatMap parcels)) r' ∧
      Ready images config h (behind slots accesses) r' m (sayings ++ more) ∧
      AllAnswered accesses (outcomes slots accesses)
        (more.flatMap Saying.heard) := by
  induction accesses generalizing slots r n sayings with
  | nil =>
      refine ⟨r, n, [], Passes.nil hr.live, ?_, AllAnswered.nil⟩
      rw [List.append_nil]
      exact hr
  | cons a accesses ih =>
      rcases hperform : slots.perform a.device a.access with
        ⟨outcome, slots'⟩
      simp only [script, behind, outcomes, hperform, List.flatMap_append,
        framed_append] at hframed ⊢
      rcases hr.access hconfig (hfits a List.mem_cons_self) hperform
        hframed.left with ⟨r', more, hpasses, hready, hanswers⟩
      have hbehind := hframed.right
      rw [framed_length] at hbehind
      rcases ih hready (fun b hb => hfits b (List.mem_cons_of_mem _ hb))
        hbehind with ⟨r'', m, more', hpasses', hready', hanswers'⟩
      refine ⟨r'', m, more ++ more', hpasses.append hpasses', ?_, ?_⟩
      · rw [← List.append_assoc]
        exact hready'
      · rw [List.flatMap_append]
        exact AllAnswered.cons hanswers hanswers'

end IderServer
end IntelAmt
