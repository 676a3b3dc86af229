import IntelAmt.Ider.Scsi

/-!
# The read pump

One pass of the pump in closed form, the measure that bounds the loop, and the
transcript of a single read: the frames it sends and what it does to the
image.
-/

namespace IntelAmt
namespace Ider

open Foundation

variable {ref : Type}

/-!
## One pass
-/

def ReadRequest.chunkSize (r : ReadRequest ref) (readbfr : Nat) : Nat :=
  if readbfr ≠ 0 then min r.remaining readbfr else r.remaining

/-- What the next read of a request returns, and the image it leaves. -/
def ReadRequest.nextRead (r : ReadRequest ref) (images : ref -> MediaImage)
    (readbfr : Nat) : Bytes × MediaImage :=
  (images r.image).read r.byteOffset (r.chunkSize readbfr)

def ReadRequest.advance (r : ReadRequest ref) (data : Bytes) :
    ReadRequest ref :=
  if data = [] then { r with remaining := 0 }
  else
    { r with
      byteOffset := r.byteOffset + data.length
      remaining := r.remaining - data.length }

def ReadRequest.reply (r : ReadRequest ref) (data : Bytes) : Outbound :=
  if data = [] then commandEndResponse false 0x03 r.device.code 0x11 0x00
  else
    dataToHost r.device.code (decide (r.remaining - data.length = 0)) data
      r.dma

/-- The state after the frame of one pass has been sent. -/
def HandlerState.afterChunk [DecidableEq ref] (s : HandlerState ref) (r : ReadRequest ref)
    (readbfr : Nat) : HandlerState ref :=
  let result := r.nextRead s.images readbfr
  { (s.setImage r.image result.2).send (r.reply result.1) with
    readState := some (r.advance result.1) }

/-- The state after the current read has ended. -/
def HandlerState.endRead (s : HandlerState ref) : HandlerState ref :=
  if s.resetPending then
    { ({ s with readState := none } : HandlerState ref).send
        { cmdid := cmdResetOccurredResponse, payload := [],
          completed := false, dma := false } with
      readQueue := [], resetPending := false }
  else
    match s.readQueue with
    | [] => { s with readState := none }
    | r :: rest => { s with readState := some r, readQueue := rest }

theorem ReadRequest.chunkSize_le (r : ReadRequest ref) (readbfr : Nat) :
    r.chunkSize readbfr ≤ r.remaining := by
  unfold ReadRequest.chunkSize
  split <;> lia

theorem ReadRequest.chunkSize_pos {r : ReadRequest ref}
    (h : 0 < r.remaining) (readbfr : Nat) : 0 < r.chunkSize readbfr := by
  unfold ReadRequest.chunkSize
  split <;> lia

theorem run_sendReadChunk (r : ReadRequest ref) (data : Bytes)
    (s : HandlerState ref) :
    (sendReadChunk r data).run s =
      (Except.ok (r.advance data), s.send (r.reply data)) := by
  unfold sendReadChunk ReadRequest.advance ReadRequest.reply
  by_cases hdata : data = []
  · rw [if_pos hdata, if_pos hdata, if_pos hdata]
    rfl
  · rw [if_neg hdata, if_neg hdata, if_neg hdata]
    rfl

theorem run_finishRead (s : HandlerState ref) :
    finishRead.run s =
      (Except.ok (if s.resetPending then Exec.Flow.done else Exec.Flow.next),
        s.endRead) := by
  unfold finishRead HandlerState.endRead
  rw [Exec.run_update_bind, Exec.run_reads_bind]
  cases hreset : s.resetPending with
  | true => rfl
  | false => cases hqueue : s.readQueue <;> simp

variable [DecidableEq ref]

theorem run_pumpReadPass {s : HandlerState ref} {r : ReadRequest ref}
    (hstate : s.readState = some r) (readbfr : Nat) :
    (pumpReadPass readbfr).run s =
      if 0 < (r.advance (r.nextRead s.images readbfr).1).remaining ∧
          s.resetPending = false then
        (Except.ok Exec.Flow.next, s.afterChunk r readbfr)
      else
        (Except.ok
          (if s.resetPending then Exec.Flow.done else Exec.Flow.next),
          (s.afterChunk r readbfr).endRead) := by
  unfold pumpReadPass
  rw [Exec.run_reads_bind, hstate]
  show (imageRead r.image r.byteOffset (r.chunkSize readbfr) >>= _).run s = _
  rw [run_imageRead_bind, Exec.run_bind_of_ok (run_sendReadChunk _ _ _),
    Exec.run_update_bind, Exec.run_reads_bind]
  show (if 0 < (r.advance (r.nextRead s.images readbfr).1).remaining ∧
      s.resetPending = false then pure Exec.Flow.next
    else finishRead : EngineM ref Exec.Flow).run (s.afterChunk r readbfr) = _
  split
  · rfl
  · rw [run_finishRead]
    rfl

@[simp] theorem afterChunk_readState (s : HandlerState ref)
    (r : ReadRequest ref) (readbfr : Nat) :
    (s.afterChunk r readbfr).readState =
      some (r.advance (r.nextRead s.images readbfr).1) := rfl

@[simp] theorem afterChunk_readQueue (s : HandlerState ref)
    (r : ReadRequest ref) (readbfr : Nat) :
    (s.afterChunk r readbfr).readQueue = s.readQueue := rfl

@[simp] theorem afterChunk_resetPending (s : HandlerState ref)
    (r : ReadRequest ref) (readbfr : Nat) :
    (s.afterChunk r readbfr).resetPending = s.resetPending := rfl

/-!
## Termination
-/

section Termination

omit [DecidableEq ref]

theorem pumpMeasure_reading {s : HandlerState ref} {r : ReadRequest ref}
    (h : s.readState = some r) :
    pumpMeasure s =
      r.remaining + 1 +
        s.readQueue.foldr (fun r n => r.remaining + 1 + n) 0 := by
  simp [pumpMeasure, h]

theorem pumpMeasure_endRead {s : HandlerState ref}
    (h : s.resetPending = false) :
    pumpMeasure s.endRead =
      s.readQueue.foldr (fun r n => r.remaining + 1 + n) 0 := by
  unfold HandlerState.endRead
  rw [if_neg (by simp [h])]
  cases s.readQueue with
  | nil => simp [pumpMeasure]
  | cons r rest => simp [pumpMeasure]

theorem endRead_of_empty {s : HandlerState ref} (hqueue : s.readQueue = [])
    (hreset : s.resetPending = false) :
    s.endRead = { s with readState := none } := by
  unfold HandlerState.endRead
  rw [if_neg (by simp [hreset])]
  split
  · rfl
  · rename_i r rest hcons
    rw [hqueue] at hcons
    cases hcons

theorem ReadRequest.advance_remaining_lt {r : ReadRequest ref} {data : Bytes}
    (h : 0 < (r.advance data).remaining) :
    (r.advance data).remaining < r.remaining := by
  unfold ReadRequest.advance at h ⊢
  by_cases hdata : data = []
  · simp [hdata] at h
  · have hpos := List.length_pos_iff.mpr hdata
    rw [if_neg hdata] at h ⊢
    simp only at h ⊢
    lia

theorem ReadRequest.advance_more {r : ReadRequest ref} {data : Bytes}
    (h : 0 < (r.advance data).remaining) :
    data ≠ [] ∧ data.length < r.remaining := by
  unfold ReadRequest.advance at h
  by_cases hdata : data = []
  · simp [hdata] at h
  · rw [if_neg hdata] at h
    simp only at h
    exact ⟨hdata, by lia⟩

theorem ReadRequest.advance_over {r : ReadRequest ref} {data : Bytes}
    (h : ¬ 0 < (r.advance data).remaining) :
    data = [] ∨ data ≠ [] ∧ r.remaining ≤ data.length := by
  unfold ReadRequest.advance at h
  by_cases hdata : data = []
  · exact Or.inl hdata
  · rw [if_neg hdata] at h
    simp only at h
    exact Or.inr ⟨hdata, by lia⟩

@[simp] theorem ReadRequest.advance_image (r : ReadRequest ref)
    (data : Bytes) : (r.advance data).image = r.image := by
  unfold ReadRequest.advance
  split <;> rfl

end Termination

theorem pumpReadPass_decreases (readbfr : Nat) :
    Exec.Decreases (pumpMeasure : HandlerState ref -> Nat)
      (fun s => s.readState.isSome) (pumpReadPass readbfr) where
  positive := by
    intro s htest
    obtain ⟨r, hr⟩ := Option.isSome_iff_exists.mp htest
    rw [pumpMeasure_reading hr]
    lia
  lower := by
    intro s s' htest hrun
    obtain ⟨r, hr⟩ := Option.isSome_iff_exists.mp htest
    rw [run_pumpReadPass hr] at hrun
    rw [pumpMeasure_reading hr]
    split at hrun
    · rename_i hmore
      cases hrun
      rw [pumpMeasure_reading (afterChunk_readState s r readbfr),
        afterChunk_readQueue]
      have hlt := ReadRequest.advance_remaining_lt hmore.1
      lia
    · cases hreset : s.resetPending with
      | true => simp [hreset] at hrun
      | false =>
          simp only [hreset, Prod.mk.injEq] at hrun
          have hend : (s.afterChunk r readbfr).resetPending = false := hreset
          rw [← hrun.2, pumpMeasure_endRead hend, afterChunk_readQueue]
          lia

/-!
## A whole read

`Transfer` is the transcript of one read against one image: the frames in
order, and the image with its counters moved on.  A transfer is cut when the
file gives nothing more.
-/

inductive Transfer (readbfr : Nat) : ReadRequest ref -> MediaImage ->
    List Outbound -> MediaImage -> Prop where
  | cut {r image image'}
      (hread : image.read r.byteOffset (r.chunkSize readbfr) = ([], image')) :
      Transfer readbfr r image
        [commandEndResponse false 0x03 r.device.code 0x11 0x00] image'
  | last {r image data image'}
      (hread : image.read r.byteOffset (r.chunkSize readbfr) =
        (data, image'))
      (hdata : data ≠ []) (hlast : r.remaining ≤ data.length) :
      Transfer readbfr r image [dataToHost r.device.code true data r.dma]
        image'
  | more {r image data image' outs image''}
      (hread : image.read r.byteOffset (r.chunkSize readbfr) =
        (data, image'))
      (hdata : data ≠ []) (hmore : data.length < r.remaining)
      (rest : Transfer readbfr (r.advance data) image' outs image'') :
      Transfer readbfr r image
        (dataToHost r.device.code false data r.dma :: outs) image''

/-- The loop of `pumpRead` for a given chunk bound. -/
def pumpLoop (readbfr : Nat) : EngineM ref Unit :=
  Exec.whileLoop PyError.outOfFuel pumpMeasure
    (fun s => s.readState.isSome) (pumpReadPass readbfr)

theorem run_pumpRead (s : HandlerState ref) :
    pumpRead.run s = (pumpLoop s.sessionInfo.readbfr).run s := rfl

theorem run_pumpLoop_idle {s : HandlerState ref} (h : s.readState = none)
    (readbfr : Nat) : (pumpLoop readbfr).run s = (Except.ok (), s) := by
  unfold pumpLoop
  rw [Exec.run_whileLoop (pumpReadPass_decreases readbfr)]
  simp [h]

theorem run_pumpLoop_reading {s : HandlerState ref} {r : ReadRequest ref}
    (h : s.readState = some r) (hreset : s.resetPending = false)
    (readbfr : Nat) :
    (pumpLoop readbfr).run s =
      if 0 < (r.advance (r.nextRead s.images readbfr).1).remaining then
        (pumpLoop readbfr).run (s.afterChunk r readbfr)
      else (pumpLoop readbfr).run (s.afterChunk r readbfr).endRead := by
  have hunfold : (pumpLoop readbfr).run s = _ :=
    Exec.run_whileLoop (pumpReadPass_decreases readbfr) s
  rw [run_pumpReadPass h] at hunfold
  rw [hunfold, h]
  by_cases hmore : 0 < (r.advance (r.nextRead s.images readbfr).1).remaining
  · simp only [hmore, hreset]
    rfl
  · simp only [hmore, hreset]
    rfl

omit [DecidableEq ref] in
theorem sendAll_readState_update (s : HandlerState ref)
    (r : Option (ReadRequest ref)) (outs : List Outbound) :
    HandlerState.sendAll { s with readState := r } outs =
      { s.sendAll outs with readState := r } := by
  induction outs generalizing s with
  | nil => rfl
  | cons out outs ih => exact ih (s.send out)

omit [DecidableEq ref] in
/-- What comes behind a read does not depend on where the read stood. -/
theorem endRead_readState (s : HandlerState ref)
    (r : Option (ReadRequest ref)) :
    HandlerState.endRead { s with readState := r } = s.endRead := by
  unfold HandlerState.endRead
  cases s.resetPending with
  | true => rfl
  | false => cases s.readQueue <;> rfl

/-- The pump works off the current read: it sends the frames of a transfer,
moves the counters of the image on, and goes on behind the read. -/
theorem run_pumpLoop_transfer {s : HandlerState ref} {r : ReadRequest ref}
    (hstate : s.readState = some r) (hreset : s.resetPending = false)
    (readbfr : Nat) :
    exists outs image,
      Transfer readbfr r (s.images r.image) outs image ∧
        (pumpLoop readbfr).run s =
          (pumpLoop readbfr).run
            ((s.setImage r.image image).sendAll outs).endRead := by
  induction hsize : r.remaining using Nat.strongRecOn generalizing s r with
  | ind n ih =>
      rcases hread : r.nextRead s.images readbfr with ⟨data, image⟩
      have hafter : s.afterChunk r readbfr =
          { (s.setImage r.image image).send (r.reply data) with
            readState := some (r.advance data) } := by
        unfold HandlerState.afterChunk
        rw [hread]
      rw [run_pumpLoop_reading hstate hreset, hread, hafter]
      by_cases hmore : 0 < (r.advance data).remaining
      · rw [if_pos hmore]
        obtain ⟨hdata, hlonger⟩ := ReadRequest.advance_more hmore
        have hlt := ReadRequest.advance_remaining_lt hmore
        obtain ⟨outs, image', htransfer, hrun⟩ :=
          ih _ (by lia) (s := { (s.setImage r.image image).send
            (r.reply data) with readState := some (r.advance data) })
            rfl hreset rfl
        have himage : ((s.setImage r.image image).send
            (r.reply data)).images r.image = image :=
          HandlerState.setImage_images s r.image image
        rw [ReadRequest.advance_image, himage] at htransfer
        have hreply : r.reply data =
            dataToHost r.device.code false data r.dma := by
          have hnot : ¬ r.remaining - data.length = 0 := by lia
          simp [ReadRequest.reply, hdata, hnot]
        refine ⟨_, image', Transfer.more hread hdata hlonger htransfer, ?_⟩
        have hagain : ((s.setImage r.image image).send
            (r.reply data)).setImage r.image image' =
              (s.setImage r.image image').send (r.reply data) :=
          congrArg (fun t => HandlerState.send t (r.reply data))
            (HandlerState.setImage_setImage s r.image image image')
        rw [hrun, ReadRequest.advance_image, ← hreply,
          HandlerState.sendAll_cons, ← hagain]
        apply congrArg (fun t => (pumpLoop readbfr).run t)
        have hsent := sendAll_readState_update
          (((s.setImage r.image image).send (r.reply data)).setImage r.image
            image') (some (r.advance data)) outs
        exact (congrArg HandlerState.endRead hsent).trans
          (endRead_readState _ _)
      · rw [if_neg hmore, endRead_readState]
        rcases ReadRequest.advance_over hmore with hempty | ⟨hdata, hlast⟩
        · subst hempty
          exact ⟨_, image, Transfer.cut hread, rfl⟩
        · have hreply : r.reply data =
              dataToHost r.device.code true data r.dma := by
            have hzero : r.remaining - data.length = 0 := by lia
            simp [ReadRequest.reply, hdata, hzero]
          rw [hreply]
          exact ⟨_, image, Transfer.last hread hdata hlast, rfl⟩

theorem run_pumpLoop_single {s : HandlerState ref} {r : ReadRequest ref}
    (hstate : s.readState = some r) (hqueue : s.readQueue = [])
    (hreset : s.resetPending = false) (readbfr : Nat) :
    exists outs image,
      Transfer readbfr r (s.images r.image) outs image ∧
        (pumpLoop readbfr).run s =
          (Except.ok (),
            ({ s with readState := none }.setImage r.image image).sendAll
              outs) := by
  rcases run_pumpLoop_transfer hstate hreset readbfr with
    ⟨outs, image, htransfer, hrun⟩
  refine ⟨outs, image, htransfer, ?_⟩
  have hend : ((s.setImage r.image image).sendAll outs).endRead =
      ({ s with readState := none }.setImage r.image image).sendAll outs := by
    rw [endRead_of_empty (by simpa using hqueue) (by simpa using hreset)]
    exact (sendAll_readState_update _ _ outs).symm
  rw [hrun, hend, run_pumpLoop_idle (HandlerState.sendAll_readState _ _)]

section Transfers

omit [DecidableEq ref]

variable {readbfr : Nat} {r : ReadRequest ref} {image image' : MediaImage}
variable {outs : List Outbound}

theorem Transfer.sameDisk (h : Transfer readbfr r image outs image') :
    image.SameDisk image' := by
  induction h with
  | cut hread => exact MediaImage.read_sameDisk hread
  | last hread hdata hlast => exact MediaImage.read_sameDisk hread
  | more hread hdata hmore rest ih =>
      exact (MediaImage.read_sameDisk hread).trans ih

theorem ReadRequest.advance_of_data {data : Bytes} (h : data ≠ []) :
    r.advance data =
      { r with
        byteOffset := r.byteOffset + data.length
        remaining := r.remaining - data.length } := by
  rw [ReadRequest.advance, if_neg h]

theorem ReadRequest.advance_chunkSize_le (r : ReadRequest ref)
    (data : Bytes) (readbfr : Nat) :
    (r.advance data).chunkSize readbfr ≤ r.chunkSize readbfr := by
  have hle : (r.advance data).remaining ≤ r.remaining := by
    unfold ReadRequest.advance
    split
    · exact Nat.zero_le _
    · exact Nat.sub_le _ _
  unfold ReadRequest.chunkSize
  split <;> lia

theorem Transfer.frames (h : Transfer readbfr r image outs image') :
    forall out, out ∈ outs ->
      out = commandEndResponse false 0x03 r.device.code 0x11 0x00 ∨
        exists completed data, 0 < data.length ∧
          data.length ≤ r.chunkSize readbfr ∧
          out = dataToHost r.device.code completed data r.dma := by
  induction h with
  | cut hread =>
      intro out hmem
      exact Or.inl (List.mem_singleton.mp hmem)
  | last hread hdata hlast =>
      intro out hmem
      exact Or.inr ⟨true, _, List.length_pos_iff.mpr hdata,
        MediaImage.read_length_le hread, List.mem_singleton.mp hmem⟩
  | @more r image data image' outs image'' hread hdata hmore rest ih =>
      intro out hmem
      rcases List.mem_cons.mp hmem with hhead | htail
      · exact Or.inr ⟨false, _, List.length_pos_iff.mpr hdata,
          MediaImage.read_length_le hread, hhead⟩
      · have hchunk := r.advance_chunkSize_le data readbfr
        rcases ih out htail with hcut | ⟨completed, data', hpos, hle, heq⟩
        · left
          rw [hcut, ReadRequest.advance_of_data hdata]
        · refine Or.inr ⟨completed, data', hpos,
            Nat.le_trans hle hchunk, ?_⟩
          rw [heq, ReadRequest.advance_of_data hdata]

theorem Transfer.of_empty (h : Transfer readbfr r image outs image')
    (hempty : (image.read r.byteOffset (r.chunkSize readbfr)).1 = []) :
    outs = [commandEndResponse false 0x03 r.device.code 0x11 0x00] := by
  cases h with
  | cut => rfl
  | last hread hdata =>
      rw [hread] at hempty
      exact absurd hempty hdata
  | more hread hdata =>
      rw [hread] at hempty
      exact absurd hempty hdata

theorem Transfer.of_data (h : Transfer readbfr r image outs image')
    (hdata : (image.read r.byteOffset (r.chunkSize readbfr)).1 ≠ []) :
    exists completed data rest, data ≠ [] ∧
      outs = dataToHost r.device.code completed data r.dma :: rest := by
  cases h with
  | cut hread =>
      rw [hread] at hdata
      exact absurd rfl hdata
  | last hread hne => exact ⟨true, _, [], hne, rfl⟩
  | more hread hne => exact ⟨false, _, _, hne, rfl⟩

theorem Transfer.of_unbounded (h : Transfer 0 r image outs image')
    (hshort : image.shortReads = []) (hpos : 0 < r.remaining)
    (hfit : r.byteOffset + r.remaining ≤ image.file.length) :
    outs =
      [dataToHost r.device.code true
        (slice image.file r.byteOffset r.remaining) r.dma] := by
  have hslice : forall {data : Bytes} {image'' : MediaImage},
      image.read r.byteOffset (r.chunkSize 0) = (data, image'') ->
      data = slice image.file r.byteOffset r.remaining :=
    fun hread => MediaImage.read_eq_slice hread hshort
  have hlength := slice_length_of_le hfit
  cases h with
  | cut hread =>
      rw [← hslice hread] at hlength
      simp only [List.length_nil] at hlength
      lia
  | last hread =>
      rw [hslice hread]
  | more hread hdata hmore =>
      rw [hslice hread] at hmore
      lia

/-- A transfer from a file that holds the requested range is completed by its
last frame, and its data is that range. -/
theorem Transfer.intact (h : Transfer readbfr r image outs image')
    (hshort : image.shortReads = []) (hpos : 0 < r.remaining)
    (hfit : r.byteOffset + r.remaining ≤ image.file.length) :
    exists (chunks : List Bytes) (final : Bytes),
      outs =
        chunks.map (fun data => dataToHost r.device.code false data r.dma) ++
          [dataToHost r.device.code true final r.dma] ∧
      chunks.flatten ++ final =
        slice image.file r.byteOffset r.remaining := by
  induction h with
  | @cut r image image' hread =>
      have hslice := MediaImage.read_eq_slice hread hshort
      have hlength := congrArg List.length hslice
      have hchunk := r.chunkSize_pos hpos readbfr
      have hle := r.chunkSize_le readbfr
      rw [slice_length_of_le (by lia)] at hlength
      simp only [List.length_nil] at hlength
      lia
  | @last r image data image' hread hdata hlast =>
      have hslice := MediaImage.read_eq_slice hread hshort
      have hle := r.chunkSize_le readbfr
      have hread_le := MediaImage.read_length_le hread
      have hchunk : r.chunkSize readbfr = r.remaining := by lia
      exact ⟨[], data, rfl, by rw [hslice, hchunk]; rfl⟩
  | @more r image data image' outs image'' hread hdata hmore rest ih =>
      have hslice := MediaImage.read_eq_slice hread hshort
      have hlength := congrArg List.length hslice
      have hle := r.chunkSize_le readbfr
      rw [slice_length_of_le (by lia)] at hlength
      have hsame := MediaImage.read_sameDisk hread
      rw [ReadRequest.advance_of_data hdata] at ih
      obtain ⟨chunks, final, houts, hcontent⟩ :=
        ih (hsame.shortReads hshort) (by simp only; lia)
          (by simp only [hsame.file]; lia)
      refine ⟨data :: chunks, final, by rw [houts]; rfl, ?_⟩
      have hdata_slice : slice image.file r.byteOffset data.length = data := by
        rw [hlength, ← hslice]
      calc
        (data :: chunks).flatten ++ final
            = data ++ slice image.file (r.byteOffset + data.length)
                (r.remaining - data.length) := by
              rw [List.flatten_cons, List.append_assoc, hcontent, hsame.file]
        _ = slice image.file r.byteOffset
              (data.length + (r.remaining - data.length)) := by
              rw [← slice_append, hdata_slice]
        _ = slice image.file r.byteOffset r.remaining := by
              rw [Nat.add_sub_cancel' (Nat.le_of_lt hmore)]

end Transfers

end Ider
end IntelAmt
