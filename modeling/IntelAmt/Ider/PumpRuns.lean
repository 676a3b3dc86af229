import Mathlib.Data.List.Forall2
import Mathlib.Logic.Relation
import IntelAmt.Ider.Answers

/-!
# The read pump over a queue

Whatever the reads of the backing files return, the pump works off the current
read and everything queued behind it and comes to an end.  What it sends for a
request is all of it, or less than that and a medium error.
-/

namespace IntelAmt
namespace Ider

open Foundation

variable {ref : Type}

/-!
## Images under reads
-/

/-- One read of the image, whatever it returned. -/
def MediaImage.ReadTo (image image' : MediaImage) : Prop :=
  exists offset length data, image.read offset length = (data, image')

/-- Any number of reads, one after the other. -/
def MediaImage.ReadsTo : MediaImage -> MediaImage -> Prop :=
  Relation.ReflTransGen MediaImage.ReadTo

theorem MediaImage.ReadsTo.of_read {image image' : MediaImage}
    {offset length : Nat} {data : Bytes}
    (h : image.read offset length = (data, image')) : image.ReadsTo image' :=
  Relation.ReflTransGen.single ⟨offset, length, data, h⟩

theorem MediaImage.ReadsTo.sameDisk {image image' : MediaImage}
    (h : image.ReadsTo image') : image.SameDisk image' := by
  induction h with
  | refl => exact MediaImage.SameDisk.refl image
  | tail _ hstep ih =>
      rcases hstep with ⟨offset, length, data, hread⟩
      exact ih.trans (MediaImage.read_sameDisk hread)

/-!
## One request
-/

/-- The request when `n` more of its bytes have been sent. -/
def ReadRequest.skip (r : ReadRequest ref) (n : Nat) : ReadRequest ref :=
  { r with byteOffset := r.byteOffset + n, remaining := r.remaining - n }

/-- The frames that carry the given chunks, none of them the last. -/
def ReadRequest.unfinished (r : ReadRequest ref) (chunks : List Bytes) :
    List Outbound :=
  chunks.map fun data => dataToHost r.device.code false data r.dma

/-- All bytes of the request, and the mark on the last frame only. -/
def Delivered (r : ReadRequest ref) (outs : List Outbound) : Prop :=
  exists (chunks : List Bytes) (final : Bytes),
    outs = r.unfinished chunks ++ [dataToHost r.device.code true final r.dma] ∧
      (chunks.flatten ++ final).length = r.remaining

/-- Fewer bytes than requested, because the read behind them was the first to
return nothing, and one medium error. -/
def Failed (readbfr : Nat) (image : MediaImage) (r : ReadRequest ref)
    (outs : List Outbound) : Prop :=
  exists (chunks : List Bytes) (image' : MediaImage),
    outs = r.unfinished chunks ++
        [commandEndResponse false 0x03 r.device.code 0x11 0x00] ∧
      [] ∉ chunks ∧
      (0 < r.remaining -> chunks.flatten.length < r.remaining) ∧
      image.ReadsTo image' ∧
      ((r.skip chunks.flatten.length).nextRead (fun _ => image') readbfr).1 =
        []

/-- One frame of a request that is not over. -/
def Interrupted (r : ReadRequest ref) (outs : List Outbound) : Prop :=
  exists data, data ≠ [] ∧ data.length < r.remaining ∧
    outs = [dataToHost r.device.code false data r.dma]

/-- What the pump sends for a request that it works on to the end. -/
def Served (readbfr : Nat) (image : MediaImage) (r : ReadRequest ref)
    (outs : List Outbound) : Prop :=
  Delivered r outs ∨ Failed readbfr image r outs

section Requests

variable {readbfr : Nat} {r : ReadRequest ref} {image image' : MediaImage}
variable {outs : List Outbound}

theorem ReadRequest.skip_skip (r : ReadRequest ref) (n m : Nat) :
    (r.skip n).skip m = r.skip (n + m) := by
  simp [ReadRequest.skip, Nat.add_assoc, Nat.sub_sub]

theorem ReadRequest.advance_eq_skip {data : Bytes} (h : data ≠ []) :
    r.advance data = r.skip data.length :=
  ReadRequest.advance_of_data h

theorem Delivered.more {data : Bytes} (hmore : data.length < r.remaining)
    (h : Delivered (r.skip data.length) outs) :
    Delivered r (dataToHost r.device.code false data r.dma :: outs) := by
  rcases h with ⟨chunks, final, houts, hlength⟩
  refine ⟨data :: chunks, final, by rw [houts]; rfl, ?_⟩
  have hrest : (chunks.flatten ++ final).length =
      r.remaining - data.length := hlength
  rw [List.flatten_cons, List.append_assoc, List.length_append, hrest]
  lia

theorem Failed.more {data : Bytes} (hdata : data ≠ [])
    (hmore : data.length < r.remaining) (hreads : image.ReadsTo image')
    (h : Failed readbfr image' (r.skip data.length) outs) :
    Failed readbfr image r
      (dataToHost r.device.code false data r.dma :: outs) := by
  rcases h with ⟨chunks, image'', houts, hfull, hshort, hreads', hempty⟩
  have hless : chunks.flatten.length < r.remaining - data.length :=
    hshort (Nat.sub_pos_of_lt hmore)
  refine ⟨data :: chunks, image'', by rw [houts]; rfl, ?_, ?_,
    hreads.trans hreads', ?_⟩
  · intro hmem
    rcases List.mem_cons.mp hmem with hhead | htail
    · exact hdata hhead.symm
    · exact hfull htail
  · intro _
    rw [List.flatten_cons, List.length_append]
    lia
  · rw [List.flatten_cons, List.length_append, ← ReadRequest.skip_skip]
    exact hempty

theorem Transfer.readsTo (h : Transfer readbfr r image outs image') :
    image.ReadsTo image' := by
  induction h with
  | cut hread => exact MediaImage.ReadsTo.of_read hread
  | last hread _ _ => exact MediaImage.ReadsTo.of_read hread
  | more hread _ _ _ ih =>
      exact (MediaImage.ReadsTo.of_read hread).trans ih

theorem Transfer.served (h : Transfer readbfr r image outs image') :
    Served readbfr image r outs := by
  induction h with
  | @cut r image image' hread =>
      refine Or.inr ⟨[], image, rfl, List.not_mem_nil, ?_,
        Relation.ReflTransGen.refl, ?_⟩
      · exact fun hpos => hpos
      · exact congrArg Prod.fst hread
  | @last r image data image' hread _ hlast =>
      have hread_le := MediaImage.read_length_le hread
      have hchunk := r.chunkSize_le readbfr
      refine Or.inl ⟨[], data, rfl, ?_⟩
      rw [List.flatten_nil, List.nil_append]
      lia
  | @more r image data image' outs image'' hread hdata hmore _ ih =>
      rw [ReadRequest.advance_eq_skip hdata] at ih
      rcases ih with hdelivered | hfailed
      · exact Or.inl (hdelivered.more hmore)
      · exact Or.inr
          (hfailed.more hdata hmore (MediaImage.ReadsTo.of_read hread))

theorem Served.earlier (h : Served readbfr image' r outs)
    (hreads : image.ReadsTo image') : Served readbfr image r outs := by
  rcases h with hdelivered |
    ⟨chunks, image'', houts, hfull, hshort, hreads', hempty⟩
  · exact Or.inl hdelivered
  · exact Or.inr
      ⟨chunks, image'', houts, hfull, hshort, hreads.trans hreads', hempty⟩

theorem ReadRequest.reply_served (r : ReadRequest ref)
    (images : ref -> MediaImage) (readbfr : Nat) :
    Served readbfr (images r.image) r
        [r.reply (r.nextRead images readbfr).1] ∨
      Interrupted r [r.reply (r.nextRead images readbfr).1] := by
  rcases hread : r.nextRead images readbfr with ⟨data, image⟩
  unfold ReadRequest.reply
  by_cases hdata : data = []
  · subst hdata
    exact Or.inl (Transfer.cut hread).served
  · by_cases hmore : data.length < r.remaining
    · right
      have hnot : ¬ r.remaining - data.length = 0 := by lia
      exact ⟨data, hdata, hmore, by simp [hdata, hnot]⟩
    · left
      have hzero : r.remaining - data.length = 0 := by lia
      have hlast := (Transfer.last hread hdata (by lia)).served
      simpa [hdata, hzero] using hlast

end Requests

/-!
## The whole queue
-/

/-- The message that answers a reset which came in between. -/
def resetOccurred : Outbound :=
  { cmdid := cmdResetOccurredResponse, payload := []
    completed := false, dma := false }

/-- Nothing to read and nothing to reset, with the given images. -/
def HandlerState.drained (s : HandlerState ref) (images : ref -> MediaImage) :
    HandlerState ref :=
  { s with
    images := images
    readState := none
    readQueue := []
    resetPending := false }

theorem sendAll_comm {f : HandlerState ref -> HandlerState ref}
    (h : forall s out, (f s).send out = f (s.send out))
    (s : HandlerState ref) (outs : List Outbound) :
    (f s).sendAll outs = f (s.sendAll outs) := by
  induction outs generalizing s with
  | nil => rfl
  | cons out outs ih =>
      rw [HandlerState.sendAll_cons, h, ih, HandlerState.sendAll_cons]

theorem sendAll_drained (s : HandlerState ref) (images : ref -> MediaImage)
    (outs : List Outbound) :
    (s.drained images).sendAll outs = (s.sendAll outs).drained images :=
  sendAll_comm (f := fun s => s.drained images) (fun _ _ => rfl) s outs

theorem sends_drained (s : HandlerState ref) (images : ref -> MediaImage)
    (outs : List Outbound) :
    Sends s ((s.drained images).sendAll outs) outs :=
  sends_sendAll (s.drained images) outs

variable [DecidableEq ref]

theorem readsTo_setImage {s : HandlerState ref} {i : ref} {image : MediaImage}
    (h : (s.images i).ReadsTo image) (j : ref) :
    (s.images j).ReadsTo ((s.setImage i image).images j) := by
  by_cases hj : j = i
  · subst hj
    rw [HandlerState.setImage_images]
    exact h
  · rw [HandlerState.setImage_images_of_ne _ hj]
    exact Relation.ReflTransGen.refl

/-- Without a reset the pump serves the current read and the queue, in
order. -/
theorem run_pumpLoop_queue {s : HandlerState ref} {r : ReadRequest ref}
    (hstate : s.readState = some r) (hreset : s.resetPending = false)
    (readbfr : Nat) :
    exists images outss,
      (pumpLoop readbfr).run s =
        (Except.ok (), (s.drained images).sendAll outss.flatten) ∧
      (forall i, (s.images i).ReadsTo (images i)) ∧
      List.Forall₂ (fun r outs => Served readbfr (s.images r.image) r outs)
        (r :: s.readQueue) outss := by
  induction hqueue : s.readQueue generalizing s r with
  | nil =>
      rcases run_pumpLoop_single hstate hqueue hreset readbfr with
        ⟨outs, image, htransfer, hrun⟩
      refine ⟨(s.setImage r.image image).images, [outs], ?_,
        readsTo_setImage htransfer.readsTo,
        List.Forall₂.cons htransfer.served List.Forall₂.nil⟩
      have hdrained : s.drained (s.setImage r.image image).images =
          ({ s with readState := none }.setImage r.image image) := by
        rw [HandlerState.drained, ← hqueue, ← hreset]
        rfl
      rw [hrun, hdrained, List.flatten_singleton]
  | cons r' rest ih =>
      rcases run_pumpLoop_transfer hstate hreset readbfr with
        ⟨outs, image, htransfer, hrun⟩
      have hreads := readsTo_setImage htransfer.readsTo
      have hnext : ((s.setImage r.image image).sendAll outs).endRead =
          { (s.setImage r.image image).sendAll outs with
            readState := some r', readQueue := rest } := by
        unfold HandlerState.endRead
        simp [hreset, hqueue]
      rw [hnext] at hrun
      rcases ih (s := { (s.setImage r.image image).sendAll outs with
          readState := some r', readQueue := rest }) rfl
          (by simpa using hreset) rfl with
        ⟨images, outss, hrest, hreads', hserved⟩
      simp only [HandlerState.sendAll_images] at hreads' hserved
      refine ⟨images, outs :: outss, ?_,
        fun i => (hreads i).trans (hreads' i),
        List.Forall₂.cons htransfer.served
          (hserved.imp fun r outs h => h.earlier (hreads r.image))⟩
      rw [hrun, hrest, List.flatten_cons, HandlerState.sendAll_append]
      exact congrArg (fun t => (Except.ok (),
        HandlerState.sendAll t outss.flatten))
          (sendAll_drained (s.setImage r.image image) images outs).symm

/-- With a reset pending, the pump sends one frame and then answers it. -/
theorem run_pumpLoop_reset {s : HandlerState ref} {r : ReadRequest ref}
    (hstate : s.readState = some r) (hreset : s.resetPending = true)
    (readbfr : Nat) :
    (pumpLoop readbfr).run s =
      (Except.ok (),
        (s.drained
          (s.setImage r.image (r.nextRead s.images readbfr).2).images).sendAll
            [r.reply (r.nextRead s.images readbfr).1, resetOccurred]) := by
  have hunfold : (pumpLoop readbfr).run s = _ :=
    Exec.run_whileLoop (pumpReadPass_decreases readbfr) s
  rw [run_pumpReadPass hstate] at hunfold
  rw [hunfold, hstate]
  simp [hreset, HandlerState.endRead]
  rfl

/-- How a call of the pump that has the request `r` at hand ends. -/
structure PumpEnds (s : HandlerState ref) (r : ReadRequest ref)
    (s' : HandlerState ref) : Prop where
  readState : s'.readState = none
  readQueue : s'.readQueue = []
  resetPending : s'.resetPending = false
  images : forall i, (s.images i).ReadsTo (s'.images i)
  served : s.resetPending = false -> exists outss,
    Sends s s' outss.flatten ∧
      List.Forall₂
        (fun r outs =>
          Served s.sessionInfo.readbfr (s.images r.image) r outs)
        (r :: s.readQueue) outss
  reset : s.resetPending = true -> exists outs,
    Sends s s' (outs ++ [resetOccurred]) ∧
      (Served s.sessionInfo.readbfr (s.images r.image) r outs ∨
        Interrupted r outs)

/-- The pump comes to an end and never takes a short read for success. -/
theorem pumpRead_ends {s : HandlerState ref} {r : ReadRequest ref}
    (hstate : s.readState = some r) :
    exists s', pumpRead.run s = (Except.ok (), s') ∧ PumpEnds s r s' := by
  rw [run_pumpRead]
  cases hreset : s.resetPending with
  | false =>
      rcases run_pumpLoop_queue hstate hreset s.sessionInfo.readbfr with
        ⟨images, outss, hrun, hreads, hserved⟩
      refine ⟨_, hrun, by simp [HandlerState.drained],
        by simp [HandlerState.drained], by simp [HandlerState.drained],
        fun i => by simpa [HandlerState.drained] using hreads i, ?_, ?_⟩
      · intro _
        exact ⟨outss, sends_drained s images _, hserved⟩
      · intro htrue
        rw [hreset] at htrue
        cases htrue
  | true =>
      have hrun := run_pumpLoop_reset hstate hreset s.sessionInfo.readbfr
      have hread : (s.images r.image).ReadsTo
          (r.nextRead s.images s.sessionInfo.readbfr).2 :=
        MediaImage.ReadsTo.of_read rfl
      refine ⟨_, hrun, rfl, rfl, rfl, readsTo_setImage hread, ?_, ?_⟩
      · intro hfalse
        rw [hreset] at hfalse
        cases hfalse
      · intro _
        exact ⟨[_], sends_drained s _ _, r.reply_served s.images _⟩

/-- Two sectors wanted and another read queued, from a file that is cut down to
one sector in between. -/
theorem pumpRead_ends_truncated :
    let image : MediaImage :=
      { MediaImage.blank ["boot.img"] DeviceCode.floppy 2 true nofun with
        shortReads := [512, 0, 0] }
    let r : ReadRequest Unit :=
      { device := DeviceCode.floppy, image := (), byteOffset := 0
        remaining := 1024, dma := false }
    let s : HandlerState Unit :=
      { (newEngine .onReboot 30000 0 20000 fun _ => image).state with
        readState := some r, readQueue := [r] }
    exists s', pumpRead.run s = (Except.ok (), s') ∧ PumpEnds s r s' := by
  intro image r s
  exact pumpRead_ends rfl

end Ider
end IntelAmt
