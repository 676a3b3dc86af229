import Mathlib.Logic.ExistsUnique
import IntelAmt.Ider.WritePath

/-!
# How accepted writes are settled

There is one slot for a pending write.  A write that holds it collects the
payload messages that follow and is settled by one status.  The slot is not
guarded: a second write command takes it over, and a reset leaves it as it is.
Both are stated here with the exact conditions under which they do no harm.
-/

namespace IntelAmt
namespace Ider

open Foundation

variable {ref : Type} [DecidableEq ref]

def Accepting (d : Delivery ref) : Prop :=
  exists i lba length, AcceptsWrite d i lba length

/-- A write of `length` sectors at `lba` after the deliveries `since`: no other
write was accepted, not all bytes have come, and each payload message was
stored behind the ones before it, with no frame in answer. -/
structure Outstanding (i : ref) (lba length : Nat)
    (since : List (Delivery ref)) : Prop where
  alone : forall d, d ∈ since -> ¬ Accepting d
  missing : hostBytes since < 512 * length
  stored : forall before d after, since = before ++ d :: after ->
    messageCmdid d.message = cmdDataFromHost ->
    d.after.trace = d.before.trace ++
      [Effect.wrote i (512 * lba + hostBytes before) (hostPayload d.message)]

/-- The message that settles an outstanding write: the last byte is stored and
success is reported, or more bytes than were missing come, and an overrun is
reported and nothing stored. -/
structure Settling (i : ref) (lba length : Nat)
    (since : List (Delivery ref)) (d : Delivery ref) : Prop where
  cmdid : messageCmdid d.message = cmdDataFromHost
  answer :
    hostBytes since + (hostPayload d.message).length = 512 * length ∧
        d.after.trace = d.before.trace ++
          [Effect.wrote i (512 * lba + hostBytes since)
            (hostPayload d.message),
          Effect.sent ((commandEndResponse false 0x00
            DeviceCode.floppy.code 0x00 0x00).frame d.before.outSeq)] ∨
      512 * length < hostBytes since + (hostPayload d.message).length ∧
        d.after.trace = d.before.trace ++
          [Effect.sent ((commandEndResponse false 0x05
            DeviceCode.floppy.code 0x21 0x00).frame d.before.outSeq)]

/-- A write was settled by one of the deliveries after it, the first that
could. -/
def Settled (i : ref) (lba length : Nat) (since : List (Delivery ref)) :
    Prop :=
  exists before d after, since = before ++ d :: after ∧
    Outstanding i lba length before ∧ Settling i lba length before d

omit [DecidableEq ref] in
theorem hostBytes_cons (d : Delivery ref) (past : List (Delivery ref)) :
    hostBytes (d :: past) = hostBytes [d] + hostBytes past := by
  rw [← hostBytes_append]
  rfl

theorem Settled.hostBytes_le {i : ref} {lba length : Nat}
    {since : List (Delivery ref)} (h : Settled i lba length since) :
    512 * length ≤ hostBytes since := by
  rcases h with ⟨before, d, after, rfl, _, hsettling⟩
  have hd : hostBytes [d] = (hostPayload d.message).length := by
    rw [hostBytes_singleton, if_pos hsettling.cmdid]
  rw [hostBytes_append, hostBytes_cons, hd]
  rcases hsettling.answer with ⟨hall, _⟩ | ⟨hover, _⟩
  · lia
  · lia

theorem Settled.append {i : ref} {lba length : Nat}
    {since : List (Delivery ref)} (h : Settled i lba length since)
    (more : List (Delivery ref)) :
    Settled i lba length (since ++ more) := by
  rcases h with ⟨before, d, after, rfl, hbefore, hsettling⟩
  exact ⟨before, d, after ++ more, by simp, hbefore, hsettling⟩

/-!
## The slot tracks the latest write

Whatever else happens, resets included, the slot is taken as long as the
latest write is outstanding and free once it is settled.
-/

structure Tracked (s : HandlerState ref) (past : List (Delivery ref)) :
    Prop where
  latest : forall i lba length since,
    LatestWrite past i lba length since ->
    (exists p, s.pendingWrite = some p ∧ p.image = i ∧
        p.Records lba length since ∧ Outstanding i lba length since) ∨
      s.pendingWrite = none ∧ Settled i lba length since
  origin : forall p, s.pendingWrite = some p ->
    exists lba length since, LatestWrite past p.image lba length since

theorem Tracked.congr {s s' : HandlerState ref} {past : List (Delivery ref)}
    (h : Tracked s past) (hpending : s'.pendingWrite = s.pendingWrite) :
    Tracked s' past where
  latest := by
    rw [hpending]
    exact h.latest
  origin := by
    rw [hpending]
    exact h.origin

theorem LatestWrite.snoc_cases {past since : List (Delivery ref)}
    {d : Delivery ref} {i : ref} {lba length : Nat}
    (h : LatestWrite (past ++ [d]) i lba length since) :
    since = [] ∧ AcceptsWrite d i lba length ∨
      exists since', since = since' ++ [d] ∧
        LatestWrite past i lba length since' ∧ ¬ Accepting d := by
  rcases h.split with ⟨before, d', hpast, haccepts⟩
  rcases snoc_split hpast with ⟨hnil, _, rfl⟩ | ⟨since', rfl, hsplit⟩
  · exact Or.inl ⟨hnil, haccepts⟩
  · refine Or.inr ⟨since', rfl, ⟨⟨before, d', hsplit, haccepts⟩, ?_⟩, ?_⟩
    · intro x hx
      exact h.alone x (List.mem_append_left _ hx)
    · rintro ⟨j, lba', length', hother⟩
      exact h.alone d (by simp) j lba' length' hother

theorem Outstanding.snoc {i : ref} {lba length : Nat}
    {since : List (Delivery ref)} {d : Delivery ref}
    (h : Outstanding i lba length since) (hnot : ¬ Accepting d)
    (hmissing : hostBytes (since ++ [d]) < 512 * length)
    (hstored : messageCmdid d.message = cmdDataFromHost ->
      d.after.trace = d.before.trace ++
        [Effect.wrote i (512 * lba + hostBytes since)
          (hostPayload d.message)]) :
    Outstanding i lba length (since ++ [d]) where
  alone := by
    intro x hx
    rcases List.mem_append.mp hx with hold | hnew
    · exact h.alone x hold
    · cases List.mem_singleton.mp hnew
      exact hnot
  missing := hmissing
  stored := by
    intro before x after hsplit hcmdid
    rcases snoc_split hsplit with ⟨_, rfl, rfl⟩ | ⟨after', _, hsince⟩
    · exact hstored hcmdid
    · exact h.stored before x after' hsince hcmdid

omit [DecidableEq ref] in
theorem PendingStep.none {s s' : HandlerState ref} {message : Bytes}
    (h : PendingStep s s' message) (hnone : s.pendingWrite = none) :
    s'.pendingWrite = none := by
  cases h with
  | kept _ hkept => exact hkept.trans hnone
  | unsolicited _ _ hstill => exact hstill
  | overrun _ _ _ hstill => exact hstill
  | stored p _ hbefore =>
      rw [hbefore] at hnone
      cases hnone
  | completed _ _ _ hstill => exact hstill

section Deliver

variable {r : Receiver ref} {s' : HandlerState ref} {message : Bytes}
variable (hafter : Delivery.after ((r, message) : Delivery ref) = s')
variable (hnot : ¬ Accepting ((r, message) : Delivery ref))
variable (hpending : PendingStep r.2 s' message)

include hafter hnot hpending in
theorem Outstanding.deliver {i : ref} {lba length : Nat}
    {since : List (Delivery ref)} {p : PendingWrite ref}
    (hout : Outstanding i lba length since) (hp : r.2.pendingWrite = some p)
    (himage : p.image = i) (hrecords : p.Records lba length since) :
    (exists p, s'.pendingWrite = some p ∧ p.image = i ∧
        p.Records lba length (since ++ [(r, message)]) ∧
        Outstanding i lba length (since ++ [(r, message)])) ∨
      s'.pendingWrite = none ∧
        Settled i lba length (since ++ [(r, message)]) := by
  have hreceived := hrecords.received
  have hoffset : p.byteOffset + p.received =
      512 * lba + hostBytes since := by
    rw [hrecords.byteOffset, hreceived]
  have hmissing := hout.missing
  cases hpending with
  | kept hcmdid hkept =>
      have hzero : hostBytes [((r, message) : Delivery ref)] = 0 := by
        rw [hostBytes_singleton, Delivery.message, if_neg hcmdid]
      refine Or.inl ⟨p, hkept.trans hp, himage, ?_, ?_⟩
      · refine ⟨hrecords.device, hrecords.byteOffset,
          hrecords.expectedLength, ?_⟩
        rw [hostBytes_append, hzero]
        exact hreceived
      · refine hout.snoc hnot ?_ fun hcontra => absurd hcontra hcmdid
        rw [hostBytes_append, hzero]
        exact hmissing
  | unsolicited hcmdid hbefore _ =>
      rw [hbefore] at hp
      cases hp
  | overrun p' hcmdid hbefore hnone hlength hsent =>
      cases hbefore.symm.trans hp
      rw [hrecords.expectedLength, hreceived] at hlength
      rw [hrecords.device] at hsent
      refine Or.inr ⟨hnone, since, (r, message), [], rfl, hout, hcmdid,
        Or.inr ⟨?_, ?_⟩⟩
      · show 512 * length < hostBytes since + (hostPayload message).length
        lia
      · rw [hafter]
        exact hsent
  | stored p' hcmdid hbefore hstill hmore hsent =>
      cases hbefore.symm.trans hp
      have hbytes : hostBytes [((r, message) : Delivery ref)] =
          (hostPayload message).length := by
        rw [hostBytes_singleton, Delivery.message, if_pos hcmdid]
      refine Or.inl ⟨_, hstill, himage, ?_, ?_⟩
      · refine ⟨hrecords.device, hrecords.byteOffset,
          hrecords.expectedLength, ?_⟩
        rw [hostBytes_append, hbytes, ← hreceived]
      · refine hout.snoc hnot ?_ fun _ => ?_
        · rw [hostBytes_append, hbytes, ← hreceived,
            ← hrecords.expectedLength]
          exact hmore
        · rw [hafter, ← hoffset, ← himage]
          exact hsent
  | completed p' hcmdid hbefore hnone hlength hall hsent =>
      cases hbefore.symm.trans hp
      rw [hrecords.expectedLength, hreceived] at hlength hall
      rw [hrecords.device, hoffset, himage] at hsent
      refine Or.inr ⟨hnone, since, (r, message), [], rfl, hout, hcmdid,
        Or.inl ⟨?_, ?_⟩⟩
      · show hostBytes since + (hostPayload message).length = 512 * length
        lia
      · rw [hafter]
        exact hsent

include hpending in
omit [DecidableEq ref] in
theorem PendingStep.origin {p : PendingWrite ref}
    (hp : s'.pendingWrite = some p) :
    exists p', r.2.pendingWrite = some p' ∧ p'.image = p.image := by
  cases hpending with
  | kept _ hkept => exact ⟨p, hkept.symm.trans hp, rfl⟩
  | unsolicited _ _ hstill => cases hstill.symm.trans hp
  | overrun _ _ _ hstill => cases hstill.symm.trans hp
  | stored p' _ hbefore hstill =>
      cases hstill.symm.trans hp
      exact ⟨p', hbefore, rfl⟩
  | completed _ _ _ hstill => cases hstill.symm.trans hp

include hafter hnot hpending in
/-- One delivery that accepts no write keeps the slot in step. -/
theorem Tracked.deliver {past : List (Delivery ref)} (h : Tracked r.2 past) :
    Tracked s' (past ++ [(r, message)]) where
  latest := by
    intro i lba length since hlatest
    rcases hlatest.snoc_cases with ⟨_, haccepts⟩ |
      ⟨since', rfl, hlatest', _⟩
    · exact absurd ⟨i, lba, length, haccepts⟩ hnot
    rcases h.latest i lba length since' hlatest' with
      ⟨p, hp, himage, hrecords, hout⟩ | ⟨hnone, hsettled⟩
    · exact hout.deliver hafter hnot hpending hp himage hrecords
    · exact Or.inr ⟨hpending.none hnone, hsettled.append _⟩
  origin := by
    have hnone : forall i lba length,
        ¬ AcceptsWrite ((r, message) : Delivery ref) i lba length := by
      intro i lba length haccepts
      exact hnot ⟨i, lba, length, haccepts⟩
    intro p hp
    rcases hpending.origin hp with ⟨p', hp', himage⟩
    rcases h.origin p' hp' with ⟨lba, length, since, hlatest⟩
    rw [himage] at hlatest
    exact ⟨lba, length, _, WriteLog.latest_append hlatest hnone⟩

end Deliver

theorem tracked_kept {images : ref -> MediaImage} :
    KeptByRuns images fun r past => Tracked r.2 past where
  attach := fun i r past _ h => h.congr rfl
  send := fun out r past _ h => h.congr rfl
  halt := fun r past _ h => h.congr rfl
  deliver := by
    intro message r past result s hstanding h _ _ hrun hstep
    have hafter : Delivery.after ((r, message) : Delivery ref) = s :=
      congrArg Prod.snd hrun
    by_cases hnot : Accepting ((r, message) : Delivery ref)
    · have htaken : forall i lba length,
          AcceptsWrite ((r, message) : Delivery ref) i lba length ->
          s.pendingWrite =
            some (writeRecord DeviceCode.floppy i lba length) := by
        intro i lba length haccepts
        rw [← hafter, haccepts.granted]
        rfl
      constructor
      · intro i lba length since hlatest
        rcases hlatest.snoc_cases with ⟨rfl, haccepts⟩ |
          ⟨since', _, _, hother⟩
        · refine Or.inl ⟨_, htaken i lba length haccepts, rfl,
            writeRecord_records i lba length, ?_⟩
          have hpos := haccepts.nonempty
          exact ⟨by simp, by rw [hostBytes_nil]; lia, by simp⟩
        · exact absurd hnot hother
      · intro p hp
        rcases hnot with ⟨i, lba, length, haccepts⟩
        cases (htaken i lba length haccepts).symm.trans hp
        exact ⟨lba, length, [], ⟨past, (r, message), rfl, haccepts⟩, by simp⟩
    · exact h.deliver hafter hnot (hstep.pending hstanding hrun
        fun i lba length haccepts => hnot ⟨i, lba, length, haccepts⟩)

theorem newEngine_tracked {images : ref -> MediaImage}
    (startMode : StartMode) (rxTimeout txTimeout heartbeat : Nat) :
    Tracked
      (newEngine startMode rxTimeout txTimeout heartbeat images).state
      [] where
  latest := by
    intro i lba length since hlatest
    rcases hlatest.split with ⟨before, d, hnil, _⟩
    simp at hnil
  origin := by
    intro p hp
    cases hp

/-!
## Every accepted write is settled once
-/

def IsReset (d : Delivery ref) : Prop :=
  messageCmdid d.message = cmdResetOccurred

/-- Exactly one delivery settled the write. -/
def SettledOnce (i : ref) (lba length : Nat) (since : List (Delivery ref)) :
    Prop :=
  ExistsUnique fun split :
      List (Delivery ref) × Delivery ref × List (Delivery ref) =>
    since = split.1 ++ split.2.1 :: split.2.2 ∧
      Outstanding i lba length split.1 ∧
      Settling i lba length split.1 split.2.1

/-- As long as no reset comes, an accepted write is outstanding or has been
settled once; it is not outstanding any more when another write has been
accepted. -/
def WritesSettled (past : List (Delivery ref)) : Prop :=
  forall earlier w since later i lba length,
    past = earlier ++ w :: (since ++ later) ->
    AcceptsWrite w i lba length ->
    (forall d, d ∈ since -> ¬ IsReset d) ->
    Outstanding i lba length since ∨ SettledOnce i lba length since

/-- A write command for a range of a writable floppy arrives while the slot is
taken by a write that was accepted after the last reset. -/
def Overwrites (earlier : List (Delivery ref)) (d : Delivery ref) : Prop :=
  (exists i lba length, OrdersWrite d i lba length) ∧
    d.before.pendingWrite ≠ none ∧
    forall i lba length since, LatestWrite earlier i lba length since ->
      forall x, x ∈ since -> ¬ IsReset x

theorem Settled.once {i : ref} {lba length : Nat}
    {since : List (Delivery ref)} (h : Settled i lba length since) :
    SettledOnce i lba length since := by
  have hlater : forall {before middle : List (Delivery ref)}
      {d : Delivery ref}, Outstanding i lba length before ->
      Settling i lba length before d ->
      ¬ Outstanding i lba length (before ++ d :: middle) := by
    intro before middle d hbefore hsettling hout
    have hsettled : Settled i lba length (before ++ d :: middle) :=
      ⟨before, d, middle, rfl, hbefore, hsettling⟩
    have hle := hsettled.hostBytes_le
    have hlt := hout.missing
    lia
  rcases h with ⟨before, d, after, rfl, hbefore, hsettling⟩
  refine ⟨(before, d, after), ⟨rfl, hbefore, hsettling⟩, ?_⟩
  rintro ⟨before', d', after'⟩ ⟨hsplit, hbefore', hsettling'⟩
  rcases List.append_eq_append_iff.mp hsplit with
    ⟨middle, hb, hd⟩ | ⟨middle, hb, hd⟩
  · cases middle with
    | nil =>
        cases hd
        simp at hb
        simp [hb]
    | cons x middle =>
        cases hd
        simp only at hb hbefore'
        rw [hb] at hbefore'
        exact absurd hbefore' (hlater hbefore hsettling)
  · cases middle with
    | nil =>
        cases hd
        simp at hb
        simp [hb]
    | cons x middle =>
        cases hd
        simp only at hb
        rw [hb] at hbefore
        exact absurd hbefore (hlater hbefore' hsettling')

/-- The deliveries between an accepted write and the next accepted one. -/
theorem split_at_accepting (since : List (Delivery ref)) :
    (forall d, d ∈ since -> ¬ Accepting d) ∨
      exists before d after, since = before ++ d :: after ∧ Accepting d ∧
        forall x, x ∈ before -> ¬ Accepting x := by
  induction since with
  | nil => exact Or.inl (by simp)
  | cons d since ih =>
      by_cases hd : Accepting d
      · exact Or.inr ⟨[], d, since, rfl, hd, by simp⟩
      · rcases ih with hnone | ⟨before, x, after, rfl, hx, hbefore⟩
        · left
          intro y hy
          rcases List.mem_cons.mp hy with rfl | hy
          · exact hd
          · exact hnone y hy
        · refine Or.inr ⟨d :: before, x, after, rfl, hx, ?_⟩
          intro y hy
          rcases List.mem_cons.mp hy with rfl | hy
          · exact hd
          · exact hbefore y hy

theorem not_accepts {d : Delivery ref} (h : ¬ Accepting d) :
    forall i lba length, ¬ AcceptsWrite d i lba length := by
  intro i lba length haccepts
  exact h ⟨i, lba, length, haccepts⟩

theorem LatestWrite.unique {past since since' : List (Delivery ref)}
    {i i' : ref} {lba lba' length length' : Nat}
    (h : LatestWrite past i lba length since)
    (h' : LatestWrite past i' lba' length' since') : since = since' := by
  rcases h.split with ⟨before, d, hpast, haccepts⟩
  rcases h'.split with ⟨before', d', hpast', haccepts'⟩
  rw [hpast] at hpast'
  rcases List.append_eq_append_iff.mp hpast' with
    ⟨middle, _, hd⟩ | ⟨middle, _, hd⟩
  · cases middle with
    | nil =>
        cases hd
        rfl
    | cons x middle =>
        cases hd
        exact absurd haccepts' (h.alone d' (by simp) i' lba' length')
  · cases middle with
    | nil =>
        cases hd
        rfl
    | cons x middle =>
        cases hd
        exact absurd haccepts (h'.alone d (by simp) i lba length)

section Run

variable {past : List (Delivery ref)} {s : HandlerState ref}

/-- Writes are settled in a history that the slot tracks throughout, as long as
none is overwritten. -/
theorem writesSettled_of_not_overwritten (htracked : Tracked s past)
    (hhistory : forall earlier d later, past = earlier ++ d :: later ->
      Tracked (Delivery.before d) earlier)
    (hnot : forall earlier d later, past = earlier ++ d :: later ->
      ¬ Overwrites earlier d) : WritesSettled past := by
  have hprefix : forall before after, past = before ++ after ->
      exists t, Tracked t before := by
    intro before after hpast
    cases after with
    | nil =>
        rw [List.append_nil] at hpast
        rw [← hpast]
        exact ⟨s, htracked⟩
    | cons d after => exact ⟨_, hhistory before d after hpast⟩
  intro earlier w since later i lba length hpast haccepts hreset
  rcases split_at_accepting since with
    halone | ⟨before, d, after, rfl, hd, hbefore⟩
  · rcases hprefix (earlier ++ w :: since) later (by simp [hpast]) with
      ⟨t, ht⟩
    have hlatest : LatestWrite (earlier ++ w :: since) i lba length since :=
      ⟨⟨earlier, w, rfl, haccepts⟩,
        fun x hx => not_accepts (halone x hx)⟩
    rcases ht.latest i lba length since hlatest with
      ⟨p, _, _, _, hout⟩ | ⟨_, hsettled⟩
    · exact Or.inl hout
    · exact Or.inr hsettled.once
  · have hsplit : past = (earlier ++ w :: before) ++ d :: (after ++ later) := by
      simp [hpast]
    have hlatest : LatestWrite (earlier ++ w :: before) i lba length before :=
      ⟨⟨earlier, w, rfl, haccepts⟩,
        fun x hx => not_accepts (hbefore x hx)⟩
    have ht := hhistory _ d _ hsplit
    rcases ht.latest i lba length before hlatest with
      ⟨p, hp, _, _, _⟩ | ⟨_, hsettled⟩
    · rcases hd with ⟨k, lba'', length'', hother⟩
      refine absurd ⟨⟨k, lba'', length'', hother.toOrdersWrite⟩,
        by simp [hp], ?_⟩ (hnot _ d _ hsplit)
      intro j lba' length' since' hlatest' x hx
      rw [hlatest'.unique hlatest] at hx
      exact hreset x (by simp [hx])
    · exact Or.inr (hsettled.append _).once

theorem not_overwritten_of_writesSettled
    (hwhole : forall d, d ∈ past -> Whole d.message)
    (hhistory : forall earlier d later, past = earlier ++ d :: later ->
      Tracked (Delivery.before d) earlier)
    (hsettled : WritesSettled past) :
    forall earlier d later, past = earlier ++ d :: later ->
      ¬ Overwrites earlier d := by
  rintro earlier d later hpast ⟨hd, htaken, hreset⟩
  have ht := hhistory earlier d later hpast
  cases hp : d.before.pendingWrite with
  | none => exact htaken hp
  | some p =>
      rcases ht.origin p hp with ⟨lba, length, since, hlatest⟩
      have hout : Outstanding p.image lba length since := by
        rcases ht.latest _ lba length since hlatest with
          ⟨_, _, _, _, hout⟩ | ⟨hnone, _⟩
        · exact hout
        · exact absurd hnone htaken
      rcases hlatest.split with ⟨before, w, hearlier, haccepts⟩
      rcases hd with ⟨j, lba', length', horders⟩
      have hother := horders.accepted (hwhole d (by simp [hpast]))
      have hquiet : forall x, x ∈ since ++ [d] -> ¬ IsReset x := by
        intro x hx hisReset
        rcases List.mem_append.mp hx with hold | hnew
        · exact hreset _ lba length since hlatest x hold hisReset
        · cases List.mem_singleton.mp hnew
          have hcmdid := hother.cmdid.symm.trans hisReset
          exact absurd hcmdid (by decide)
      have hsplit : past = before ++ w :: ((since ++ [d]) ++ later) := by
        simp [hpast, hearlier]
      rcases hsettled before w (since ++ [d]) later p.image lba length hsplit
        haccepts hquiet with hstill | ⟨⟨b, x, a⟩, ⟨hwhere, hb, hx⟩, _⟩
      · exact hstill.alone d (by simp) ⟨j, lba', length', hother⟩
      · rcases snoc_split hwhere with ⟨_, _, hlast⟩ | ⟨a', _, hsince⟩
        · simp only at hlast
          have hcmdid := hx.cmdid
          rw [hlast, hother.cmdid] at hcmdid
          exact absurd hcmdid (by decide)
        · have hle := (show Settled p.image lba length since from
            ⟨b, x, a', hsince, hb, hx⟩).hostBytes_le
          have hlt := hout.missing
          lia

end Run

/-- In a run every accepted write is settled once before another write is
accepted, or a reset comes first, exactly if no write command is accepted
while the slot is still taken by a write accepted after the last reset. -/
theorem writes_settled_iff {images : ref -> MediaImage}
    (hfresh : forall i, (images i).Fresh) (startMode : StartMode)
    (rxTimeout txTimeout heartbeat : Nat) (calls : List (Call ref)) :
    let past := deliveries calls
      (newEngine startMode rxTimeout txTimeout heartbeat images)
    WritesSettled past ↔
      forall earlier d later, past = earlier ++ d :: later ->
        ¬ Overwrites earlier d := by
  intro past
  have hhistory := run_invariant tracked_kept.history hfresh startMode
    rxTimeout txTimeout heartbeat calls
    ⟨newEngine_tracked startMode rxTimeout txTimeout heartbeat, by simp⟩
  have hwhole : forall d, d ∈ past -> Whole d.message := fun d hmem =>
    (deliveries_standing hfresh startMode rxTimeout txTimeout heartbeat calls
      d hmem).2
  constructor
  · exact not_overwritten_of_writesSettled hwhole hhistory.2
  · exact writesSettled_of_not_overwritten hhistory.1 hhistory.2

theorem writes_settled_iff_single :
    let image := MediaImage.blank ["boot.img"] DeviceCode.floppy 2 true nofun
    let write := commandMessage 0 0x00 0xA0 (extentCdb opWrite10 1 1)
    WritesSettled (deliveries [Call.attach (), Call.feed write]
      (newEngine .onReboot 30000 0 20000 fun _ : Unit => image)) := by
  intro image write
  let start : IderEngine Unit :=
    newEngine .onReboot 30000 0 20000 fun _ => image
  let e := ((runCall (Call.attach ())).run start).2
  have hfresh : forall i : Unit, ((fun _ => image) i).Fresh :=
    fun _ => MediaImage.blank_fresh ..
  have hpast : deliveries [Call.attach (), Call.feed write] start =
      [((e.inSeq, e.state), write)] := by
    rw [deliveries_attach,
      deliveries_message rfl rfl (show Whole write from rfl) rfl]
    rfl
  apply (writes_settled_iff hfresh .onReboot 30000 0 20000
    [Call.attach (), Call.feed write]).mpr
  rw [hpast]
  rintro earlier d later hsplit ⟨_, htaken, _⟩
  cases earlier with
  | nil =>
      cases hsplit
      exact htaken rfl
  | cons x earlier => simp at hsplit

/-- A second WRITE(10) before the payload of the first: the first is neither
outstanding any more nor ever settled. -/
theorem second_write_unsettled :
    let image := MediaImage.blank ["boot.img"] DeviceCode.floppy 2 true nofun
    let calls : List (Call Unit) :=
      [Call.attach (),
        Call.feed (commandMessage 0 0x00 0xA0 (extentCdb opWrite10 0 1)),
        Call.feed (commandMessage 1 0x00 0xA0 (extentCdb opWrite10 1 1))]
    ¬ WritesSettled (deliveries calls
      (newEngine .onReboot 30000 0 20000 fun _ => image)) := by
  intro image calls hsettled
  let start : IderEngine Unit :=
    newEngine .onReboot 30000 0 20000 fun _ => image
  let first := commandMessage 0 0x00 0xA0 (extentCdb opWrite10 0 1)
  let second := commandMessage 1 0x00 0xA0 (extentCdb opWrite10 1 1)
  let e0 := ((runCall (Call.attach ())).run start).2
  let e1 := ((runCall (Call.feed first)).run e0).2
  let w : Delivery Unit := ((e0.inSeq, e0.state), first)
  let d : Delivery Unit := ((e1.inSeq, e1.state), second)
  have hpast : deliveries calls start = [w, d] := by
    rw [deliveries_attach,
      deliveries_message (e := e0) rfl rfl (show Whole first from rfl) rfl,
      deliveries_message (e := e1) (by decide) (by decide)
        (show Whole second from rfl) (by decide)]
    rfl
  have hw : AcceptsWrite w () 0 1 :=
    OrdersWrite.accepted ⟨rfl, rfl, by decide, rfl, by decide, by decide,
      rfl⟩ rfl
  have hd : AcceptsWrite d () 1 1 :=
    OrdersWrite.accepted ⟨rfl, rfl, by decide, by decide, by decide,
      by decide, by decide⟩ rfl
  have hquiet : forall y, y ∈ [d] -> ¬ IsReset y := by
    intro y hy
    cases List.mem_singleton.mp hy
    show ¬ messageCmdid second = cmdResetOccurred
    decide
  rcases hsettled [] w [d] [] () 0 1 hpast hw hquiet with
    hout | ⟨⟨before, y, after⟩, ⟨hsplit, hbefore, hy⟩, _⟩
  · exact hout.alone d (by simp) ⟨(), 1, 1, hd⟩
  · cases before with
    | nil =>
        simp only [List.nil_append, List.cons.injEq] at hsplit
        rcases hsplit with ⟨rfl, _⟩
        have hcmdid : messageCmdid second = cmdDataFromHost := hy.cmdid
        exact absurd hcmdid (by decide)
    | cons z before => simp at hsplit

/-!
## Resets and the pending write
-/

/-- Processing the message hands payload bytes to the file of an image. -/
def StoresBytes (d : Delivery ref) : Prop :=
  exists i offset data, data ≠ [] ∧
    writtenTo i d.after.trace =
      writtenTo i d.before.trace ++ [(offset, data)]

/-- After a reset no payload byte is stored until a write is accepted. -/
def ResetCancels (past : List (Delivery ref)) : Prop :=
  forall earlier reset between d later,
    past = earlier ++ reset :: (between ++ d :: later) ->
    IsReset reset -> (forall x, x ∈ between -> ¬ Accepting x) ->
    ¬ StoresBytes d

/-- No reset comes while a write is outstanding. -/
def ResetsUnpending (past : List (Delivery ref)) : Prop :=
  forall d, d ∈ past -> IsReset d -> d.before.pendingWrite = none

/-- The slot is free as long as no write is accepted after a reset. -/
def FreeSinceReset (s : HandlerState ref) (past : List (Delivery ref)) :
    Prop :=
  forall earlier reset between, past = earlier ++ reset :: between ->
    IsReset reset -> (forall x, x ∈ between -> ¬ Accepting x) ->
    s.pendingWrite = none

theorem freeSinceReset_kept {images : ref -> MediaImage} :
    KeptByRuns images fun r past =>
      ResetsUnpending past -> FreeSinceReset r.2 past where
  attach := fun i r past _ h => h
  send := fun out r past _ h => h
  halt := fun r past _ h => h
  deliver := by
    intro message r past result s hstanding h _ _ hrun hstep hunpending
    have hpast : FreeSinceReset r.2 past :=
      h fun d hmem => hunpending d (List.mem_append_left _ hmem)
    have hstays : ¬ Accepting ((r, message) : Delivery ref) ->
        r.2.pendingWrite = none -> s.pendingWrite = none := by
      intro hnot
      exact (hstep.pending hstanding hrun (not_accepts hnot)).none
    intro earlier reset between hsplit hreset hbetween
    rcases snoc_split hsplit with ⟨rfl, rfl, rfl⟩ | ⟨between', rfl, rfl⟩
    · refine hstays ?_ (hunpending _ (by simp) hreset)
      rintro ⟨i, lba, length, haccepts⟩
      have hcmdid := haccepts.cmdid.symm.trans hreset
      exact absurd hcmdid (by decide)
    · refine hstays (hbetween _ (by simp)) ?_
      exact hpast earlier reset between' rfl hreset
        fun x hx => hbetween x (by simp [hx])

/-- A run in which every reset meets a free slot stores no payload byte after
a reset before it accepts another write. -/
theorem reset_cancels_writes {images : ref -> MediaImage}
    (hfresh : forall i, (images i).Fresh) (startMode : StartMode)
    (rxTimeout txTimeout heartbeat : Nat) (calls : List (Call ref)) :
    let past := deliveries calls
      (newEngine startMode rxTimeout txTimeout heartbeat images)
    ResetsUnpending past -> ResetCancels past := by
  intro past hunpending earlier reset between d later hpast hreset hbetween
  have hhistory := run_invariant freeSinceReset_kept.history hfresh startMode
    rxTimeout txTimeout heartbeat calls ⟨by
      intro _ earlier' reset' between' hnil
      simp at hnil, by simp⟩
  have hsplit : past = (earlier ++ reset :: between) ++ d :: later := by
    simp [hpast]
  have hfree : d.before.pendingWrite = none := by
    refine hhistory.2 _ d later hsplit ?_ earlier reset between rfl hreset
      hbetween
    intro x hx
    apply hunpending x
    rw [hsplit]
    exact List.mem_append_left _ hx
  have hmem : d ∈ past := by
    rw [hsplit]
    simp
  have hmet := deliveries_standing hfresh startMode rxTimeout txTimeout
    heartbeat calls d hmem
  rintro ⟨i, offset, data, _, hwrites⟩
  have hstep : Step d.before d.message (d.outcome, d.after) :=
    dispatch_step hmet.1.idle hmet.2
  rcases hstep.content with hcontent | ⟨p, hstored⟩
  · rw [hcontent.writes i] at hwrites
    simp at hwrites
  · have hpending := hstored.pending
    rw [hfree] at hpending
    cases hpending

/-- Behind a reset, a byte that nobody asked for and one that a write asked
for: the second is stored. -/
theorem reset_cancels_writes_rewritten :
    let image := MediaImage.blank ["boot.img"] DeviceCode.floppy 2 true nofun
    let past := deliveries
      [Call.attach (), Call.feed (resetMessage 0),
        Call.feed (dataMessage 1 [0x55]),
        Call.feed (commandMessage 2 0x00 0xA0 (extentCdb opWrite10 0 1)),
        Call.feed (dataMessage 3 [0x55])]
      (newEngine .onReboot 30000 0 20000 fun _ : Unit => image)
    ResetCancels past ∧ exists d, d ∈ past ∧ StoresBytes d := by
  intro image past
  let start : IderEngine Unit :=
    newEngine .onReboot 30000 0 20000 fun _ => image
  let write := commandMessage 2 0x00 0xA0 (extentCdb opWrite10 0 1)
  let e0 := ((runCall (Call.attach ())).run start).2
  let e1 := ((runCall (Call.feed (resetMessage 0))).run e0).2
  let e2 := ((runCall (Call.feed (dataMessage 1 [0x55]))).run e1).2
  let e3 := ((runCall (Call.feed write)).run e2).2
  let stored : Delivery Unit := ((e3.inSeq, e3.state), dataMessage 3 [0x55])
  have hpast : past =
      [((e0.inSeq, e0.state), resetMessage 0),
        ((e1.inSeq, e1.state), dataMessage 1 [0x55]),
        ((e2.inSeq, e2.state), write), stored] := by
    show deliveries [Call.feed (resetMessage 0),
      Call.feed (dataMessage 1 [0x55]), Call.feed write,
      Call.feed (dataMessage 3 [0x55])] e0 = _
    rw [deliveries_message (e := e0) rfl rfl
        (show Whole (resetMessage 0) from rfl) rfl,
      deliveries_message (e := e1) (by decide) (by decide)
        (show Whole (dataMessage 1 [0x55]) from rfl) (by decide),
      deliveries_message (e := e2) (by decide) (by decide)
        (show Whole write from rfl) (by decide),
      deliveries_message (e := e3) (by decide) (by decide)
        (show Whole (dataMessage 3 [0x55]) from rfl) (by decide)]
    rfl
  have hunpending : ResetsUnpending past := by
    rw [hpast]
    intro d hmem hreset
    have hother : messageCmdid (dataMessage 1 [0x55]) ≠ cmdResetOccurred ∧
        messageCmdid write ≠ cmdResetOccurred ∧
        messageCmdid (dataMessage 3 [0x55]) ≠ cmdResetOccurred := by decide
    simp only [List.mem_cons, List.not_mem_nil, or_false] at hmem
    rcases hmem with rfl | rfl | rfl | rfl
    · rfl
    · exact absurd hreset hother.1
    · exact absurd hreset hother.2.1
    · exact absurd hreset hother.2.2
  have hfresh : forall i : Unit, ((fun _ => image) i).Fresh :=
    fun _ => MediaImage.blank_fresh ..
  refine ⟨reset_cancels_writes hfresh .onReboot 30000 0 20000 _ hunpending,
    stored, by simp [hpast], (), 0, [0x55], by simp, ?_⟩
  decide

/-- WRITE(10), RESET_OCCURRED, then one byte of payload: it is stored. -/
theorem reset_keeps_write :
    let image := MediaImage.blank ["boot.img"] DeviceCode.floppy 2 true nofun
    let calls : List (Call Unit) :=
      [Call.attach (),
        Call.feed (commandMessage 0 0x00 0xA0 (extentCdb opWrite10 0 1)),
        Call.feed (resetMessage 1), Call.feed (dataMessage 2 [0x55])]
    ¬ ResetCancels (deliveries calls
      (newEngine .onReboot 30000 0 20000 fun _ => image)) := by
  intro image calls hcancels
  let start : IderEngine Unit :=
    newEngine .onReboot 30000 0 20000 fun _ => image
  let write := commandMessage 0 0x00 0xA0 (extentCdb opWrite10 0 1)
  let e0 := ((runCall (Call.attach ())).run start).2
  let e1 := ((runCall (Call.feed write)).run e0).2
  let e2 := ((runCall (Call.feed (resetMessage 1))).run e1).2
  let d : Delivery Unit := ((e2.inSeq, e2.state), dataMessage 2 [0x55])
  have hpast : deliveries calls start =
      [((e0.inSeq, e0.state), write), ((e1.inSeq, e1.state), resetMessage 1),
        d] := by
    show deliveries [Call.feed write, Call.feed (resetMessage 1),
      Call.feed (dataMessage 2 [0x55])] e0 = _
    rw [deliveries_message (e := e0) rfl rfl (show Whole write from rfl) rfl,
      deliveries_message (e := e1) (by decide) (by decide)
        (show Whole (resetMessage 1) from rfl) (by decide),
      deliveries_message (e := e2) (by decide) (by decide)
        (show Whole (dataMessage 2 [0x55]) from rfl) (by decide)]
    rfl
  have hreset : messageCmdid (resetMessage 1) = cmdResetOccurred := by decide
  refine hcancels [((e0.inSeq, e0.state), write)]
    ((e1.inSeq, e1.state), resetMessage 1) [] d [] hpast hreset
    (by simp) ⟨(), 0, [0x55], by simp, ?_⟩
  decide

end Ider
end IntelAmt
