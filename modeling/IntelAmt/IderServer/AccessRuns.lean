import IntelAmt.IderServer.Commands

/-!
# Accesses as messages

The messages of an access lead an engine that serves a pair of block devices
to one that serves what the access leaves, and what it says in between is the
answer.
-/

namespace IntelAmt
namespace IderServer

open Foundation Ider

variable {ref : Type} [DecidableEq ref]

/-!
## Serving
-/

/-- The loop around the engine goes on. -/
def Live (r : Receiver ref) : Prop :=
  r.2.stopped = false ∧ r.2.featureToggleOk ≠ some false

/-- Every message goes through, and the loop goes on in between. -/
structure Passes (r : Receiver ref) (messages : List Bytes)
    (r' : Receiver ref) : Prop where
  proceeds : Proceeds iderConsumer Live r messages
  behind : servedBy iderConsumer r messages = r'

theorem Passes.nil {r : Receiver ref} (h : Live r) : Passes r [] r :=
  ⟨h, rfl⟩

theorem Passes.cons {r r' r'' : Receiver ref} {message : Bytes}
    {messages : List Bytes} (hlive : Live r)
    (hproceed : iderConsumer.consume message r = Consumed.proceed r')
    (hrest : Passes r' messages r'') :
    Passes r (message :: messages) r'' where
  proceeds := ⟨hlive, r', hproceed, hrest.proceeds⟩
  behind := by
    rw [servedBy_cons, hproceed]
    exact hrest.behind

theorem Passes.append {r r' r'' : Receiver ref} {messages more : List Bytes}
    (h : Passes r messages r') (hmore : Passes r' more r'') :
    Passes r (messages ++ more) r'' where
  proceeds := h.proceeds.append (by rw [h.behind]; exact hmore.proceeds)
  behind := by rw [servedBy_append, h.behind, hmore.behind]

/-- The receive state behind `n` messages, which were answered with the
sayings. -/
structure Attended (images : ref -> MediaImage) (config : ServerConfig)
    (h : HandlerState ref) (r : Receiver ref) (n : Nat)
    (sayings : List Saying) : Prop where
  attending : Attending images config h r n
  opened : n ≠ 0
  frames : sentFrames r.2.trace = numbered 0 (spoken h sayings)
  fits : forall saying, saying ∈ sayings -> saying.Fits
  live : Live r

section Messages

variable {images : ref -> MediaImage} {config : ServerConfig}
variable {h : HandlerState ref} {r : Receiver ref} {n : Nat}
variable {sayings : List Saying}

theorem Attending.proceed (hr : Attending images config h r n)
    {message : Bytes} (hframed : Framed config n message)
    {s : HandlerState ref}
    (hrun : (dispatch message).run r.2 = (Except.ok (), s))
    (hrunning : s.stopped = false) :
    iderConsumer.consume message r =
      Consumed.proceed ((r.1 + 1) % 2 ^ 32, s) := by
  have hseq : leNat (slice message 4 4) = r.1 := by
    rw [hr.count, Nat.mod_eq_of_lt hframed.numbered]
    exact hframed.seq
  show consumeMessage message r = _
  simp [consumeMessage, hseq, hrun, hrunning]

theorem Attended.step (hr : Attended images config h r n sayings)
    (hconfig : config.Acceptable) {message : Bytes}
    (hframed : Framed config n message) {s : HandlerState ref}
    (hrun : (dispatch message).run r.2 = (Except.ok (), s))
    {more : List Saying} (hsaid : Says r.2 s more)
    (hlive : s.stopped = false ∧ s.featureToggleOk ≠ some false) :
    iderConsumer.consume message r =
        Consumed.proceed ((r.1 + 1) % 2 ^ 32, s) ∧
      Attended images config h ((r.1 + 1) % 2 ^ 32, s) (n + 1)
        (sayings ++ more) := by
  have hproceed := hr.attending.proceed hframed hrun hlive.1
  have hnext := (hr.attending.consume hconfig hframed).2.1
  rw [hproceed] at hnext
  refine ⟨hproceed, hnext, Nat.succ_ne_zero n,
    hr.attending.says hr.frames hsaid, ?_, hlive⟩
  intro saying hmem
  rcases List.mem_append.mp hmem with hold | hnew
  · exact hr.fits saying hold
  · exact hsaid.fits saying hnew

/-!
## Payloads
-/

/-- From one state to the next a file was written to. -/
structure Wrote (s s' : HandlerState ref) (i : ref) (offset : Nat)
    (data : Bytes) : Prop where
  devices : s'.devices = s.devices
  others : forall j, j ≠ i -> s'.images j = s.images j
  blocks : (s'.images i).blocks = (s.images i).blocks
  writable : (s'.images i).writable = (s.images i).writable
  shortReads : (s'.images i).shortReads = (s.images i).shortReads
  file : (s'.images i).file = splice (s.images i).file offset data

theorem wrote_of_write {s s' : HandlerState ref} {i : ref} {offset : Nat}
    {data : Bytes} {image : MediaImage}
    (hwrite : (s.images i).write offset data = Except.ok image)
    (hdevices : s'.devices = s.devices)
    (himages : s'.images = (s.setImage i image).images) :
    Wrote s s' i offset data := by
  rcases MediaImage.write_eq_ok hwrite with ⟨_, _, himage⟩
  have hhere : s'.images i = image := by
    rw [himages, HandlerState.setImage_images]
  refine ⟨hdevices, ?_, ?_, ?_, ?_, ?_⟩
  · intro j hj
    rw [himages, HandlerState.setImage_images_of_ne s hj]
  · rw [hhere, himage]
    rfl
  all_goals rw [hhere, himage]

omit [DecidableEq ref] in
theorem Wrote.trans {s s' s'' : HandlerState ref} {i : ref} {offset : Nat}
    {data more : Bytes} (h : Wrote s s' i offset data)
    (hmore : Wrote s' s'' i (offset + data.length) more)
    (hfit : offset + data.length + more.length ≤ (s.images i).file.length) :
    Wrote s s'' i offset (data ++ more) where
  devices := hmore.devices.trans h.devices
  others := fun j hj => (hmore.others j hj).trans (h.others j hj)
  blocks := hmore.blocks.trans h.blocks
  writable := hmore.writable.trans h.writable
  shortReads := hmore.shortReads.trans h.shortReads
  file := by rw [hmore.file, h.file, splice_splice hfit]

theorem hostPayload_dataMessage {chunk : Bytes}
    (hsmall : chunk.length < 2 ^ 16) (k : Nat) :
    hostPayload (dataMessage k chunk) = chunk := by
  have hlength : leNat (slice (dataMessage k chunk) 9 2) = chunk.length := by
    have hslice : slice (dataMessage k chunk) 9 2 = packLE 2 chunk.length :=
      rfl
    rw [hslice, leNat_packLE_of_lt hsmall]
  rw [hostPayload, hlength]
  show chunk.take chunk.length = chunk
  exact List.take_length

/-- What is done about a chunk that the pending write has room for. -/
structure TakesChunk (s s' : HandlerState ref) (p : PendingWrite ref)
    (chunk : Bytes) (more : List Saying) : Prop where
  answers : Says s s' more
  wrote : Wrote s s' p.image (p.byteOffset + p.received) chunk
  stopped : s'.stopped = s.stopped
  featureToggleOk : s'.featureToggleOk = s.featureToggleOk

/-- A chunk is stored, and the last one is answered. -/
theorem takes_chunk {s : HandlerState ref} (hstanding : Standing images s)
    {p : PendingWrite ref} (hpending : s.pendingWrite = some p)
    {chunk : Bytes} (hsmall : chunk.length < 2 ^ 16)
    (hroom : p.received + chunk.length ≤ p.expectedLength) (k : Nat) :
    exists s', (dispatch (dataMessage k chunk)).run s = (Except.ok (), s') ∧
      ((p.received + chunk.length < p.expectedLength ∧
          s'.pendingWrite =
            some { p with received := p.received + chunk.length } ∧
          TakesChunk s s' p chunk []) ∨
        p.received + chunk.length = p.expectedLength ∧
          s'.pendingWrite = none ∧
          TakesChunk s s' p chunk
            [.status false 0x00 p.device.code 0x00 0x00]) := by
  have hstep := dispatch_step hstanding.idle
    (whole_data (show chunk.length < 256 ^ 2 from hsmall) k)
  have hpayload := hostPayload_dataMessage hsmall k
  have hcmdid : messageCmdid (dataMessage k chunk) = cmdDataFromHost := rfl
  generalize dataMessage k chunk = message at hstep hpayload hcmdid
  have hother : forall {cmdid : UInt8}, messageCmdid message = cmdid ->
      cmdid ≠ cmdDataFromHost -> False :=
    fun hc hne => hne (hc.symm.trans hcmdid)
  generalize (dispatch message).run s = out at hstep
  rcases out with ⟨result, s'⟩
  cases hstep with
  | unsolicited _ hnone =>
      rw [hpending] at hnone
      cases hnone
  | overrun p' _ hp hlength =>
      rw [hpending] at hp
      cases hp
      rw [hpayload] at hlength
      lia
  | unwritable p' e _ hp hlength hwrite =>
      rcases hstanding.write_ok hp hlength with ⟨image, hok⟩
      rw [hok] at hwrite
      cases hwrite
  | stored p' image _ hp hlength hwrite hmore =>
      rw [hpending] at hp
      cases hp
      rw [hpayload] at hwrite hmore ⊢
      refine ⟨_, rfl, Or.inl ⟨hmore, rfl, ?_, ?_, rfl, rfl⟩⟩
      · exact says_nothing (sends_wrote (sends_nil _))
      · exact wrote_of_write hwrite rfl rfl
  | completed p' image _ hp hlength hwrite hall =>
      rw [hpending] at hp
      cases hp
      rw [hpayload] at hwrite hall ⊢
      refine ⟨_, rfl, Or.inr ⟨by lia, rfl, ?_, ?_, rfl, rfl⟩⟩
      · exact says_one (sends_wrote (sends_send _ _)) trivial
      · exact wrote_of_write hwrite rfl rfl
  | ignored hnot => exact absurd (by simp [hcmdid]) hnot
  | opened hc | refused hc | closed hc | pinged hc | available hc
  | engaged hc | toggled hc | reset hc | errorSeen hc | command hc =>
      exact (hother hc (by decide)).elim

theorem framed_data (n : Nat) (chunk : Bytes)
    (rest : List (UInt8 × Bytes)) :
    framed n (dataParcel chunk :: rest) =
      dataMessage n chunk :: framed (n + 1) rest := by
  simp [framed, dataParcel, dataMessage, cmdDataFromHost]

/-- The frames from number `n` on are frames of the server. -/
def FramedFrom (config : ServerConfig) (n : Nat) (messages : List Bytes) :
    Prop :=
  forall k message, messages[k]? = some message ->
    Framed config (n + k) message

omit [DecidableEq ref] in
theorem FramedFrom.head {message : Bytes} {messages : List Bytes}
    (hframed : FramedFrom config n (message :: messages)) :
    Framed config n message := hframed 0 message rfl

omit [DecidableEq ref] in
theorem FramedFrom.tail {message : Bytes} {messages : List Bytes}
    (hframed : FramedFrom config n (message :: messages)) :
    FramedFrom config (n + 1) messages := by
  intro k message' hk
  rw [Nat.add_assoc, Nat.add_comm 1 k]
  exact hframed (k + 1) message' hk

omit [DecidableEq ref] in
theorem FramedFrom.left {messages more : List Bytes}
    (hframed : FramedFrom config n (messages ++ more)) :
    FramedFrom config n messages := by
  intro k message hk
  apply hframed k
  rw [List.getElem?_append_left (List.getElem?_eq_some_iff.mp hk).1]
  exact hk

omit [DecidableEq ref] in
theorem FramedFrom.right {messages more : List Bytes}
    (hframed : FramedFrom config n (messages ++ more)) :
    FramedFrom config (n + messages.length) more := by
  intro k message hk
  rw [Nat.add_assoc]
  apply hframed
  rw [List.getElem?_append_right (Nat.le_add_right _ _),
    Nat.add_sub_cancel_left]
  exact hk

/-- The chunks of a payload that a write was accepted for are stored one behind
the other, and the last of them is answered. -/
theorem Attended.payload (chunks : List Bytes)
    (hr : Attended images config h r n sayings)
    (hconfig : config.Acceptable) {p : PendingWrite ref}
    (hpending : r.2.pendingWrite = some p)
    (hchunks : forall chunk, chunk ∈ chunks ->
      chunk ≠ [] ∧ chunk.length < 2 ^ 16)
    (hall : p.received + chunks.flatten.length = p.expectedLength)
    (hframed : FramedFrom config n (framed n (chunks.map dataParcel))) :
    exists r', Passes r (framed n (chunks.map dataParcel)) r' ∧
      Attended images config h r' (n + chunks.length)
        (sayings ++ [.status false 0x00 p.device.code 0x00 0x00]) ∧
      r'.2.pendingWrite = none ∧
      Wrote r.2 r'.2 p.image (p.byteOffset + p.received) chunks.flatten := by
  induction chunks generalizing r n p with
  | nil =>
      have hmissing := (hr.attending.standing.pending p hpending).missing
      rw [List.flatten_nil, List.length_nil] at hall
      lia
  | cons chunk chunks ih =>
      rw [List.map_cons, framed_data] at hframed ⊢
      rw [List.flatten_cons, List.length_append] at hall
      rcases hchunks chunk List.mem_cons_self with ⟨_, hsmall⟩
      have hstanding := hr.attending.standing
      have hfile : p.byteOffset + p.expectedLength ≤
          (r.2.images p.image).file.length := by
        rw [hstanding.sized]
        exact (hstanding.pending p hpending).inside
      rcases takes_chunk hstanding hpending hsmall (by lia) n with
        ⟨s', hrun, ⟨hmore, hthen, htakes⟩ | ⟨hlast, hthen, htakes⟩⟩
      · rcases hr.step hconfig hframed.head hrun htakes.answers
          (by rw [htakes.stopped, htakes.featureToggleOk]; exact hr.live) with
          ⟨hproceed, hnext⟩
        rw [List.append_nil] at hnext
        rcases ih hnext hthen
          (fun other hmem => hchunks other (List.mem_cons_of_mem _ hmem))
          (by simp only; lia) hframed.tail with
          ⟨r', hpasses, hattended, hnone, hwrote⟩
        refine ⟨r', Passes.cons hr.live hproceed hpasses, ?_, hnone, ?_⟩
        · rw [List.length_cons, Nat.add_comm chunks.length 1,
            ← Nat.add_assoc]
          exact hattended
        · rw [List.flatten_cons]
          apply htakes.wrote.trans _ (by lia)
          rw [Nat.add_assoc]
          exact hwrote
      · have hnil : chunks = [] := by
          cases chunks with
          | nil => rfl
          | cons second chunks =>
              have hsecond := List.length_pos_iff.mpr
                (hchunks second (by simp)).1
              rw [List.flatten_cons, List.length_append] at hall
              lia
        subst hnil
        rcases hr.step hconfig hframed.head hrun htakes.answers
          (by rw [htakes.stopped, htakes.featureToggleOk]; exact hr.live) with
          ⟨hproceed, hnext⟩
        refine ⟨_, Passes.cons hr.live hproceed (Passes.nil hnext.live),
          hnext, hthen, ?_⟩
        rw [List.flatten_cons, List.flatten_nil, List.append_nil]
        exact htakes.wrote

end Messages

end IderServer
end IntelAmt
