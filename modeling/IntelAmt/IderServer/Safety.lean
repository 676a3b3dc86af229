import IntelAmt.IderServer.Talk

/-!
# No message lost, none made up

What a talk keeps, whatever is said and however it is cut and delivered: the
engine has processed the first of the messages that the server has sent, and
the server has heard the first of what the engine has said.
-/

namespace IntelAmt
namespace IderServer

open Foundation Ider

variable {ref : Type} [DecidableEq ref] {images : ref -> MediaImage}

/-- What a server that nobody drives makes of some bytes. -/
def heardBy (config : ServerConfig) (bytes : Bytes) :
    ExactRead UInt8 IderMockServer :=
  reader.receive { state := { config := config } } bytes

theorem heardBy_append (config : ServerConfig) (bytes more : Bytes) :
    heardBy config (bytes ++ more) =
      reader.receive (heardBy config bytes) more :=
  reader.receive_append _ _ _

structure Talking (config : ServerConfig) (r : Receiver ref)
    (t : Talk images) : Prop where
  speaks : exists astray, Speaks config astray t.right.state
  heard : t.right.state.outSeq < 2 ^ 32 -> exists more,
    Mirrors more t.right.state (heardBy config t.rightHeard).state ∧
      t.right.collected = (heardBy config t.rightHeard).collected
  follows : exists taken,
    Follows r t.left t.leftHeard t.right.state.sent taken

theorem receive_speaks {config : ServerConfig} {astray : Nat}
    {r : ExactRead UInt8 IderMockServer} (h : Speaks config astray r.state)
    (bytes : Bytes) : Speaks config astray (reader.receive r bytes).state :=
  reader.receive_keeps (P := Speaks config astray)
    (fun _ data hs => takeBytes_speaks data hs) r bytes h

theorem talking_kept {config : ServerConfig} (hconfig : config.Acceptable)
    {h : HandlerState ref} {r : Receiver ref}
    (hr : Attending images config h r 0) :
    (talk images).Kept fun _ t => Talking config r t where
  toLeft := by
    intro past t chunk later hlinked ht hchunk
    refine ⟨ht.speaks, ht.heard, ?_⟩
    rcases ht.speaks with ⟨astray, hspeaks⟩
    rcases ht.follows with ⟨taken, hfollows⟩
    have hall := hlinked.toLeft
    rw [hchunk] at hall
    exact hfollows.hear hconfig hr hspeaks hall
  toRight := by
    intro past t chunk later _ ht _
    have honward := receive_onward t.right chunk
    rcases ht.speaks with ⟨astray, hspeaks⟩
    refine ⟨⟨astray, receive_speaks hspeaks chunk⟩, ?_, ?_⟩
    · intro hfew
      rcases ht.heard (Nat.lt_of_le_of_lt honward.outSeq hfew) with
        ⟨more, hmirrors, hcollected⟩
      rw [heardBy_append]
      exact ⟨more, receive_mirrors chunk hmirrors hcollected hfew⟩
    · rcases ht.follows with ⟨taken, hfollows⟩
      exact ⟨taken, hfollows.more honward.sent⟩
  act := by
    intro past t a _ ht
    rcases driven_sent a t.right with
      ⟨⟨honward, more, hmirrors⟩, hcollected⟩
    rcases ht.speaks with ⟨astray, hspeaks⟩
    refine ⟨driven_speaks a hspeaks, ?_, ?_⟩
    · intro hfew
      rcases ht.heard (Nat.lt_of_le_of_lt honward.outSeq hfew) with
        ⟨more', hheard, hsame⟩
      exact ⟨_, hmirrors.trans hheard, hcollected.trans hsame⟩
    · rcases ht.follows with ⟨taken, hfollows⟩
      exact ⟨taken, hfollows.more honward.sent⟩

/-- Nothing is on its way. -/
def Settled (t : Talk images) : Prop :=
  (talk images).toLeft t = [] ∧ (talk images).toRight t = []

instance (t : Talk images) : Decidable (Settled t) :=
  inferInstanceAs (Decidable (_ ∧ _))

section Runs

variable (hfresh : forall i, (images i).Fresh) (startMode : StartMode)
variable (attached : List ref) {config : ServerConfig}

theorem start_talking :
    (talk images).Linked (Talk.start hfresh startMode attached config) ∧
      Talking config (Client.start hfresh startMode attached).receiver
        (Talk.start hfresh startMode attached config) := by
  refine ⟨⟨List.nil_prefix, List.nil_prefix⟩, ⟨0, fresh_speaks config⟩, ?_, [],
    ?_⟩
  · exact fun _ => ⟨0, Mirrors.refl _, rfl⟩
  · refine ⟨List.nil_prefix, rfl, ?_, Or.inl ⟨rfl, ?_⟩⟩
    · intro _
      rcases @runCalls_opening _ _ images startMode attached with
        ⟨devices, hopened⟩
      have hbuf : (Client.start hfresh startMode attached).engine.buf =
          [] := by
        show (runCalls _ _).buf = []
        rw [hopened]
        rfl
      show [] = [] ++ (Client.start hfresh startMode attached).engine.buf ∧
        iderFramer.next
          (Client.start hfresh startMode attached).engine.buf = _
      rw [hbuf]
      exact ⟨rfl, rfl⟩
    · intro e he
      cases he

theorem run_talking (hconfig : config.Acceptable)
    (moves : List (Move Drive)) :
    let t := (talk images).run (Talk.start hfresh startMode attached config)
      moves
    (talk images).Linked t ∧
      Talking config (Client.start hfresh startMode attached).receiver t := by
  intro t
  rcases @start_talking _ _ _ hfresh startMode attached config with
    ⟨hlinked, htalking⟩
  have hkept := talking_kept hconfig
    (start_attending hfresh startMode attached config)
  exact @Duplex.run_keeps _ _ _ _ _ _ hkept moves [] _ hlinked htalking

omit [DecidableEq ref] in
theorem Spoken.heard {config : ServerConfig} (hfits : config.Fits)
    {h : HandlerState ref} {frames : List Bytes} {sayings : List Saying}
    (hspoken : Spoken h frames sayings) (hfew : frames.length ≤ 2 ^ 32)
    {bytes later : Bytes} (hbytes : bytes ++ later = frames.flatten) :
    let s := (heardBy config bytes).state
    s.events <+: sayings.flatMap Saying.heard ∧ s.handshakeError = none ∧
      (later = [] -> s.events = sayings.flatMap Saying.heard) := by
  intro s
  cases hspoken with
  | opening =>
      have hone : bytes ++ later = (openSession h).frame 0 := by
        rw [hbytes]
        simp [numbered]
      rcases heard_openSession hfits h hone with ⟨hevents, herror, _⟩
      exact ⟨hevents ▸ List.nil_prefix, herror, fun _ => hevents⟩
  | session _ hsayings =>
      rw [numbered_length, spoken, List.length_cons, List.length_cons,
        List.length_map] at hfew
      rcases heard_spoken hfits h hfew hsayings hbytes with
        ⟨hevents, herror, hall⟩
      exact ⟨hevents, herror, fun hlater => (hall hlater).1⟩

theorem Follows.spoken {h : HandlerState ref} {r : Receiver ref}
    (hconfig : config.Acceptable) (hr : Attending images config h r 0)
    {astray : Nat} {s : IderMockServer} (hs : Speaks config astray s)
    {c : Client images} {bytes : Bytes} {taken : List Bytes}
    (hc : Follows r c bytes s.sent taken) :
    exists sayings, Spoken h (sentFrames c.engine.state.trace) sayings := by
  rcases hc.ahead hconfig hr hs with ⟨_, _, _, hattending, _⟩
  have hsame : sentFrames c.engine.state.trace =
      sentFrames (servedBy iderConsumer r taken).2.trace := by
    show sentFrames c.receiver.2.trace = _
    rcases hc.state with hgoes | htorn
    · rw [hgoes.1]
    · rw [htorn.halted]
      rfl
  rw [hsame]
  exact hattending.frames

/-- Whatever the driving interface does, and however the two streams are cut
and delivered: the engine has processed the first of the messages that the
server has sent up to the first that skips ahead, in order and none of them
twice, and has raised nothing but for an image whose last block has no number,
or for that first one, in front of which it has processed every message; the
handshake does not fail; and the server has heard nothing but the first of
what the engine has said, no violation and no unknown frame among it.  When
nothing is on its way, it has heard all of it, and an engine whose loop goes
on has processed every message up to the first that skips ahead, which is then
not whole. -/
theorem talk_safe (hconfig : config.Acceptable) (moves : List (Move Drive)) :
    let t := (talk images).run (Talk.start hfresh startMode attached config)
      moves
    let frames := sentFrames t.left.engine.state.trace
    let sent := t.right.state.sent
    frames.length ≤ 2 ^ 32 -> t.right.state.outSeq < 2 ^ 32 ->
      t.left.past.map Delivery.message <+: inOrder 0 sent ∧
      (forall e, t.left.raised = some e ->
        (e = PyError.struct ∧ exists i, ¬ Countable (images i)) ∨
          (exists violation, e = PyError.protocol violation) ∧
            inOrder 0 sent ≠ sent ∧
            t.left.past.map Delivery.message = inOrder 0 sent) ∧
      t.right.state.handshakeError = none ∧
      exists sayings,
        Spoken (defaultEngine startMode images).state frames sayings ∧
          t.right.state.events <+: sayings.flatMap Saying.heard ∧
          (Settled t ->
            t.right.state.events = sayings.flatMap Saying.heard ∧
              (t.left.serving = true ->
                t.left.past.map Delivery.message = inOrder 0 sent ∧
                  forall frame rest, sent = inOrder 0 sent ++ frame :: rest ->
                    ¬ Whole frame)) := by
  intro t frames sent hfew hnumbers
  rcases run_talking hfresh startMode attached hconfig moves with
    ⟨hlinked, htalking⟩
  rcases htalking.speaks with ⟨astray, hspeaks⟩
  rcases htalking.follows with ⟨taken, hfollows⟩
  have hpast : t.left.past.map Delivery.message = taken := by
    rw [hfollows.past]
    exact metBy_messages _ _ _
  have hstart := start_attending hfresh startMode attached config
  rcases hfollows.spoken hconfig hstart hspeaks with ⟨sayings, hspoken⟩
  rcases htalking.heard hnumbers with ⟨_, hmirrors, _⟩
  rcases hspoken.heard hconfig.fits hfew hlinked.toRight with
    ⟨hevents, herror, hall⟩
  rw [← hmirrors.events] at hevents hall
  rw [hpast]
  refine ⟨hfollows.first, ?_, hmirrors.handshakeError.trans herror, sayings,
    hspoken, hevents, ?_⟩
  · intro e he
    rcases hfollows.state with ⟨_, hraises⟩ | htorn
    · rcases hraises e he with ⟨d, r', hmem, hfail⟩
      rcases hfollows.first with ⟨left, hleft⟩
      refine Or.inl (ahead_fails hconfig taken left
        ⟨0, hstart, Nat.zero_add _, ?_⟩ hmem hfail)
      intro k message hk
      rw [Nat.zero_add]
      rw [hleft] at hk
      exact hspeaks.frames k message hk
    · rcases htorn.raised with ⟨violation, hraised⟩
      rw [hraised] at he
      cases he
      exact Or.inr ⟨⟨violation, rfl⟩, htorn.astray, htorn.all⟩
  · intro hsettled
    refine ⟨hall hsettled.2, ?_⟩
    intro hserving
    have hleft := hlinked.toLeft
    rw [hsettled.1, List.append_nil] at hleft
    rw [hleft] at hfollows
    exact hfollows.all hspeaks hserving

end Runs

theorem defaultConfig_acceptable : ServerConfig.Acceptable {} where
  valid := by decide
  bounded := by decide
  status := by
    intro status hstatus
    cases hstatus
    decide

/-- A session is opened, TEST UNIT READY finds the medium changed, and a
keepalive skips ahead. -/
def aheadMoves : List (Move Drive) :=
  [.toRight 18, .toLeft 20, .toLeft 10, .toRight 13, .toLeft 13,
    .act (.issueScsi (List.replicate 12 0x00) 0xA0 0x00),
    .act (.sendBadSequenceFrame 0x44 []), .act (.injectResetOccurred 0x00),
    .toLeft 30, .toRight 31, .toLeft 15]

set_option maxRecDepth 4096 in
theorem talk_safe_ahead :
    let t := (talk fun _ : Unit =>
        MediaImage.blank ["boot.img"] DeviceCode.floppy 2 true nofun).run
      (Talk.start (fun _ => MediaImage.blank_fresh ..) .onReboot [()] {})
      aheadMoves
    t.right.state.handshakeError = none ∧ t.left.serving = false ∧
      t.right.state.sent.length = 5 ∧
      t.left.past.map Delivery.message = t.right.state.sent.take 3 := by
  intro t
  have hsafe := talk_safe
    (fun _ : Unit => MediaImage.blank_fresh ["boot.img"] DeviceCode.floppy 2
      true nofun) .onReboot [()] defaultConfig_acceptable aheadMoves
    (by decide) (by decide)
  have hraised : t.left.raised =
      some (PyError.protocol (.sequenceMismatch 3 1002)) := by decide
  refine ⟨hsafe.2.2.1, by decide, by decide, ?_⟩
  rcases hsafe.2.1 _ hraised with ⟨hstruct, _⟩ | ⟨_, _, hpast⟩
  · cases hstruct
  · exact hpast.trans (by decide)

end IderServer
end IntelAmt
