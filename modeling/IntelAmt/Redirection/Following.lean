import IntelAmt.Redirection.Wire

/-!
# The session follows the talk

One step after the other: however the bytes of the peer are cut into chunks,
the session does what the talk does with all of them.
-/

namespace IntelAmt
namespace Redirection

open Foundation

variable {alpha : Type}
variable {hashes : Hashes} {session : RedirectionSession}
variable {cnonce : List Char} {buffer : Bytes}

theorem follows_ofExcept (result : Except Failure alpha) :
    (wire cnonce).Follows Classified (ofExcept result) (told result)
      buffer := by
  cases result with
  | ok a => exact Channel.follows_returned rfl fun _ => rfl
  | error e => exact Channel.follows_raised rfl fun _ => rfl

theorem follows_raiseAmt (error : AmtError) :
    (wire cnonce).Follows Classified (raiseAmt error : SessionM alpha)
      (fails error) buffer :=
  Channel.follows_raised rfl fun _ => rfl

theorem follows_pure (a : alpha) :
    (wire cnonce).Follows Classified (pure a : SessionM alpha)
      (pure a : WireTalk alpha) buffer :=
  Channel.follows_returned rfl fun _ => rfl

theorem follows_send (frame : Bytes) :
    (wire cnonce).Follows Classified (send session frame)
      (Talk.say (Event.frame frame) ()) buffer := by
  apply Channel.follows_say rfl rfl
  intro sending _
  cases sending with
  | sent => exact Or.inl ⟨rfl, rfl⟩
  | timeout => exact Or.inr ⟨_, rfl, rfl, _, rfl⟩
  | failed reason => exact Or.inr ⟨_, rfl, rfl, _, rfl⟩

theorem follows_draw (size : Nat) :
    (wire cnonce).Follows Classified
      (Buffered.lift (Script.ask (SocketOp.tokenHex size)))
      (Talk.say Event.draw cnonce) buffer := by
  apply Channel.follows_say rfl rfl
  intro drawn hdrawn
  change drawn = cnonce at hdrawn
  rw [hdrawn]
  exact Or.inl ⟨rfl, rfl⟩

/-!
## Filling the buffer
-/

theorem receive_cases (session : RedirectionSession) (size : Nat)
    (receiving : Receiving) :
    (exists chunk, chunk ≠ [] ∧
      receive session receiving = Except.ok chunk ∧
      note ⟨SocketOp.recv size, receiving⟩ = Note.received chunk) ∨
    exists error, receive session receiving = Except.error error ∧
      note ⟨SocketOp.recv size, receiving⟩ = Note.fault none := by
  cases receiving with
  | timeout => exact Or.inr ⟨_, rfl, rfl⟩
  | failed reason => exact Or.inr ⟨_, rfl, rfl⟩
  | data chunk =>
      cases chunk with
      | nil => exact Or.inr ⟨_, rfl, rfl⟩
      | cons b chunk => exact Or.inl ⟨_, List.cons_ne_nil _ _, rfl, rfl⟩

theorem fillUpTo_call {minBytes rounds : Nat} {buffer : Bytes}
    (hroom : ¬ minBytes ≤ buffer.length) :
    exists next,
      fillUpTo session minBytes (rounds + 1) buffer =
          Script.call (SocketOp.recv recvChunk) next ∧
        forall receiving,
          (forall chunk, receive session receiving = Except.ok chunk ->
            next receiving =
              fillUpTo session minBytes rounds (buffer ++ chunk)) ∧
          forall error, receive session receiving = Except.error error ->
            next receiving = Script.raised (Failure.amt error) := by
  rw [fillUpTo, if_neg hroom]
  refine ⟨_, rfl, fun receiving => ?_⟩
  constructor
  · intro chunk h
    rw [h]
  · intro error h
    rw [h]

theorem fillUpTo_gathers (minBytes rounds : Nat) (buffer : Bytes)
    (hrounds : minBytes ≤ buffer.length + rounds) :
    (wire cnonce).Gathers Classified (fillUpTo session minBytes rounds)
      minBytes buffer := by
  induction rounds generalizing buffer with
  | zero =>
      refine Channel.gathers_enough ?_ hrounds
      rw [fillUpTo]
      exact if_pos hrounds
  | succ rounds ih =>
      by_cases henough : minBytes ≤ buffer.length
      · refine Channel.gathers_enough ?_ henough
        rw [fillUpTo]
        exact if_pos henough
      · rcases fillUpTo_call henough with ⟨next, hcall, hnext⟩
        apply Channel.gathers_receive hcall (Nat.lt_of_not_le henough)
        intro receiving
        rcases receive_cases session recvChunk receiving with
          ⟨chunk, hchunk, hreceive, hnote⟩ | ⟨error, hreceive, hnote⟩
        · have hlength : 0 < chunk.length := List.length_pos_iff.mpr hchunk
          have hmore : minBytes ≤ (buffer ++ chunk).length + rounds := by
            rw [List.length_append]
            lia
          exact Or.inl ⟨chunk, _, hnote, (hnext receiving).1 chunk hreceive,
            ih _ hmore⟩
        · exact Or.inr ⟨Failure.amt error, hnote,
            (hnext receiving).2 error hreceive, error, rfl⟩

theorem fill_gathers (minBytes : Nat) (buffer : Bytes) :
    (wire cnonce).Gathers Classified (fill session minBytes) minBytes
      buffer := by
  have hrounds : minBytes ≤ buffer.length + (minBytes - buffer.length) := by
    lia
  exact fillUpTo_gathers minBytes _ buffer hrounds

/-!
## Reading the replies
-/

theorem readStartSessionReply_follows (buffer : Bytes) :
    (wire cnonce).Follows Classified (readStartSessionReply session)
      (Wire.startReply session) buffer := by
  apply Channel.follows_gather (fill_gathers 13 buffer)
  · exact fun more hshort => Wire.startReply_short hshort
  · intro more hheader
    generalize buffer ++ more = filled at hheader
    have hlength : forall more, 13 ≤ (filled ++ more).length := by
      intro more
      rw [List.length_append]
      lia
    have hbyte : forall k more, k < 13 ->
        (filled ++ more).getD k 0 = filled.getD k 0 :=
      fun k more hk => getD_append_left (by lia)
    by_cases hleading : filled.getD 0 0 = 0x11
    · by_cases hstatus : filled.getD 1 0 = 0
      · have htalk : forall more,
            Wire.startReply session (filled ++ more) =
              if (filled ++ more).length < 13 + (filled.getD 12 0).toNat then
                ([], Outcome.starved)
              else
                ([], Outcome.done ()
                  ((filled ++ more).drop (13 + (filled.getD 12 0).toNat))) := by
          intro more
          rw [Wire.startReply_accepted (hlength more)
            (by rw [hbyte 0 more (by lia), hleading])
            (by rw [hbyte 1 more (by lia), hstatus]), hbyte 12 more (by lia)]
        have hrest : (wire cnonce).Follows Classified
            (fill session (13 + (filled.getD 12 0).toNat) >>= fun _ =>
              consume (13 + (filled.getD 12 0).toNat))
            (Wire.startReply session) filled := by
          apply Channel.follows_gather (fill_gathers _ filled)
          · intro more hshort
            rw [htalk, if_pos hshort]
          · intro more hlong
            apply Channel.follows_returned rfl
            intro later
            rw [List.append_assoc, htalk, if_neg
              (by simp only [List.length_append] at hlong ⊢; lia),
              ← List.append_assoc, List.drop_append_of_le_length hlong]
        apply Channel.follows_congr hrest
        change (ite _ _ (ite _ _ _) : SessionM Unit) filled = _
        rw [if_neg (not_not_intro hleading), if_neg (not_not_intro hstatus)]
      · apply Channel.follows_raised
        · change (ite _ _ (ite _ _ _) : SessionM Unit) filled = _
          rw [if_neg (not_not_intro hleading), if_pos hstatus]
          rfl
        · intro more
          rw [Wire.startReply_rejected (hlength more)
            (by rw [hbyte 0 more (by lia), hleading])
            (by rw [hbyte 1 more (by lia)]; exact hstatus),
            hbyte 1 more (by lia)]
    · apply Channel.follows_raised
      · change (ite _ _ _ : SessionM Unit) filled = _
        rw [if_pos hleading]
        rfl
      · intro more
        rw [Wire.startReply_wrong (hlength more)
          (by rw [hbyte 0 more (by lia)]; exact hleading),
          hbyte 0 more (by lia)]

theorem readAuthReply_follows (buffer : Bytes) :
    (wire cnonce).Follows Classified (readAuthReply session)
      (Wire.authReply session) buffer := by
  apply Channel.follows_gather (fill_gathers 9 buffer)
  · exact fun more hshort => Wire.authReply_short hshort
  · intro more hheader
    generalize buffer ++ more = filled at hheader
    have hlength : forall more, 9 ≤ (filled ++ more).length := by
      intro more
      rw [List.length_append]
      lia
    have hbyte : forall k more, k < 9 ->
        (filled ++ more).getD k 0 = filled.getD k 0 :=
      fun k more hk => getD_append_left (by lia)
    by_cases hleading : filled.getD 0 0 = 0x14
    · generalize htotal : 9 + leNat (slice filled 5 4) = total
      have htalk : forall more,
          Wire.authReply session (filled ++ more) =
            if (filled ++ more).length < total then ([], Outcome.starved)
            else
              ([], Outcome.done
                { status := filled.getD 1 0
                  authType := filled.getD 4 0
                  authData := slice (filled ++ more) 9 (total - 9) }
                ((filled ++ more).drop total)) := by
        intro more
        have hdata : total - 9 = leNat (slice filled 5 4) := by lia
        rw [Wire.authReply_accepted (hlength more)
          (by rw [hbyte 0 more (by lia), hleading]),
          slice_append_left (by lia), htotal, hbyte 1 more (by lia),
          hbyte 4 more (by lia), hdata]
      have hrest : (wire cnonce).Follows Classified
          (fill session total >>= fun _ => do
            let whole ← buffered
            consume total
            pure
              { status := filled.getD 1 0
                authType := filled.getD 4 0
                authData := slice whole 9 (total - 9) })
          (Wire.authReply session) filled := by
        apply Channel.follows_gather (fill_gathers _ filled)
        · intro more hshort
          rw [htalk, if_pos hshort]
        · intro more hlong
          apply Channel.follows_returned rfl
          intro later
          have hmore : ¬ (filled ++ (more ++ later)).length < total := by
            simp only [List.length_append] at hlong ⊢
            lia
          rw [List.append_assoc, htalk, if_neg hmore, ← List.append_assoc,
            List.drop_append_of_le_length hlong, slice_append_left (by lia)]
      apply Channel.follows_congr hrest
      change (ite _ _ _ : SessionM AuthReply) filled = _
      rw [if_neg (not_not_intro hleading), htotal]
    · apply Channel.follows_raised
      · change (ite _ _ _ : SessionM AuthReply) filled = _
        rw [if_pos hleading]
        rfl
      · intro more
        rw [Wire.authReply_wrong (hlength more)
          (by rw [hbyte 0 more (by lia)]; exact hleading),
          hbyte 0 more (by lia)]

/-!
## The handshake
-/

theorem decidingReply_follows (first : AuthReply) (buffer : Bytes) :
    (wire cnonce).Follows Classified (decidingReply session first)
      (Wire.decidingReply session first) buffer := by
  unfold decidingReply Wire.decidingReply
  split
  · split
    · exact follows_raiseAmt _
    · apply Channel.follows_bind (follows_ofExcept _)
      intro query buffer
      apply Channel.follows_bind (follows_send query)
      exact fun _ buffer => readAuthReply_follows buffer
  · exact follows_pure first

theorem answerChallenge_follows (authData buffer : Bytes) :
    (wire cnonce).Follows Classified (answerChallenge hashes session authData)
      (Wire.answerChallenge hashes session cnonce authData) buffer := by
  apply Channel.follows_bind (follows_ofExcept _)
  intro challenge buffer
  apply Channel.follows_bind
  · apply Channel.follows_bind (follows_draw 16)
    exact fun drawn buffer => follows_ofExcept _
  · intro response buffer
    apply Channel.follows_bind (follows_send response)
    exact fun _ buffer => readAuthReply_follows buffer

theorem settleReply_follows (reply : AuthReply) (buffer : Bytes) :
    (wire cnonce).Follows Classified (settleReply hashes session reply)
      (Wire.settleReply hashes session cnonce reply) buffer := by
  unfold settleReply Wire.settleReply
  split
  · exact follows_raiseAmt _
  · split
    · exact answerChallenge_follows _ buffer
    · exact follows_pure reply

theorem handshake_follows (buffer : Bytes) :
    (wire cnonce).Follows Classified (handshake hashes session)
      (Wire.handshake hashes session cnonce) buffer := by
  unfold Wire.handshake Wire.decision
  simp only [Talk.bind_assoc]
  apply Channel.follows_bind (follows_send _)
  intro _ buffer
  apply Channel.follows_bind (readStartSessionReply_follows buffer)
  intro _ buffer
  apply Channel.follows_bind (follows_send _)
  intro _ buffer
  apply Channel.follows_bind (readAuthReply_follows buffer)
  intro first buffer
  apply Channel.follows_bind (decidingReply_follows first buffer)
  intro reply buffer
  apply Channel.follows_bind (settleReply_follows reply buffer)
  intro last buffer
  split
  · exact follows_raiseAmt _
  · exact follows_pure ()

end Redirection
end IntelAmt
