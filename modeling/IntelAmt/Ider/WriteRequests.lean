import IntelAmt.Ider.ReadFrames
import IntelAmt.Ider.WritePath

/-!
# The length that a write asks for

The frame that asks for the payload of a write carries its length in two
fields of two bytes; the engine waits for the length of the command.
-/

namespace IntelAmt
namespace Ider

open Foundation

variable {ref : Type} [DecidableEq ref]

/-- The byte counts of a GET_DATA_FROM_HOST frame. -/
def requestedLengths (frame : Bytes) : Nat × Nat :=
  (leNat (slice (framePayload frame) 1 2),
    leNat (slice (framePayload frame) 8 2))

/-- The delivery sends one frame, which asks for as many bytes as the write
then waits for. -/
def AsksForAll (d : Delivery ref) : Prop :=
  exists frame p, d.after.trace = d.before.trace ++ [Effect.sent frame] ∧
    frameCmdid frame = cmdGetDataFromHost ∧
    d.after.pendingWrite = some p ∧
    requestedLengths frame = (p.expectedLength, p.expectedLength)

theorem requestedLengths_frame (device : UInt8) (chunk seq : Nat) :
    requestedLengths ((getDataFromHost device chunk).frame seq) =
      (chunk % 2 ^ 16, chunk % 2 ^ 16) := by
  rw [requestedLengths, framePayload_frame]
  have hpair : leNat
      [UInt8.ofNat (chunk % 256), UInt8.ofNat (chunk / 256 % 256)] =
        chunk % 256 ^ 2 := leNat_packLE 2 chunk
  exact Prod.ext hpair hpair

theorem AcceptsWrite.asks {d : Delivery ref} {i : ref} {lba length : Nat}
    (h : AcceptsWrite d i lba length) :
    d.after.trace = d.before.trace ++ [Effect.sent
        ((getDataFromHost DeviceCode.floppy.code (512 * length)).frame
          d.before.outSeq)] ∧
      d.after.pendingWrite =
        some (writeRecord DeviceCode.floppy i lba length) := by
  rw [h.granted]
  exact ⟨rfl, rfl⟩

theorem AcceptsWrite.asksForAll_iff {d : Delivery ref} {i : ref}
    {lba length : Nat} (h : AcceptsWrite d i lba length) :
    AsksForAll d ↔ 512 * length % 2 ^ 16 = 512 * length := by
  rcases h.asks with ⟨hsent, hpending⟩
  constructor
  · intro hall
    rcases hall with ⟨frame, p, htrace, _, hp, hlengths⟩
    rw [hsent] at htrace
    cases List.append_cancel_left htrace
    rw [hpending] at hp
    cases hp
    rw [requestedLengths_frame] at hlengths
    exact congrArg Prod.fst hlengths
  · intro hfits
    refine ⟨_, _, hsent, rfl, hpending, ?_⟩
    rw [requestedLengths_frame, hfits]
    rfl

/-- The request for the payload of a write tells the length that the engine
waits for exactly up to 127 sectors. -/
theorem write_request_iff {d : Delivery ref} {i : ref} {lba length : Nat}
    (h : OrdersWrite d i lba length) (hwhole : Whole d.message) :
    AsksForAll d ↔ length ≤ 127 := by
  rw [(h.accepted hwhole).asksForAll_iff]
  constructor
  · intro hfits
    lia
  · intro hsmall
    apply Nat.mod_eq_of_lt
    lia

theorem write_request_127 :
    let image :=
      MediaImage.blank ["boot.img"] DeviceCode.floppy 128 true nofun
    let start : IderEngine Unit :=
      newEngine .onReboot 30000 0 20000 fun _ => image
    let e := ((runCall (Call.attach ())).run start).2
    let d : Delivery Unit := ((e.inSeq, e.state),
      commandMessage 0 0x00 0xA0 (extentCdb opWrite10 0 127))
    AsksForAll d := by
  intro image start e d
  have horders : OrdersWrite d () 0 127 :=
    ⟨rfl, rfl, by decide, rfl, by decide, by decide, rfl⟩
  exact (write_request_iff horders rfl).mpr (Nat.le_refl 127)

/-- The WRITE(10) of all 128 sectors asks for no bytes at all. -/
theorem write_request_128 :
    let image :=
      MediaImage.blank ["boot.img"] DeviceCode.floppy 128 true nofun
    let start : IderEngine Unit :=
      newEngine .onReboot 30000 0 20000 fun _ => image
    let e := ((runCall (Call.attach ())).run start).2
    let d : Delivery Unit := ((e.inSeq, e.state),
      commandMessage 0 0x00 0xA0 (extentCdb opWrite10 0 128))
    AcceptsWrite d () 0 128 ∧ ¬ AsksForAll d := by
  intro image start e d
  have horders : OrdersWrite d () 0 128 :=
    ⟨rfl, rfl, by decide, rfl, by decide, by decide, rfl⟩
  have haccepted := horders.accepted rfl
  refine ⟨haccepted, ?_⟩
  rw [haccepted.asksForAll_iff]
  decide

end Ider
end IntelAmt
