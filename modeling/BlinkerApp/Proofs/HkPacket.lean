import BlinkerApp.Model.Telemetry
import BlinkerApp.Proofs.Housekeeping

/-!
# Two readings of the housekeeping packet

A receiver that shares the C struct with the app reads back what the app stored. The data
sheet has the counters in the other order and one byte wide, so that a reader who follows it
never sees the command counter, and on a little-endian machine sees the error counter in its
place.
-/

namespace BlinkerApp

open Traced CLayout CType

variable {p : Platform} {N : Nat}

/-! ## By the C struct -/

/-- The fields are those of the struct. -/
theorem HkTlmPayload.types (order : ByteOrder) (payload : HkTlmPayload N) :
    (payload.fields order).map Field.type = hkTlmPayloadFields N := by
  simp [HkTlmPayload.fields, Field.int, Field.array, hkTlmPayloadFields]

/-- A receiver with the same struct and byte order reads every field back. -/
theorem HkTlmPayload.read_back (order : ByteOrder) (memory : Nat → UInt8)
    (payload : HkTlmPayload N) :
    let loadAt (i shift width : Nat) := load order (payload.bytes order memory)
      (offsetof ((payload.fields order).map Field.type) i + shift) width
    loadAt 0 0 2 = payload.commandErrorCounter.toNat ∧
    loadAt 1 0 2 = payload.commandCounter.toNat ∧
    ∀ k : Fin N, loadAt 2 k 1 = (payload.blinkerStatus.get k).toNat ∧
      loadAt 3 (4 * k) 4 = (payload.blinkerCount.get k).toNat := by
  intro loadAt
  have errField : (payload.fields order)[0]? =
    some (.int order uint16 payload.commandErrorCounter.toNat) := rfl
  have cmdField : (payload.fields order)[1]? =
    some (.int order uint16 payload.commandCounter.toNat) := rfl
  have statusField : (payload.fields order)[2]? =
    some (.array order uint8 (payload.blinkerStatus.toList.map UInt8.toNat)) := rfl
  have countField : (payload.fields order)[3]? =
    some (.array order uint32 (payload.blinkerCount.toList.map UInt32.toNat)) := rfl
  refine ⟨?_, ?_, fun k => ⟨?_, ?_⟩⟩
  · exact (load_int_field memory 0 errField).trans (Nat.mod_eq_of_lt (UInt16.toNat_lt _))
  · exact (load_int_field memory 1 cmdField).trans (Nat.mod_eq_of_lt (UInt16.toNat_lt _))
  · have element : (payload.blinkerStatus.toList.map UInt8.toNat)[k.val]? =
        some (payload.blinkerStatus.get k).toNat := by
      simp [Vector.get]
    have loaded := load_array_field memory 2 k statusField element
    show load order _ (_ + k) 1 = _
    rw [show uint8.size = 1 from rfl, Nat.one_mul] at loaded
    exact loaded.trans (Nat.mod_eq_of_lt (UInt8.toNat_lt _))
  · have element : (payload.blinkerCount.toList.map UInt32.toNat)[k.val]? =
        some (payload.blinkerCount.get k).toNat := by
      simp [Vector.get]
    exact (load_array_field memory 3 k countField element).trans
      (Nat.mod_eq_of_lt (UInt32.toNat_lt _))

/-! ## By the data sheet -/

/-- The first two bytes of the payload hold the error counter. -/
theorem HkTlmPayload.firstBytes (order : ByteOrder) (memory : Nat → UInt8)
    (payload : HkTlmPayload N) (errCounter : UInt8)
    (shows : payload.commandErrorCounter = errCounter.toUInt16) :
    payload.bytes order memory 0 = (match order with | .little => errCounter | .big => 0) ∧
    payload.bytes order memory 1 = (match order with | .little => 0 | .big => errCounter) := by
  have stored : Holds (payload.bytes order memory) 0 (bytesOf order 2 errCounter.toNat) := by
    have first : (payload.fields order)[0]? = some (.int order uint16 errCounter.toNat) := by
      simp [HkTlmPayload.fields, shows]
    have start : offsetof ((payload.fields order).map Field.type) 0 = 0 :=
      offsetof_first _ _
    have holds := holds_storeFields memory 0 first
    rw [start] at holds
    exact holds
  have high : errCounter.toNat / 256 = 0 := Nat.div_eq_of_lt errCounter.toNat_lt
  cases order with
  | little =>
    simp only [bytesOf, bytesLittle, Holds, high, UInt8.ofNat_toNat] at stored
    exact ⟨stored.1, stored.2.1⟩
  | big =>
    simp only [bytesOf, bytesBig, high, UInt8.ofNat_toNat, List.nil_append, List.singleton_append,
      Holds] at stored
    exact ⟨stored.1, stored.2.1⟩

/-- What the data sheet makes of the payload: its first two bytes, one for each counter. -/
theorem loadPacked_edsHkTlmPayload (edsOrder : ByteOrder) (bytes : Nat → UInt8) :
    loadPacked edsOrder bytes 0 edsHkTlmPayload =
      [(.commandCounter, (bytes 0).toNat), (.commandErrorCounter, (bytes 1).toNat)] := by
  have first : load edsOrder bytes 0 uint8.size = (bytes 0).toNat := load_one edsOrder bytes 0
  have second : load edsOrder bytes 1 uint8.size = (bytes 1).toNat := load_one edsOrder bytes 1
  rw [edsHkTlmPayload, loadPacked, loadPacked, loadPacked, first]
  exact congrArg (fun n => [_, (_, n)]) second

/-- The packet that a trace transmits, read by the data sheet, shows the counters of `d`. -/
def DecodedByDataSheet (order edsOrder : ByteOrder) (memory : Nat → UInt8) (d : Data p N)
    (trace : List (Obs p N)) : Prop :=
  ∃ packet, trace.filterMap Obs.transmitted? = [packet] ∧
    loadPacked edsOrder (packet.payload.bytes order memory) 0 edsHkTlmPayload =
      [(.commandCounter, d.cmdCounter.toNat), (.commandErrorCounter, d.errCounter.toNat)]

theorem sendHkCmd_transmitted (r : CfeReplies p) (d : Data p N) :
    (sendHkCmd r d).trace.filterMap Obs.transmitted? = [d.refreshHk r] := rfl

/-- The data sheet reads the two bytes of the error counter. -/
theorem decodedByDataSheet_bytes (order edsOrder : ByteOrder) (memory : Nat → UInt8)
    (r : CfeReplies p) (d : Data p N) :
    DecodedByDataSheet order edsOrder memory d (sendHkCmd r d).trace ↔
      match order with
      | .little => d.errCounter = d.cmdCounter ∧ 0 = d.errCounter
      | .big => 0 = d.cmdCounter ∧ d.errCounter = d.errCounter := by
  have bytes := (d.refreshHk r).payload.firstBytes order memory d.errCounter rfl
  have decoded : DecodedByDataSheet order edsOrder memory d (sendHkCmd r d).trace ↔
      (d.refreshHk r).payload.bytes order memory 0 = d.cmdCounter ∧
        (d.refreshHk r).payload.bytes order memory 1 = d.errCounter := by
    unfold DecodedByDataSheet
    simp only [sendHkCmd_transmitted, List.singleton_inj, exists_eq_left',
      loadPacked_edsHkTlmPayload]
    simp [UInt8.toNat_inj]
  rw [decoded, bytes.1, bytes.2]
  cases order <;> rfl

/-- For every state, the packet is decoded by its data sheet exactly when the command
counter is zero and, on a little-endian machine, the error counter is zero too. -/
theorem decodedByDataSheet_iff (order edsOrder : ByteOrder) (memory : Nat → UInt8)
    (r : CfeReplies p) (d : Data p N) :
    DecodedByDataSheet order edsOrder memory d (sendHkCmd r d).trace ↔
      d.cmdCounter = 0 ∧ (order = .little → d.errCounter = 0) := by
  rw [decodedByDataSheet_bytes]
  cases order with
  | little =>
    constructor
    · rintro ⟨swapped, wide⟩
      exact ⟨by rw [← swapped, ← wide], fun _ => wide.symm⟩
    · rintro ⟨noCommand, noError⟩
      rw [noCommand, noError rfl]
      exact ⟨rfl, rfl⟩
  | big =>
    constructor
    · rintro ⟨wide, -⟩
      exact ⟨wide.symm, by intro other; cases other⟩
    · rintro ⟨noCommand, -⟩
      exact ⟨noCommand.symm, rfl⟩

/-- After one command that succeeds, the data sheet shows no command. -/
theorem not_always_decodedByDataSheet :
    ¬ ∀ (p : Platform) (N : Nat) (order edsOrder : ByteOrder) (memory : Nat → UInt8)
      (r : CfeReplies p) (d : Data p N),
      DecodedByDataSheet order edsOrder memory d (sendHkCmd r d).trace := by
  intro claim
  let p := defaultPlatform
  let d : Data p 1 := (runTaskPipe p [⟨default, groundCommand p noopCc []⟩]
    (init p default (zeroData p)).state).state
  have decoded := claim p 1 .little .big (fun _ => 0) default d
  rw [decodedByDataSheet_bytes] at decoded
  exact absurd (decoded.2.trans decoded.1) (by decide)

end BlinkerApp
