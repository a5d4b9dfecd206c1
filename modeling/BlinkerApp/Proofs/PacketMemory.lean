import Mathlib.Data.List.GetD
import BlinkerApp.Model.PacketMemory
import BlinkerApp.Proofs.HkTelemetry

/-!
# The bytes of a packet

What the bus is handed is, byte for byte, the packet of the program in a struct whose memory was
zero: the header, the two counters, and zeros in the arrays and in all padding, whatever the
memory held before start-up, for every number of blinkers and either byte order.
-/

namespace BlinkerApp

open Traced CLayout CType

variable {p : Platform} {N : Nat}

/-! ## Packets as bytes -/

/-- The fields of `BLINKER_APP_HkTlm_t` with their values. -/
def HkTlm.fields (packet : HkTlm p N) : List Field :=
  [⟨p.telemetryHeader, packet.telemetryHeader.toList, by simp⟩,
   .struct (fun _ => 0) (packet.payload.fields p.byteOrder)]

/-- The bytes of the packet in memory that was zero. -/
def HkTlm.bytes (packet : HkTlm p N) : List UInt8 :=
  bytesAt (storeFields (fun _ => 0) 0 packet.fields) 0 (hkTlmT p N).size

/-- Byte `i` of a packet with arrays of zeros. -/
def packetByte (p : Platform) (N : Nat) (header : TelemetryHeader p) (err cmd : UInt16) (i : Nat) :
    UInt8 :=
  if i < p.telemetryHeader.size then header.toList.getD i 0
  else if commandErrorCounterOffset p N ≤ i ∧ i < commandErrorCounterOffset p N + 2 then
    (bytesOf p.byteOrder 2 err.toNat).getD (i - commandErrorCounterOffset p N) 0
  else if commandCounterOffset p N ≤ i ∧ i < commandCounterOffset p N + 2 then
    (bytesOf p.byteOrder 2 cmd.toNat).getD (i - commandCounterOffset p N) 0
  else 0

/-- The memory of the packet shows the header and the counters, and zeros elsewhere. -/
def PacketMemory.Shows (p : Platform) (N : Nat) (memory : PacketMemory)
    (header : TelemetryHeader p) (err cmd : UInt16) : Prop :=
  ∀ i < (hkTlmT p N).size, memory i = packetByte p N header err cmd i

/-! ## Offsets -/

theorem hkTlmPayload_counters : offsetof (hkTlmPayloadFields N) 1 + 2 ≤ (hkTlmPayloadT N).size :=
  offsetof_add_size_le (hkTlmPayloadFields N) 1 uint16 rfl

/-- The counters lie behind the header, one after the other. -/
theorem counterOffsets (p : Platform) (N : Nat) :
    p.telemetryHeader.size ≤ commandErrorCounterOffset p N ∧
      commandCounterOffset p N = commandErrorCounterOffset p N + 2 ∧
      commandCounterOffset p N + 2 ≤ (hkTlmT p N).size := by
  refine ⟨?_, rfl, ?_⟩
  · have behind := le_alignUp (hkTlmPayloadT N).alignLog
      (alignUp p.telemetryHeader.alignLog 0 + p.telemetryHeader.size)
    show _ ≤ alignUp (hkTlmPayloadT N).alignLog
      (alignUp p.telemetryHeader.alignLog 0 + p.telemetryHeader.size) + 0
    omega
  · have inner := hkTlmPayload_counters (N := N)
    have outer : offsetof (hkTlmFields p N) 1 + (hkTlmPayloadT N).size ≤ (hkTlmT p N).size :=
      offsetof_add_size_le (hkTlmFields p N) 1 (hkTlmPayloadT N) rfl
    unfold commandCounterOffset
    omega

/-! ## The packet in memory -/

section Shows

variable {memory : PacketMemory} {header : TelemetryHeader p} {err cmd : UInt16}

theorem shows_clearPacket (memory : PacketMemory) :
    PacketMemory.Shows p N (clearPacket p N memory).state (.replicate _ 0) 0 0 := by
  intro i below
  have zero : packetByte p N (.replicate _ 0) 0 0 i = 0 := by
    unfold packetByte
    rw [show (0 : UInt16).toNat = 0 from rfl, bytesOf_zero]
    simp only [Vector.toList_replicate, List.getD_eq_getElem?_getD,
      List.getElem?_getD_replicate_default_eq, ite_self]
  show store memory 0 _ i = _
  rw [store_apply, zero, List.length_replicate, if_pos (by omega), List.getD_eq_getElem?_getD,
    List.getElem?_getD_replicate_default_eq]

theorem PacketMemory.Shows.headerIn (shows : memory.Shows p N header err cmd) :
    headerIn p memory = header := by
  apply Vector.ext
  intro i below
  obtain ⟨behind, next, inside⟩ := counterOffsets p N
  have shown := shows i (by omega)
  rw [packetByte, if_pos below, List.getD_eq_getElem _ _ (by simpa using below)] at shown
  simpa [BlinkerApp.headerIn] using shown

theorem PacketMemory.Shows.rewriteHeader (shows : memory.Shows p N header err cmd)
    (rewrite : TelemetryHeader p → TelemetryHeader p) :
    (rewriteHeader p rewrite memory).state.Shows p N (rewrite header) err cmd := by
  intro i below
  show store memory _ _ i = _
  rw [store_apply, shows.headerIn, Vector.length_toList, shows i below]
  unfold packetByte
  by_cases inside : i < p.telemetryHeader.size
  · rw [if_pos (by omega), if_pos inside, Nat.sub_zero]
  · rw [if_neg (by omega), if_neg inside, if_neg inside]

theorem PacketMemory.Shows.storeErr (shows : memory.Shows p N header err cmd) (value : UInt16) :
    (storeUint16 p (commandErrorCounterOffset p N) value memory).state.Shows p N header value
      cmd := by
  intro i below
  obtain ⟨behind, -, -⟩ := counterOffsets p N
  show store memory _ _ i = _
  rw [store_apply, length_bytesOf, shows i below]
  unfold packetByte
  by_cases inside : commandErrorCounterOffset p N ≤ i ∧ i < commandErrorCounterOffset p N + 2
  · rw [if_pos inside, if_neg (by omega), if_pos inside]
  · rw [if_neg inside, if_neg inside, if_neg inside]

theorem PacketMemory.Shows.storeCmd (shows : memory.Shows p N header err cmd) (value : UInt16) :
    (storeUint16 p (commandCounterOffset p N) value memory).state.Shows p N header err
      value := by
  intro i below
  obtain ⟨behind, next, -⟩ := counterOffsets p N
  show store memory _ _ i = _
  rw [store_apply, length_bytesOf, shows i below]
  unfold packetByte
  by_cases inside : commandCounterOffset p N ≤ i ∧ i < commandCounterOffset p N + 2
  · rw [if_pos inside, if_neg (by omega), if_neg (by omega), if_pos inside]
  · rw [if_neg inside, if_neg inside, if_neg inside]

end Shows

/-! ## The packet as a struct -/

/-- The arrays and the padding of a payload with empty arrays are zero. -/
theorem HkTlmPayload.bytes_blank (order : ByteOrder) (err cmd : UInt16) :
    HkTlmPayload.bytes order (fun _ => 0) ⟨err, cmd, .replicate N 0, .replicate N 0⟩ =
      store (store (fun _ => 0) 0 (bytesOf order 2 err.toNat)) 2 (bytesOf order 2 cmd.toNat) := by
  let counters := store (store (fun _ => 0) 0 (bytesOf order 2 err.toNat)) 2
    (bytesOf order 2 cmd.toNat)
  let arrays : List Field := [.array order uint8 (List.replicate N 0),
    .array order uint32 (List.replicate N 0)]
  have split : HkTlmPayload.bytes order (fun _ => 0) ⟨err, cmd, .replicate N 0, .replicate N 0⟩ =
      storeFields counters 4 arrays := by
    have first : alignUp uint16.alignLog 0 = 0 := rfl
    have second : alignUp uint16.alignLog (0 + uint16.size) = 2 := rfl
    unfold HkTlmPayload.bytes HkTlmPayload.fields
    rw [storeFields, storeFields]
    show storeFields (store (store _ (alignUp uint16.alignLog 0) _)
      (alignUp uint16.alignLog (alignUp uint16.alignLog 0 + uint16.size)) _)
      (alignUp uint16.alignLog (alignUp uint16.alignLog 0 + uint16.size) + uint16.size) _ = _
    simp only [first, second, Vector.toList_replicate, List.map_replicate]
    rfl
  rw [split]
  apply storeFields_zero
  · intro i behind
    have outside (offset n : Nat) (before : offset ≤ 2) :
        i < offset ∨ offset + (bytesOf order 2 n).length ≤ i := by
      rw [length_bytesOf]
      omega
    show store (store _ 0 _) 2 _ i = 0
    rw [store_outside (outside 2 _ (by omega)), store_outside (outside 0 _ (by omega))]
  · intro f isArray b inside
    rcases List.mem_pair.mp isArray with rfl | rfl <;> exact Field.eq_zero_of_mem_array inside

theorem HkTlm.storeFields_fields (packet : HkTlm p N) :
    storeFields (fun _ => 0) 0 packet.fields =
      store (store (fun _ => 0) 0 packet.telemetryHeader.toList) (offsetof (hkTlmFields p N) 1)
        (bytesAt (packet.payload.bytes p.byteOrder fun _ => 0) 0 (hkTlmPayloadT N).size) := by
  have start : alignUp p.telemetryHeader.alignLog 0 = 0 := offsetof_first p.telemetryHeader []
  have payload : CType.struct ((packet.payload.fields p.byteOrder).map Field.type) =
      hkTlmPayloadT N := congrArg CType.struct (packet.payload.types p.byteOrder)
  unfold HkTlm.fields
  rw [storeFields, storeFields, storeFields]
  show store (store _ (alignUp p.telemetryHeader.alignLog 0) _)
    (alignUp (CType.struct _).alignLog (alignUp p.telemetryHeader.alignLog 0 + _))
    (bytesAt _ 0 (CType.struct _).size) = store (store _ 0 _) (alignUp _ (alignUp _ 0 + _)) _
  rw [payload, start]
  rfl

/-- The bytes of a packet with empty arrays. -/
theorem HkTlm.bytes_blank (header : TelemetryHeader p) (err cmd : UInt16) :
    HkTlm.bytes (⟨header, err, cmd, .replicate N 0, .replicate N 0⟩ : HkTlm p N) =
      bytesAt (packetByte p N header err cmd) 0 (hkTlmT p N).size := by
  refine bytesAt_congr fun i _ => ?_
  obtain ⟨behind, next, -⟩ := counterOffsets p N
  have start : commandErrorCounterOffset p N = offsetof (hkTlmFields p N) 1 := rfl
  have inside := hkTlmPayload_counters (N := N)
  have second : offsetof (hkTlmPayloadFields N) 1 = 2 := rfl
  rw [HkTlm.storeFields_fields, HkTlmPayload.bytes_blank, Nat.zero_add, ← start, store_apply,
    store_apply, length_bytesAt, Vector.length_toList]
  unfold packetByte
  by_cases inHeader : i < p.telemetryHeader.size
  · rw [if_neg (by omega), if_pos (by omega), if_pos inHeader, Nat.sub_zero]
  by_cases inPayload : commandErrorCounterOffset p N ≤ i ∧
      i < commandErrorCounterOffset p N + (hkTlmPayloadT N).size
  · rw [if_pos inPayload, getD_bytesAt (by omega), store_apply, store_apply, length_bytesOf,
      length_bytesOf, if_neg inHeader, Nat.zero_add]
    by_cases isErr : i < commandErrorCounterOffset p N + 2
    · rw [if_neg (by omega), if_pos (by omega), if_pos (by omega), Nat.sub_zero]
    by_cases isCmd : i < commandCounterOffset p N + 2
    · rw [if_pos (by omega), if_neg (by omega), if_pos (by omega), next, Nat.sub_sub]
    · rw [if_neg (by omega), if_neg (by omega), if_neg (by omega), if_neg (by omega)]
  · rw [if_neg inPayload, if_neg (by omega), if_neg inHeader, if_neg (by omega), if_neg (by omega)]

/-! ## Runs -/

/-- The memory is that of the packet in the data `d`, whose arrays were never written. -/
structure PacketMemory.Represents (memory : PacketMemory) (d : Data p N) : Prop where
  shows : memory.Shows p N d.hkTlm.telemetryHeader d.hkTlm.payload.commandErrorCounter
    d.hkTlm.payload.commandCounter
  blank : d.PacketBlank

/-- A request sends the bytes of the packet it refreshes. -/
theorem sendHkPacket_apply {memory : PacketMemory} {d : Data p N} (represents : memory.Represents d)
    (r : CfeReplies p) :
    ∃ memory' : PacketMemory, sendHkPacket r d memory = ⟨(), memory', [(d.refreshHk r).bytes]⟩ ∧
      memory'.Shows p N (d.refreshHk r).telemetryHeader d.errCounter.toUInt16
        d.cmdCounter.toUInt16 := by
  have stored := (represents.shows.storeErr d.errCounter.toUInt16).storeCmd d.cmdCounter.toUInt16
  have stamped := (stored.rewriteHeader r.timeStamp).rewriteHeader r.sequenceCount
  refine ⟨_, ?_, stamped⟩
  have packet : d.refreshHk r = ⟨r.stamp d.hkTlm.telemetryHeader, d.errCounter.toUInt16,
      d.cmdCounter.toUInt16, .replicate N 0, .replicate N 0⟩ := by
    rw [← represents.blank.1, ← represents.blank.2]
    rfl
  rw [packet, HkTlm.bytes_blank]
  exact congrArg (Outcome.mk () _ [·]) (bytesAt_congr fun i below => by
    rw [Nat.zero_add]
    exact stamped i below)

/-- Request by request, the bytes of the packets of the run are sent. -/
theorem runPacket_trace (inputs : List (Input p)) {memory : PacketMemory} {d : Data p N}
    (represents : memory.Represents d) :
    (runPacket p inputs d memory).trace =
      ((runTaskPipe p inputs d).trace.filterMap Obs.transmitted?).map HkTlm.bytes := by
  induction inputs generalizing memory d with
  | nil => rfl
  | cons i later ih =>
    have packet := taskPipe_hkTlm p i d
    have blank := taskPipe_packetBlank p i.replies i.buffer represents.blank
    rw [runTaskPipe_cons, Outcome.prepend_trace, List.filterMap_append, List.map_append,
      taskPipe_transmitted]
    unfold runPacket
    by_cases isHk : i.buffer.msgId = sendHkMid p
    · rw [if_pos isHk] at packet
      obtain ⟨memory', sent, shows⟩ := sendHkPacket_apply represents i.replies
      have next : memory'.Represents (taskPipe p i.replies i.buffer d).state := ⟨packet ▸ shows, blank⟩
      rw [if_pos isHk, if_pos isHk, bind_apply, sent, ← ih next]
      rfl
    · rw [if_neg isHk] at packet
      have next : memory.Represents (taskPipe p i.replies i.buffer d).state :=
        ⟨packet ▸ represents.shows, blank⟩
      rw [if_neg isHk, if_neg isHk, ← ih next]
      rfl

/-- Start-up leaves a packet without counters, whatever the memory held. -/
theorem initPacket_apply (a : InitReplies p) (memory : PacketMemory) :
    (initPacket p N a memory).trace = [] ∧
      (initPacket p N a memory).state.Represents (initState p a : Data p N) := by
  have blank : (initState p a : Data p N).PacketBlank := ⟨by simp, by simp⟩
  have cleared := shows_clearPacket (p := p) (N := N) memory
  unfold initPacket
  by_cases registered : a.evsRegister = cfeSuccess
  · have header : (initState p a : Data p N).hkTlm.telemetryHeader = a.telemetryHeader := by
      simp only [initState, registered, if_true]
      split <;> rfl
    refine ⟨by simp [registered, clearPacket, rewriteHeader], ?_, blank⟩
    rw [initState_payload, header]
    simpa [registered] using
      (shows_clearPacket (clearPacket p N memory).state).rewriteHeader fun _ => a.telemetryHeader
  · have header : (initState p a : Data p N).hkTlm.telemetryHeader = .replicate _ 0 := by
      have stopped : ¬ Subscribed a := fun subscribed => registered subscribed.1
      simp [initState, stopped, registered, zeroData]
    refine ⟨by simp [registered, clearPacket], ?_, blank⟩
    rw [initState_payload, header]
    simpa [registered] using cleared

theorem mainPacket_trace (a : InitReplies p) (its : List (Iteration p)) (d₀ : Data p N)
    (memory : PacketMemory) :
    (mainPacket p a (handed p a N its) d₀ memory).trace =
      ((main p a its d₀).trace.filterMap Obs.transmitted?).map HkTlm.bytes := by
  obtain ⟨silent, started⟩ := initPacket_apply (N := N) a memory
  have state : (init p a d₀).state = initState p a := by rw [init_apply]
  rw [main_transmitted_run, ← runPacket_trace (handed p a N its) started]
  unfold mainPacket
  rw [bind_apply, Outcome.prepend_trace, silent, List.nil_append, state]

/-- The bytes of a packet with empty arrays are zero but for the header and the counters. -/
theorem HkTlm.bytes_eq_zero (header : TelemetryHeader p) (err cmd : UInt16) {i : Nat}
    (behind : p.telemetryHeader.size ≤ i)
    (notErr : ¬ (commandErrorCounterOffset p N ≤ i ∧ i < commandErrorCounterOffset p N + 2))
    (notCmd : ¬ (commandCounterOffset p N ≤ i ∧ i < commandCounterOffset p N + 2)) :
    let packet : HkTlm p N := ⟨header, err, cmd, .replicate N 0, .replicate N 0⟩
    packet.bytes.getD i 0 = 0 := by
  intro packet
  rw [HkTlm.bytes_blank]
  by_cases inside : i < (hkTlmT p N).size
  · rw [getD_bytesAt inside, Nat.zero_add, packetByte, if_neg (by omega), if_neg notErr,
      if_neg notCmd]
  · exact List.getD_eq_default _ _ (by rw [length_bytesAt]; omega)

/-- What `BLINKER_APP_Main` hands to the bus, byte for byte, is the sequence of its packets, each
as a struct in memory that was zero, whatever the memory of the packet held before. So the bytes
behind the header and the two counters are zero: the arrays, and all padding, for every number of
blinkers. -/
theorem main_packetBytes (a : InitReplies p) (its : List (Iteration p)) (d₀ : Data p N)
    (memory : PacketMemory) :
    let sent := (mainPacket p a (handed p a N its) d₀ memory).trace
    sent = ((main p a its d₀).trace.filterMap Obs.transmitted?).map HkTlm.bytes ∧
    ∀ bytes ∈ sent, bytes.length = (hkTlmT p N).size ∧
      ∀ i, p.telemetryHeader.size ≤ i →
        ¬ (commandErrorCounterOffset p N ≤ i ∧ i < commandErrorCounterOffset p N + 2) →
        ¬ (commandCounterOffset p N ≤ i ∧ i < commandCounterOffset p N + 2) →
        bytes.getD i 0 = 0 := by
  intro sent
  have packets := mainPacket_trace a its d₀ memory
  refine ⟨packets, fun bytes member => ?_⟩
  have shown : bytes ∈ ((main p a its d₀).trace.filterMap Obs.transmitted?).map HkTlm.bytes :=
    packets ▸ member
  rw [main_transmitted] at shown
  obtain ⟨packet, found, rfl⟩ := List.mem_map.mp shown
  obtain ⟨⟨before, i⟩, -, made⟩ := List.mem_filterMap.mp found
  refine ⟨length_bytesAt _ _ _, fun k behind notErr notCmd => ?_⟩
  split at made
  case isTrue =>
    rw [← Option.some.inj made]
    exact HkTlm.bytes_eq_zero _ _ _ behind notErr notCmd
  case isFalse => cases made

end BlinkerApp
