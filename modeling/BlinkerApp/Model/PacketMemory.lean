import BlinkerApp.Misc.CStruct
import BlinkerApp.Model.Main
import BlinkerApp.Model.Telemetry

/-!
# The housekeeping packet in memory

The accesses of the app to `BLINKER_APP_Data.HkTlm`, byte by byte: it is cleared and gets its
header once, its counters are stored in place, the bus rewrites its header, and it is sent as it
stands in memory, with its padding.
-/

namespace BlinkerApp

open Traced CLayout CType

variable {p : Platform} {N : Nat}

/-- The memory from the first byte of `BLINKER_APP_Data.HkTlm` on -/
abbrev PacketMemory := Nat → UInt8

/-- A program over the packet; what is seen of it are the bytes it hands to the bus. -/
abbrev PacketProgram := Traced PacketMemory (List UInt8)

/-! ## Fields -/

variable (p N)

/-- The offset of `Payload.CommandErrorCounter` -/
def commandErrorCounterOffset : Nat :=
  offsetof (hkTlmFields p N) 1 + offsetof (hkTlmPayloadFields N) 0

/-- The offset of `Payload.CommandCounter` -/
def commandCounterOffset : Nat :=
  offsetof (hkTlmFields p N) 1 + offsetof (hkTlmPayloadFields N) 1

variable {N}

/-- Store into the `uint16` field at `offset`. -/
def storeUint16 (offset : Nat) (value : UInt16) : PacketProgram Unit :=
  modify fun memory => store memory offset (bytesOf p.byteOrder 2 value.toNat)

/-- The telemetry header of the packet -/
def headerIn (memory : PacketMemory) : TelemetryHeader p := .ofFn fun k => memory k

/-- A function of the cFE that rewrites the telemetry header. -/
def rewriteHeader (rewrite : TelemetryHeader p → TelemetryHeader p) : PacketProgram Unit :=
  modify fun memory => store memory 0 (rewrite (headerIn p memory)).toList

variable (N)

/-! ## Programs -/

/-- `memset` over the packet, as part of `BLINKER_APP_Data` or in `CFE_MSG_Init` -/
def clearPacket : PacketProgram Unit :=
  modify fun memory => store memory 0 (List.replicate (hkTlmT p N).size 0)

/-- The accesses of `BLINKER_APP_Init` (`blinker_app.c:116, 141-142`) -/
def initPacket (a : InitReplies p) : PacketProgram Unit := do
  clearPacket p N
  if a.evsRegister ≠ cfeSuccess then
    pure ()
  else
    clearPacket p N
    rewriteHeader p fun _ => a.telemetryHeader

/-- Hand `sizeof(BLINKER_APP_HkTlm_t)` bytes to the bus. -/
def transmitPacket : PacketProgram Unit := do
  let memory ← gets id
  emit (bytesAt memory 0 (hkTlmT p N).size)

variable {p N}

/-- The accesses of `BLINKER_APP_SendHkCmd` (`blinker_app_cmds.c:54-61`) -/
def sendHkPacket (r : CfeReplies p) (d : Data p N) : PacketProgram Unit := do
  storeUint16 p (commandErrorCounterOffset p N) d.errCounter.toUInt16
  storeUint16 p (commandCounterOffset p N) d.cmdCounter.toUInt16
  rewriteHeader p r.timeStamp
  rewriteHeader p r.sequenceCount
  transmitPacket p N

/-- The accesses of `BLINKER_APP_TaskPipe` over the messages of a run that starts from `d` -/
def runPacket (p : Platform) : List (Input p) → Data p N → PacketProgram Unit
  | [], _ => pure ()
  | i :: later, d => do
    if i.buffer.msgId = sendHkMid p then sendHkPacket i.replies d else pure ()
    runPacket p later (taskPipe p i.replies i.buffer d).state

/-- The accesses of `BLINKER_APP_Main`, for the messages it is handed -/
def mainPacket (p : Platform) (a : InitReplies p) (inputs : List (Input p)) (d₀ : Data p N) :
    PacketProgram Unit := do
  initPacket p N a
  runPacket p inputs (init p a d₀).state

end BlinkerApp
