import BlinkerApp.Misc.CStruct
import BlinkerApp.Model.Messages

/-!
# Commands as their senders build them

A sender fills in the C struct of a command in its own memory
(`default_blinker_app_msgstruct.h`, `default_blinker_app_msgdefs.h`). The bytes of the
header, the padding of the struct and the memory behind it are the sender's.
-/

namespace BlinkerApp

open CLayout CType

/-- `BLINKER_APP_DisplayParam_Payload_t` -/
structure DisplayParamPayload where
  valU32 : UInt32
  valI16 : Int16
  valStr : Vector UInt8 stringValLen

/-- The fields of the payload with their values. -/
def DisplayParamPayload.fields (order : ByteOrder) (payload : DisplayParamPayload) : List Field :=
  [.int order uint32 payload.valU32.toNat, .int order int16 payload.valI16.toUInt16.toNat,
   .chars payload.valStr]

/-- What a sender puts around the payload of a command. -/
structure Sender (p : Platform) where
  header : Vector UInt8 p.commandHeader.size
  memory : Nat → UInt8

namespace Sender

variable {p : Platform} (s : Sender p) (fcnCode : UInt16)

/-- `CommandHeader` -/
def headerField : Field := ⟨p.commandHeader, s.header.toList, by simp⟩

/-- The struct with the header and the fields after it, sent to the app. -/
def command (payload : List Field) : SbBuffer where
  msgId := cmdMid p
  fcnCode := fcnCode
  size := (CType.struct ((s.headerField :: payload).map Field.type)).size
  memory := storeFields s.memory 0 (s.headerField :: payload)

/-- A command in a `BLINKER_APP_NoArgs_t` -/
def noArgs : SbBuffer := s.command fcnCode []

/-- A command in a `BLINKER_APP_SpecBlinker_t` -/
def specBlinker (blinkerNumber padding : UInt16) : SbBuffer :=
  s.command fcnCode
    [.int p.byteOrder uint16 blinkerNumber.toNat, .int p.byteOrder uint16 padding.toNat]

/-- A command in a `BLINKER_APP_SwapBlinkers_t` -/
def swapBlinkers (blinkerNumber1 blinkerNumber2 : UInt16) : SbBuffer :=
  s.command fcnCode
    [.int p.byteOrder uint16 blinkerNumber1.toNat, .int p.byteOrder uint16 blinkerNumber2.toNat]

/-- A command in a `BLINKER_APP_DisplayParamCmd_t` -/
def displayParam (payload : DisplayParamPayload) : SbBuffer :=
  s.command fcnCode
    [.struct (fun i => s.memory (payloadOffset p + i)) (payload.fields p.byteOrder)]

end Sender

end BlinkerApp
