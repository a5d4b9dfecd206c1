import BlinkerApp.Model.Config

/-!
# Messages

The buffers the software bus hands to the app, the C structs the app overlays on
them, and the payload fields it reads through those structs.
-/

namespace BlinkerApp

open CLayout CType

/-! ## Structs (`default_blinker_app_msgstruct.h`, `default_blinker_app_msgdefs.h`) -/

/-- `BLINKER_APP_NoArgs_t` -/
def noArgsT (p : Platform) : CType := struct [p.commandHeader]

/-- The fields of `BLINKER_APP_SpecBlinker_t`: `CommandHeader`, `BlinkerNumber`, `Padding`. -/
def specBlinkerFields (p : Platform) : List CType := [p.commandHeader, uint16, uint16]

/-- `BLINKER_APP_SpecBlinker_t` -/
def specBlinkerT (p : Platform) : CType := struct (specBlinkerFields p)

/-- The fields of `BLINKER_APP_SwapBlinkers_t`: `CommandHeader`, `BlinkerNumber1`,
`BlinkerNumber2`. -/
def swapBlinkersFields (p : Platform) : List CType := [p.commandHeader, uint16, uint16]

/-- `BLINKER_APP_SwapBlinkers_t` -/
def swapBlinkersT (p : Platform) : CType := struct (swapBlinkersFields p)

/-- The fields of `BLINKER_APP_DisplayParam_Payload_t`: `ValU32`, `ValI16`, `ValStr`. -/
def displayParamPayloadFields : List CType := [uint32, int16, array uint8 stringValLen]

/-- The fields of `BLINKER_APP_DisplayParamCmd_t`: `CommandHeader`, `Payload`. -/
def displayParamCmdFields (p : Platform) : List CType :=
  [p.commandHeader, struct displayParamPayloadFields]

/-- `BLINKER_APP_DisplayParamCmd_t` -/
def displayParamCmdT (p : Platform) : CType := struct (displayParamCmdFields p)

/-- The fields of `BLINKER_APP_HkTlm_Payload_t`: `CommandErrorCounter`, `CommandCounter`,
`BlinkerStatus`, `BlinkerCount`. -/
def hkTlmPayloadFields (N : Nat) : List CType := [uint16, uint16, array uint8 N, array uint32 N]

/-- `BLINKER_APP_HkTlm_Payload_t` -/
def hkTlmPayloadT (N : Nat) : CType := struct (hkTlmPayloadFields N)

/-- The fields of `BLINKER_APP_HkTlm_t`: `TelemetryHeader`, `Payload`. -/
def hkTlmFields (p : Platform) (N : Nat) : List CType := [p.telemetryHeader, hkTlmPayloadT N]

/-- `BLINKER_APP_HkTlm_t` -/
def hkTlmT (p : Platform) (N : Nat) : CType := struct (hkTlmFields p N)

/-- `BLINKER_APP_ExampleTable_t` (`default_blinker_app_tbldefs.h`) -/
def exampleTableT : CType := struct [uint16, uint16]

/-! ## Command types (`default_blinker_app_msg.h`) -/

abbrev noopCmdT := noArgsT
abbrev resetCountersCmdT := noArgsT
abbrev processCmdT := noArgsT
abbrev resetAllBlinkersCmdT := noArgsT
abbrev enableAllBlinkersCmdT := noArgsT
abbrev disableAllBlinkersCmdT := noArgsT
abbrev resetSpecBlinkersCmdT := specBlinkerT
abbrev reportSpecBlinkersCmdT := specBlinkerT
abbrev enableSpecBlinkersCmdT := specBlinkerT
abbrev disableSpecBlinkersCmdT := specBlinkerT
abbrev swapBlinkerCountsCmdT := swapBlinkersT

/-! ## Buffers -/

/-- A `CFE_SB_Buffer_t`: the header fields as the `CFE_MSG_Get*` accessors return
them, and the memory from the first byte of the buffer on. The message itself is
the first `size` bytes; what follows in memory is arbitrary. -/
structure SbBuffer where
  msgId : UInt32
  fcnCode : UInt16
  size : Nat
  memory : Nat → UInt8

/-- A ground command as its sender builds it. -/
def groundCommand (p : Platform) (fcnCode : UInt16) (payload : List UInt8) : SbBuffer where
  msgId := cmdMid p
  fcnCode := fcnCode
  size := p.commandHeader.size + payload.length
  memory i := if i < p.commandHeader.size then 0 else payload.getD (i - p.commandHeader.size) 0

/-- A message that is only a header. -/
def bareMessage (p : Platform) (msgId : UInt32) : SbBuffer :=
  { groundCommand p 0 [] with msgId := msgId }

/-! ## Payload fields -/

section Fields

variable (p : Platform) (m : SbBuffer)

def blinkerNumberOffset : Nat := offsetof (specBlinkerFields p) 1

def blinkerNumber1Offset : Nat := offsetof (swapBlinkersFields p) 1

def blinkerNumber2Offset : Nat := offsetof (swapBlinkersFields p) 2

def payloadOffset : Nat := offsetof (displayParamCmdFields p) 1

def valU32Offset : Nat := payloadOffset p + offsetof displayParamPayloadFields 0

def valI16Offset : Nat := payloadOffset p + offsetof displayParamPayloadFields 1

def valStrOffset : Nat := payloadOffset p + offsetof displayParamPayloadFields 2

/-- The `uint16` field at `offset`. -/
def uint16At (offset : Nat) : UInt16 := UInt16.ofNat (load p.byteOrder m.memory offset 2)

/-- `Msg->BlinkerNumber` -/
def blinkerNumber : UInt16 := uint16At p m (blinkerNumberOffset p)

/-- `Msg->BlinkerNumber1` -/
def blinkerNumber1 : UInt16 := uint16At p m (blinkerNumber1Offset p)

/-- `Msg->BlinkerNumber2` -/
def blinkerNumber2 : UInt16 := uint16At p m (blinkerNumber2Offset p)

/-- `Msg->Payload.ValU32` -/
def valU32 : UInt32 := UInt32.ofNat (load p.byteOrder m.memory (valU32Offset p) 4)

/-- `Msg->Payload.ValI16` -/
def valI16 : Int16 := Int16.ofNat (load p.byteOrder m.memory (valI16Offset p) 2)

end Fields

end BlinkerApp
