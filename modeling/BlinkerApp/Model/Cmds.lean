import BlinkerApp.Model.Data

/-!
# Ground command handlers (`blinker_app_cmds.c`, `blinker_app_utils.c`)

`N` is `BLINKER_APP_TOTAL_BLINKERS`. The four handlers that name one blinker share
their range check, and the three that act on all blinkers share their loop.
-/

namespace BlinkerApp

open Traced CLayout

variable {p : Platform} {N : Nat}

/-- `BLINKER_APP_SendHkCmd` (`blinker_app_cmds.c:47-72`) -/
def sendHkCmd (r : CfeReplies p) : App p N CfeStatus := do
  modify fun d => { d with hkTlm := { d.hkTlm with payload :=
    { d.hkTlm.payload with commandErrorCounter := d.errCounter.toUInt16 } } }
  modify fun d => { d with hkTlm := { d.hkTlm with payload :=
    { d.hkTlm.payload with commandCounter := d.cmdCounter.toUInt16 } } }
  cfeSbTimeStampMsg r
  cfeSbTransmitMsg r true
  each (fun i : Fin numberOfTables => do
    let handle ← gets (·.tblHandles.get i)
    cfeTblManage handle) (List.finRange numberOfTables)
  return cfeSuccess

/-- `BLINKER_APP_NoopCmd` (`blinker_app_cmds.c:79-87`) -/
def noopCmd : App p N CfeStatus := do
  modify fun d => { d with cmdCounter := d.cmdCounter + 1 }
  cfeEvsSendEvent noopInfEid .information "BLINKER: NOOP command %s" [.str version]
  return cfeSuccess

/-- `BLINKER_APP_ResetCountersCmd` (`blinker_app_cmds.c:96-104`) -/
def resetCountersCmd : App p N CfeStatus := do
  modify fun d => { d with cmdCounter := 0 }
  modify fun d => { d with errCounter := 0 }
  cfeEvsSendEvent resetInfEid .information "BLINKER: RESET command" []
  return cfeSuccess

/-- `BLINKER_APP_GetCrc` (`blinker_app_utils.c:59-75`) -/
def getCrc (r : CfeReplies p) (tableName : String) : App p N Unit := do
  let status ← cfeTblGetInfo r tableName
  if status ≠ cfeSuccess then
    cfeEsWriteToSysLog "Blinker App: Error Getting Example Table Info" []
  else
    cfeEsWriteToSysLog "Blinker App: CRC: 0x%08lX\n\n" [.int r.crc.toNat]

/-- `BLINKER_APP_ProcessCmd` (`blinker_app_cmds.c:112-145`) -/
def processCmd (r : CfeReplies p) : App p N CfeStatus := do
  let handle ← gets (·.tblHandles.get exampleTable)
  let status ← cfeTblGetAddress r handle
  if status < cfeSuccess then
    cfeEsWriteToSysLog "Blinker App: Fail to get table address: 0x%08lx" [.ulong status]
    return status
  else
    let (int1, int2) ← readTable r
    cfeEsWriteToSysLog "Blinker App: Example Table Value 1: %d  Value 2: %d"
      [.int int1.toNat, .int int2.toNat]
    getCrc r "BLINKER_APP.ExampleTable"
    let handle ← gets (·.tblHandles.get exampleTable)
    let status ← cfeTblReleaseAddress r handle
    if status ≠ cfeSuccess then
      cfeEsWriteToSysLog "Blinker App: Fail to release table address: 0x%08lx" [.ulong status]
      return status
    else
      return cfeSuccess

/-- `BLINKER_APP_DisplayParamCmd` (`blinker_app_cmds.c:152-159`). The event gets
`ValStr` as a pointer into the message. -/
def displayParamCmd (p : Platform) (m : SbBuffer) : App p N CfeStatus := do
  let valU32 ← loadUint32 m (valU32Offset p)
  let valI16 ← loadInt16 m (valI16Offset p)
  cfeEvsSendEvent valueInfEid .information "BLINKER_APP: ValU32=%lu, ValI16=%d, ValStr=%s"
    [.int valU32.toNat, .int valI16.toInt, .msgStr (valStrOffset p)]
  return cfeSuccess

/-! ## Commands for all blinkers -/

/-- The body of the three `*AllBlinkersCmd`: a loop with the bound
`BLINKER_APP_TOTAL_BLINKERS-1`, then an event. -/
def allBlinkersCmd (store : Nat → App p N Unit) (spec : String) : App p N CfeStatus := do
  each store (List.range ((N : Int) - 1).toNat)
  cfeEvsSendEvent reportSpecBlinkerInfEid .information spec []
  return cfeSuccess

/-- `BLINKER_APP_ResetAllBlinkersCmd` (`blinker_app_cmds.c:161-171`) -/
def resetAllBlinkersCmd : App p N CfeStatus :=
  allBlinkersCmd (fun i => storeCount i 0) "BLINKER_APP: All blinkers reset"

/-- `BLINKER_APP_EnableAllBlinkersCmd` (`blinker_app_cmds.c:173-183`) -/
def enableAllBlinkersCmd : App p N CfeStatus :=
  allBlinkersCmd (fun i => storeStatus i 1) "BLINKER_APP: All blinkers enabled"

/-- `BLINKER_APP_DisableAllBlinkersCmd` (`blinker_app_cmds.c:185-195`) -/
def disableAllBlinkersCmd : App p N CfeStatus :=
  allBlinkersCmd (fun i => storeStatus i 0) "BLINKER_APP: All blinkers disabled"

/-! ## Commands for specific blinkers -/

/-- The range check on a blinker number, in C `int` arithmetic:
`n > BLINKER_APP_TOTAL_BLINKERS-1`. -/
def outOfRange (N : Nat) (n : UInt16) : Prop := (n.toNat : Int) > (N : Int) - 1

instance (n : UInt16) : Decidable (outOfRange N n) := inferInstanceAs (Decidable (_ > _))

/-- The body of the four `*SpecBlinkersCmd`: read the number, check it, act on it. -/
def specBlinkersCmd (p : Platform) (m : SbBuffer) (act : UInt16 → App p N Unit) :
    App p N CfeStatus := do
  let n ← loadUint16 m (blinkerNumberOffset p)
  if outOfRange N n then
    cfeEvsSendEvent ccErrEid .error
      "BLINKER_APP: User provided Blinker #%d which exceeds the blinkers being tracked (%d)"
      [.int n.toNat, .int N]
    return -1
  else
    act n
    return cfeSuccess

/-- `BLINKER_APP_ResetSpecBlinkersCmd` (`blinker_app_cmds.c:197-211`) -/
def resetSpecBlinkersCmd (p : Platform) (m : SbBuffer) : App p N CfeStatus :=
  specBlinkersCmd p m fun n => do
    storeCount n.toNat 0
    cfeEvsSendEvent reportSpecBlinkerInfEid .information
      "BLINKER_APP: Blinker #%d count RESET" [.int n.toNat]

/-- `BLINKER_APP_ReportSpecBlinkersCmd` (`blinker_app_cmds.c:213-227`) -/
def reportSpecBlinkersCmd (p : Platform) (m : SbBuffer) : App p N CfeStatus :=
  specBlinkersCmd p m fun n => do
    let count ← loadCount n.toNat
    cfeEvsSendEvent reportSpecBlinkerInfEid .information
      "BLINKER_APP: Blinker #%d = %d counts" [.int n.toNat, .int count.toNat]

/-- `BLINKER_APP_EnableSpecBlinkersCmd` (`blinker_app_cmds.c:229-243`) -/
def enableSpecBlinkersCmd (p : Platform) (m : SbBuffer) : App p N CfeStatus :=
  specBlinkersCmd p m fun n => do
    storeStatus n.toNat 1
    cfeEvsSendEvent reportSpecBlinkerInfEid .information
      "BLINKER_APP: Blinker #%d enabled" [.int n.toNat]

/-- `BLINKER_APP_DisableSpecBlinkersCmd` (`blinker_app_cmds.c:245-259`) -/
def disableSpecBlinkersCmd (p : Platform) (m : SbBuffer) : App p N CfeStatus :=
  specBlinkersCmd p m fun n => do
    storeStatus n.toNat 0
    cfeEvsSendEvent reportSpecBlinkerInfEid .information
      "BLINKER_APP: Blinker #%d disabled" [.int n.toNat]

/-- `BLINKER_APP_SwapBlinkerCountsCmd` (`blinker_app_cmds.c:261-283`). Both numbers
are read on every path: by the check, or as arguments of the error event. -/
def swapBlinkerCountsCmd (p : Platform) (m : SbBuffer) : App p N CfeStatus := do
  let n1 ← loadUint16 m (blinkerNumber1Offset p)
  let n2 ← loadUint16 m (blinkerNumber2Offset p)
  if outOfRange N n1 ∨ outOfRange N n2 then
    cfeEvsSendEvent ccErrEid .error
      "BLINKER_APP: User provided Blinkers #%d and #%d which exceeds the blinkers being tracked (%d)"
      [.int n1.toNat, .int n2.toNat, .int N]
    return -1
  else
    let tempCount ← loadCount n1.toNat
    let count2 ← loadCount n2.toNat
    storeCount n1.toNat count2
    storeCount n2.toNat tempCount
    let now1 ← loadCount n1.toNat
    let now2 ← loadCount n2.toNat
    cfeEvsSendEvent reportSpecBlinkerInfEid .information
      "BLINKER_APP: Blinker #%d and #%d swapped values (%d <-> %d)"
      [.int n1.toNat, .int n2.toNat, .int now1.toNat, .int now2.toNat]
    return cfeSuccess

end BlinkerApp
