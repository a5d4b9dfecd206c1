import BlinkerApp.Model.Dispatch
import BlinkerApp.Model.Tables

/-!
# Start-up and main loop (`blinker_app.c`)

A call of `BLINKER_APP_Main` need not return, so it is described by its finite
prefixes: `main` is given what the cFE does in the first iterations of the loop and
runs that far.
-/

namespace BlinkerApp

open Traced

variable {p : Platform} {N : Nat}

/-- What the cFE does with the calls `BLINKER_APP_Init` makes. A call that stores a
pipe or a handle stores the one given here, whatever status it returns. -/
structure InitReplies (p : Platform) where
  evsRegister : CfeStatus
  telemetryHeader : TelemetryHeader p
  createPipe : CfeStatus
  pipe : PipeId
  subscribeSendHk : CfeStatus
  subscribeCmd : CfeStatus
  subscribeBlinkCmd : CfeStatus
  tblRegister : CfeStatus
  tblHandle : TblHandle
  tblLoad : CfeStatus
  versionString : String
  deriving Inhabited

/-- What the cFE does in one iteration of the main loop: what `CFE_ES_RunLoop` answers
to a run status and leaves in it, and what `CFE_SB_ReceiveBuffer` returns. -/
structure Iteration (p : Platform) where
  runLoop : UInt32 → Bool × UInt32
  receive : CfeStatus
  buffer : SbBuffer
  replies : CfeReplies p

/-! ## Calls to the cFE -/

def cfeEvsRegister (a : InitReplies p) : App p N CfeStatus := do
  emit (.evsRegister a.evsRegister)
  return a.evsRegister

/-- The packet is cleared and gets the header the cFE gives it. -/
def cfeMsgInit (a : InitReplies p) (msgId : UInt32) (size : Nat) : App p N Unit := do
  emit (.msgInit msgId size)
  modify fun d => { d with hkTlm := ⟨a.telemetryHeader, ⟨0, 0, .replicate N 0, .replicate N 0⟩⟩ }

def cfeSbCreatePipe (a : InitReplies p) (depth : UInt16) (name : List UInt8) :
    App p N CfeStatus := do
  emit (.sbCreatePipe depth name a.pipe a.createPipe)
  modify fun d => { d with commandPipe := a.pipe }
  return a.createPipe

def cfeSbSubscribe (reply : CfeStatus) (msgId : UInt32) : App p N CfeStatus := do
  let pipe ← gets (·.commandPipe)
  emit (.sbSubscribe msgId pipe reply)
  return reply

def cfeTblRegister (a : InitReplies p) (name : String) (size : Nat) (options : UInt16)
    (validation : TblCallbackFunc) : App p N CfeStatus := do
  emit (.tblRegister name size options validation a.tblHandle a.tblRegister)
  modify fun d => { d with
    tblHandles := d.tblHandles.set exampleTable a.tblHandle exampleTable.isLt }
  return a.tblRegister

def cfeTblLoad (a : InitReplies p) (handle : TblHandle) (srcType : UInt32) (file : String) :
    App p N CfeStatus := do
  emit (.tblLoad handle srcType file a.tblLoad)
  return a.tblLoad

def cfeConfigGetVersionString (a : InitReplies p) : App p N String := do
  emit (.configGetVersionString maxVersionStrLen "Blinker App" version buildCodename lastOfficial)
  return a.versionString

def cfeEsRunLoop (i : Iteration p) : App p N Bool := do
  let runStatus ← gets (·.runStatus)
  let (running, runStatus') := i.runLoop runStatus
  emit (.esRunLoop runStatus running)
  modify fun d => { d with runStatus := runStatus' }
  return running

def cfeSbReceiveBuffer (i : Iteration p) : App p N CfeStatus := do
  let pipe ← gets (·.commandPipe)
  emit (.sbReceiveBuffer pipe i.receive i.buffer)
  return i.receive

/-! ## Initialization -/

/-- `BLINKER_APP_Data` after `memset(&BLINKER_APP_Data, 0, sizeof(BLINKER_APP_Data))` -/
def zeroData (p : Platform) : Data p N where
  cmdCounter := 0
  errCounter := 0
  hkTlm := ⟨.replicate p.telemetryHeader.size 0, ⟨0, 0, .replicate N 0, .replicate N 0⟩⟩
  runStatus := 0
  commandPipe := 0
  blinkerPipe := 0
  pipeName := List.replicate p.maxApiLen 0
  pipeDepth := 0
  tblHandles := .replicate numberOfTables 0
  blinkerCounts := .replicate N 0
  blinkerStatuses := .replicate N 0

/-- `strncpy` into an array of `n` characters -/
def strncpy (text : String) (n : Nat) : List UInt8 :=
  ((text.toList.map fun (c : Char) => UInt8.ofNat c.toNat) ++ List.replicate n 0).take n

/-- Subscribe to a message id and report a failure. -/
def subscribe (reply : CfeStatus) (msgId : UInt32) (errEid : UInt16) (errSpec : String) :
    App p N CfeStatus := do
  let status ← cfeSbSubscribe reply msgId
  if status ≠ cfeSuccess then
    cfeEvsSendEvent errEid .error errSpec [.ulong status]
    return status
  else
    return status

/-- `BLINKER_APP_Init` (`blinker_app.c:110-219`) -/
def init (p : Platform) (a : InitReplies p) : App p N CfeStatus := do
  modify fun _ => zeroData p
  modify fun d => { d with runStatus := p.appRun }
  modify fun d => { d with pipeDepth := pipeDepth }
  modify fun d => { d with pipeName := strncpy "BLINKER_APP_CMD_PIPE" p.maxApiLen }
  modify fun d => { d with pipeName := d.pipeName.set (p.maxApiLen - 1) 0 }
  let status ← cfeEvsRegister a
  let status ←
    if status ≠ cfeSuccess then do
      cfeEsWriteToSysLog "Blinker App: Error Registering Events, RC = 0x%08lX\n" [.ulong status]
      pure status
    else do
      cfeMsgInit a (hkTlmMid p) (hkTlmT p N).size
      let depth ← gets (·.pipeDepth)
      let name ← gets (·.pipeName)
      let status ← cfeSbCreatePipe a depth name
      if status ≠ cfeSuccess then
        cfeEvsSendEvent crPipeErrEid .error
          "Blinker App: Error creating SB Command Pipe, RC = 0x%08lX" [.ulong status]
        pure status
      else
        pure status
  let status ←
    if status = cfeSuccess then
      subscribe a.subscribeSendHk (sendHkMid p) subHkErrEid
        "Blinker App: Error Subscribing to HK request, RC = 0x%08lX"
    else pure status
  let status ←
    if status = cfeSuccess then
      subscribe a.subscribeCmd (cmdMid p) subCmdErrEid
        "Blinker App: Error Subscribing to Commands, RC = 0x%08lX"
    else pure status
  let status ←
    if status = cfeSuccess then
      subscribe a.subscribeBlinkCmd (blinkCmdMid p) subCmdErrEid
        "Blinker App: Error Subscribing to Commands, RC = 0x%08lX"
    else pure status
  if status = cfeSuccess then
    let status ← cfeTblRegister a "ExampleTable" exampleTableT.size p.tblOptDefault
      (tblValidationFunc p.byteOrder)
    let status ←
      if status ≠ cfeSuccess then do
        cfeEvsSendEvent tableRegErrEid .error
          "Blinker App: Error Registering Example Table, RC = 0x%08lX" [.ulong status]
        pure status
      else do
        let handle ← gets (·.tblHandles.get exampleTable)
        cfeTblLoad a handle p.tblSrcFile tableFile
    let versionString ← cfeConfigGetVersionString a
    cfeEvsSendEvent initInfEid .information "Blinker App Initialized.%s" [.str versionString]
    return status
  else
    return status

/-! ## Main loop -/

def setRunStatus (runStatus : UInt32) : App p N Unit :=
  modify fun d => { d with runStatus := runStatus }

/-- The call of `BLINKER_APP_TaskPipe` on the buffer that was received. -/
def callTaskPipe (p : Platform) (i : Iteration p) : App p N Unit := do
  emit (.taskPipe i.buffer)
  taskPipe p i.replies i.buffer

/-- The body of the main loop, from the pipe on. -/
def receiveAndProcess (p : Platform) (i : Iteration p) : App p N Unit := do
  emit (.esPerfLogExit perfId)
  let status ← cfeSbReceiveBuffer i
  emit (.esPerfLogEntry perfId)
  if status = cfeSuccess then
    callTaskPipe p i
  else
    cfeEvsSendEvent pipeErrEid .error "BLINKER APP: SB Pipe Read Error, App Will Exit" []
    setRunStatus p.appError

/-- The `while` loop of `BLINKER_APP_Main`, for the iterations given. The result says
whether the loop was left. -/
def mainLoop (p : Platform) : List (Iteration p) → App p N Bool
  | [] => return false
  | i :: later => do
    let running ← cfeEsRunLoop i
    if running = true then
      receiveAndProcess p i
      mainLoop p later
    else
      return true

/-- `BLINKER_APP_Main` (`blinker_app.c:45-103`) -/
def main (p : Platform) (a : InitReplies p) (iterations : List (Iteration p)) : App p N Unit := do
  emit (.esPerfLogEntry perfId)
  let status ← init p a
  if status ≠ cfeSuccess then
    setRunStatus p.appError
  else
    pure ()
  let left ← mainLoop p iterations
  if left = true then
    emit (.esPerfLogExit perfId)
    let runStatus ← gets (·.runStatus)
    emit (.esExitApp runStatus)
  else
    pure ()

end BlinkerApp
