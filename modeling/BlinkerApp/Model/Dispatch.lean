import BlinkerApp.Model.Cmds

/-!
# The hand-written dispatcher (`blinker_app_dispatch.c`)
-/

namespace BlinkerApp

open Traced CLayout

variable {p : Platform} {N : Nat}

/-- The cast `(unsigned int)` of a `size_t` -/
def unsignedInt (n : Nat) : Arg := .int (UInt32.ofNat n).toNat

/-- `BLINKER_APP_VerifyCmdLength` (`blinker_app_dispatch.c:39-67`) -/
def verifyCmdLength (m : SbBuffer) (expectedLength : Nat) : App p N Bool := do
  let actualLength := m.size
  if expectedLength ≠ actualLength then
    cfeEvsSendEvent cmdLenErrEid .error
      "Invalid Msg length: ID = 0x%X,  CC = %u, Len = %u, Expected = %u"
      [.int m.msgId.toNat, .int m.fcnCode.toNat, unsignedInt actualLength,
        unsignedInt expectedLength]
    modify fun d => { d with errCounter := d.errCounter + 1 }
    return false
  else
    return true

/-- `BLINKER_APP_Blink` (`blinker_app_dispatch.c:69-78`) -/
def blink : App p N Unit :=
  each (fun i => do
    let status ← loadStatus i
    if status ≠ 0 then
      let count ← loadCount i
      storeCount i (count + 1)
    else
      pure ()) (List.range N)

/-- The function behind a handler, with the status it returns; `BLINKER_APP_Blink` is a `void`
function. -/
def handlerBody (p : Platform) (r : CfeReplies p) (m : SbBuffer) :
    Handler → App p N (Option CfeStatus)
  | .sendHk => some <$> sendHkCmd r
  | .blink => do
      blink
      return none
  | .noop => some <$> noopCmd
  | .resetCounters => some <$> resetCountersCmd
  | .process => some <$> processCmd r
  | .displayParam => some <$> displayParamCmd p m
  | .resetAll => some <$> resetAllBlinkersCmd
  | .enableAll => some <$> enableAllBlinkersCmd
  | .disableAll => some <$> disableAllBlinkersCmd
  | .resetSpec => some <$> resetSpecBlinkersCmd p m
  | .reportSpec => some <$> reportSpecBlinkersCmd p m
  | .enableSpec => some <$> enableSpecBlinkersCmd p m
  | .disableSpec => some <$> disableSpecBlinkersCmd p m
  | .swapCounts => some <$> swapBlinkerCountsCmd p m

/-- Call a handler; the caller drops its status. -/
def call (p : Platform) (r : CfeReplies p) (m : SbBuffer) (handler : Handler) : App p N Unit := do
  let status ← handlerBody p r m handler
  emit (.handled handler status)

/-- One arm of the `switch` of `BLINKER_APP_ProcessGroundCommand`. -/
def commandArm (p : Platform) (r : CfeReplies p) (m : SbBuffer) (command : CType)
    (handler : Handler) : App p N Unit := do
  let ok ← verifyCmdLength m command.size
  if ok then call p r m handler else pure ()

/-- `BLINKER_APP_ProcessGroundCommand` (`blinker_app_dispatch.c:85-186`) -/
def processGroundCommand (p : Platform) (r : CfeReplies p) (m : SbBuffer) : App p N Unit :=
  match m.fcnCode with
  | noopCc => commandArm p r m (noopCmdT p) .noop
  | resetCountersCc => commandArm p r m (resetCountersCmdT p) .resetCounters
  | processCc => commandArm p r m (processCmdT p) .process
  | displayParamCc => commandArm p r m (displayParamCmdT p) .displayParam
  | resetAllBlinkersCc => commandArm p r m (resetAllBlinkersCmdT p) .resetAll
  | enableAllBlinkersCc => commandArm p r m (enableAllBlinkersCmdT p) .enableAll
  | disableAllBlinkersCc => commandArm p r m (disableAllBlinkersCmdT p) .disableAll
  | resetSpecBlinkerCc => commandArm p r m (resetSpecBlinkersCmdT p) .resetSpec
  | reportSpecBlinkerCc => commandArm p r m (reportSpecBlinkersCmdT p) .reportSpec
  | enableSpecBlinkerCc => commandArm p r m (enableSpecBlinkersCmdT p) .enableSpec
  | disableSpecBlinkerCc => commandArm p r m (disableSpecBlinkersCmdT p) .disableSpec
  | swapTwoBlinkersCc => commandArm p r m (swapBlinkerCountsCmdT p) .swapCounts
  | code =>
      cfeEvsSendEvent ccErrEid .error "Invalid ground command code: CC = %d" [.int code.toNat]

/-- `BLINKER_APP_TaskPipe` (`blinker_app_dispatch.c:195-220`) -/
def taskPipe (p : Platform) (r : CfeReplies p) (m : SbBuffer) : App p N Unit :=
  if m.msgId = cmdMid p then
    processGroundCommand p r m
  else if m.msgId = sendHkMid p then
    call p r m .sendHk
  else if m.msgId = blinkCmdMid p then
    call p r m .blink
  else
    cfeEvsSendEvent midErrEid .error "BLINKER: invalid command packet,MID = 0x%x"
      [.int m.msgId.toNat]

/-- A message the app receives, with what the cFE does while it is processed. -/
structure Input (p : Platform) where
  replies : CfeReplies p
  buffer : SbBuffer

/-- `BLINKER_APP_TaskPipe` over the messages of a run. -/
def runTaskPipe (p : Platform) (inputs : List (Input p)) : App p N Unit :=
  each (fun i => taskPipe p i.replies i.buffer) inputs

end BlinkerApp
