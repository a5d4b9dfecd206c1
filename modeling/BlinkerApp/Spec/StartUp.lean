import BlinkerApp.Model.Main

/-!
# What start-up does

The calls that decide whether the app starts, and the trace and the state that
`BLINKER_APP_Init` leaves, stated without its chain of guards.
-/

namespace BlinkerApp

variable {p : Platform} {N : Nat}

/-! ## The calls of `BLINKER_APP_Init` -/

/-- The calls that decide whether the app starts. -/
inductive Attempt where
  | evsRegister
  | createPipe
  | subscribe (msgId : UInt32)
  | tblRegister
  | tblLoad
  deriving DecidableEq

/-- The calls that decide whether the app starts, in order, with their statuses. -/
def attempts (p : Platform) (a : InitReplies p) : List (Attempt × CfeStatus) :=
  [(.evsRegister, a.evsRegister), (.createPipe, a.createPipe),
   (.subscribe (sendHkMid p), a.subscribeSendHk), (.subscribe (cmdMid p), a.subscribeCmd),
   (.subscribe (blinkCmdMid p), a.subscribeBlinkCmd), (.tblRegister, a.tblRegister),
   (.tblLoad, a.tblLoad)]

/-- The calls up to and including the first one that fails. -/
def upToFirstFailure {α : Type} : List (α × CfeStatus) → List (α × CfeStatus)
  | [] => []
  | call :: later => call :: if call.2 = cfeSuccess then upToFirstFailure later else []

/-- The call an observation is, if it is one of them. -/
def Obs.attempt? : Obs p N → Option (Attempt × CfeStatus)
  | .evsRegister status => some (.evsRegister, status)
  | .sbCreatePipe _ _ _ status => some (.createPipe, status)
  | .sbSubscribe msgId _ status => some (.subscribe msgId, status)
  | .tblRegister _ _ _ _ _ status => some (.tblRegister, status)
  | .tblLoad _ _ _ status => some (.tblLoad, status)
  | _ => none

/-- The pipe name `BLINKER_APP_Init` sets. -/
def initPipeName (p : Platform) : List UInt8 :=
  (strncpy "BLINKER_APP_CMD_PIPE" p.maxApiLen).set (p.maxApiLen - 1) 0

/-- The report of a call that failed. -/
def failureReport (id : UInt16) (spec : String) (status : CfeStatus) : List (Obs p N) :=
  if status = cfeSuccess then [] else [.evsSendEvent ⟨id, .error, spec, [.ulong status]⟩]

/-- A call with what `BLINKER_APP_Init` does about its status. -/
def attemptTrace (p : Platform) (a : InitReplies p) : Attempt × CfeStatus → List (Obs p N)
  | (.evsRegister, status) => .evsRegister status ::
      if status = cfeSuccess then [.msgInit (hkTlmMid p) (hkTlmT p N).size]
      else [.esWriteToSysLog "Blinker App: Error Registering Events, RC = 0x%08lX\n"
        [.ulong status]]
  | (.createPipe, status) => .sbCreatePipe pipeDepth (initPipeName p) a.pipe status ::
      failureReport crPipeErrEid "Blinker App: Error creating SB Command Pipe, RC = 0x%08lX" status
  | (.subscribe msgId, status) => .sbSubscribe msgId a.pipe status ::
      if msgId = sendHkMid p then
        failureReport subHkErrEid "Blinker App: Error Subscribing to HK request, RC = 0x%08lX"
          status
      else
        failureReport subCmdErrEid "Blinker App: Error Subscribing to Commands, RC = 0x%08lX" status
  | (.tblRegister, status) =>
      .tblRegister "ExampleTable" exampleTableT.size p.tblOptDefault (tblValidationFunc p.byteOrder)
        a.tblHandle status ::
      failureReport tableRegErrEid "Blinker App: Error Registering Example Table, RC = 0x%08lX"
        status
  | (.tblLoad, status) => [.tblLoad a.tblHandle p.tblSrcFile tableFile status]

/-- The table registration was reached. -/
def Subscribed (a : InitReplies p) : Prop :=
  a.evsRegister = cfeSuccess ∧ a.createPipe = cfeSuccess ∧ a.subscribeSendHk = cfeSuccess ∧
    a.subscribeCmd = cfeSuccess ∧ a.subscribeBlinkCmd = cfeSuccess

instance (a : InitReplies p) : Decidable (Subscribed a) := inferInstanceAs (Decidable (_ ∧ _))

/-- The announcement. -/
def announcement (a : InitReplies p) : List (Obs p N) :=
  if Subscribed a then
    [.configGetVersionString maxVersionStrLen "Blinker App" version buildCodename lastOfficial,
     .evsSendEvent ⟨initInfEid, .information, "Blinker App Initialized.%s",
       [.str a.versionString]⟩]
  else []

/-- The state `BLINKER_APP_Init` leaves. -/
def initState (p : Platform) (a : InitReplies p) : Data p N :=
  let configured : Data p N :=
    { zeroData p with runStatus := p.appRun, pipeDepth := pipeDepth, pipeName := initPipeName p }
  let piped : Data p N :=
    { configured with
      hkTlm := ⟨a.telemetryHeader, ⟨0, 0, .replicate N 0, .replicate N 0⟩⟩
      commandPipe := a.pipe }
  if Subscribed a then
    { piped with
      tblHandles := piped.tblHandles.set exampleTable a.tblHandle exampleTable.isLt }
  else if a.evsRegister = cfeSuccess then piped
  else configured

end BlinkerApp
