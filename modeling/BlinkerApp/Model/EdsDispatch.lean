import BlinkerApp.Model.Dispatch

/-!
# The table-driven dispatcher (`blinker_app_eds_dispatch.c`, `blinker_app.xml`)

In a build from the electronic data sheet, `BLINKER_APP_TaskPipe` leaves the choice of the
handler to a generated function. That function is not part of this repository: it is a
parameter, an `EdsDispatcher`, and `EdsDispatcher.Sound` is what is assumed of it.

The data sheet declares no `SpecBlinker`, `SwapBlinkers` or `NoArgs`, and its `HkTlm_Payload`
has no arrays. For the types generated from it the structs and the packet of the plain build
stand in here.
-/

namespace BlinkerApp

open Traced CLayout CType

variable {p : Platform} {N : Nat}

/-! ## The data sheet -/

/-- The interfaces of type `CFE_SB/Telecommand` -/
inductive EdsInterface where
  | cmd | sendHk
  deriving DecidableEq

/-- The interface whose `TopicId` a message has. -/
def edsInterfaceOf (p : Platform) (m : SbBuffer) : Option EdsInterface :=
  if m.msgId = p.cmdTopicidToMidv cmdTopicid then some .cmd
  else if m.msgId = p.cmdTopicidToMidv sendHkTopicid then some .sendHk
  else none

/-- The containers that are a command. -/
inductive EdsCommand where
  | noopCmd | resetCountersCmd | processCmd | displayParamCmd
  | sendHkCmd
  deriving DecidableEq

/-- The `ValueConstraint` on `Sec.FunctionCode` -/
def EdsCommand.functionCode : EdsCommand → Option UInt16
  | .noopCmd => some 0
  | .resetCountersCmd => some 1
  | .processCmd => some 2
  | .displayParamCmd => some 3
  | .sendHkCmd => none

/-- The container `DisplayParam_Payload`: `ValU32`, `ValI16`, `ValStr`. -/
def edsDisplayParamPayload : CType := struct [uint32, int16, array uint8 stringValLen]

/-- The `EntryList` of a command -/
def EdsCommand.entries : EdsCommand → List CType
  | .displayParamCmd => [edsDisplayParamPayload]
  | _ => []

/-- The size of a command. Its `baseType` is, in the end, `CFE_HDR/CommandHeader`, from which
`CFE_MSG_CommandHeader_t` is generated. -/
def EdsCommand.size (p : Platform) (c : EdsCommand) : Nat :=
  (struct (p.commandHeader :: c.entries)).size

/-- The containers of the `TelecommandDataType` of an interface. -/
def EdsInterface.commands : EdsInterface → List EdsCommand
  | .cmd => [.noopCmd, .resetCountersCmd, .processCmd, .displayParamCmd]
  | .sendHk => [.sendHkCmd]

/-- The function code satisfies the constraint of a command, if it has one. -/
def EdsCommand.admits (code : UInt16) (c : EdsCommand) : Bool :=
  c.functionCode.all (· == code)

/-- The command of the data sheet that the topic and the function code of a message name. -/
def edsCommandOf (p : Platform) (m : SbBuffer) : Option EdsCommand :=
  (edsInterfaceOf p m).bind fun i => i.commands.find? (EdsCommand.admits m.fcnCode)

/-! ## The dispatch table -/

/-- A handler as the dispatch table holds it. -/
abbrev Indication (p : Platform) (N : Nat) := SbBuffer → App p N CfeStatus

/-- The member `CMD` of the dispatch table -/
structure CmdIndications (p : Platform) (N : Nat) where
  noopCmdIndication : Indication p N
  resetCountersCmdIndication : Indication p N
  processCmdIndication : Indication p N
  displayParamCmdIndication : Indication p N

/-- `EdsDispatchTable_BLINKER_APP_Application_CFE_SB_Telecommand_t` -/
structure EdsDispatchTable (p : Platform) (N : Nat) where
  cmd : CmdIndications p N
  sendHk : Indication p N

/-- The entry for a command. -/
def EdsDispatchTable.entry (table : EdsDispatchTable p N) : EdsCommand → Indication p N
  | .noopCmd => table.cmd.noopCmdIndication
  | .resetCountersCmd => table.cmd.resetCountersCmdIndication
  | .processCmd => table.cmd.processCmdIndication
  | .displayParamCmd => table.cmd.displayParamCmdIndication
  | .sendHkCmd => table.sendHk

/-- `BLINKER_TC_DISPATCH_TABLE` (`blinker_app_eds_dispatch.c:40-45`) -/
def blinkerTcDispatchTable (p : Platform) (r : CfeReplies p) : EdsDispatchTable p N where
  cmd :=
    { noopCmdIndication := fun _ => noopCmd
      resetCountersCmdIndication := fun _ => resetCountersCmd
      processCmdIndication := fun _ => processCmd r
      displayParamCmdIndication := fun m => displayParamCmd p m }
  sendHk := fun _ => sendHkCmd r

/-! ## The generated function -/

/-- `EdsDispatch_BLINKER_APP_Application_Telecommand`, and what it returns after a handler
that returned an error. -/
structure EdsDispatcher (p : Platform) (N : Nat) where
  dispatch : EdsDispatchTable p N → SbBuffer → App p N CfeStatus
  afterError : CfeStatus → CfeStatus

/-- What is assumed of the generated function. Nothing is assumed of what it returns after
an error of a handler. -/
structure EdsDispatcher.Sound (p : Platform) (e : EdsDispatcher p N) : Prop where
  /-- No interface has the topic of the message. -/
  unknownTopic : ∀ table m d, edsInterfaceOf p m = none →
    e.dispatch table m d = ⟨p.unknownMsgId, d, []⟩
  /-- No command of the interface has the function code. -/
  noEntry : ∀ table m d, (edsInterfaceOf p m).isSome → edsCommandOf p m = none →
    ∃ error, error ≠ cfeSuccess ∧ e.dispatch table m d = ⟨error, d, []⟩
  /-- The length of the message is not that of the command. -/
  wrongLength : ∀ table m d c, edsCommandOf p m = some c → m.size ≠ c.size p →
    e.dispatch table m d = ⟨p.wrongMsgLength, d, []⟩
  /-- The entry of the table is called. -/
  called : ∀ table m d c, edsCommandOf p m = some c → m.size = c.size p →
    e.dispatch table m d =
      let outcome := table.entry c m d
      ⟨if outcome.value = cfeSuccess then cfeSuccess else e.afterError outcome.value,
        outcome.state, outcome.trace⟩

/-! ## The dispatcher -/

/-- `BLINKER_APP_TaskPipe` (`blinker_app_eds_dispatch.c:54-87`) -/
def edsTaskPipe (p : Platform) (e : EdsDispatcher p N) (r : CfeReplies p) (m : SbBuffer) :
    App p N Unit := do
  let status ← e.dispatch (blinkerTcDispatchTable p r) m
  if status ≠ cfeSuccess then
    modify fun d => { d with errCounter := d.errCounter + 1 }
    if status = p.unknownMsgId then
      cfeEvsSendEvent midErrEid .error "BLINKER: invalid command packet,MID = 0x%x"
        [.int m.msgId.toNat]
    else if status = p.wrongMsgLength then
      cfeEvsSendEvent cmdLenErrEid .error "Invalid Msg length: ID = 0x%X,  CC = %u, Len = %u"
        [.int m.msgId.toNat, .int m.fcnCode.toNat, unsignedInt m.size]
    else
      cfeEvsSendEvent ccErrEid .error "BLINKER: Invalid ground command code: CC = %d"
        [.int m.fcnCode.toNat]
  else
    pure ()

/-- The table-driven dispatcher over the messages of a run. -/
def runEdsTaskPipe (p : Platform) (e : EdsDispatcher p N) (inputs : List (Input p)) :
    App p N Unit :=
  each (fun i => edsTaskPipe p e i.replies i.buffer) inputs

end BlinkerApp
