import BlinkerApp.Misc.Traced
import BlinkerApp.Model.Messages

/-!
# The state of the app and its calls to the cFE

`Data` is the app's only state. A procedure of the app is a `Traced` program over
it that records every call it makes to the cFE with the status it got back, and
besides those calls the facts about its own execution that a C program does not
show: which handler returned what, which array cells it touched, and which bytes
of the message it read.
-/

namespace BlinkerApp

open Traced

/-- `BLINKER_APP_HkTlm_Payload_t` -/
structure HkTlmPayload (N : Nat) where
  commandErrorCounter : UInt16
  commandCounter : UInt16
  blinkerStatus : Vector UInt8 N
  blinkerCount : Vector UInt32 N

/-- `CFE_MSG_TelemetryHeader_t` -/
abbrev TelemetryHeader (p : Platform) := Vector UInt8 p.telemetryHeader.size

/-- `BLINKER_APP_HkTlm_t` -/
structure HkTlm (p : Platform) (N : Nat) where
  telemetryHeader : TelemetryHeader p
  payload : HkTlmPayload N

/-- `BLINKER_APP_Data_t`, for `N = BLINKER_APP_TOTAL_BLINKERS`. -/
@[ext] structure Data (p : Platform) (N : Nat) where
  cmdCounter : UInt8
  errCounter : UInt8
  hkTlm : HkTlm p N
  runStatus : UInt32
  commandPipe : PipeId
  blinkerPipe : PipeId
  pipeName : List UInt8
  pipeDepth : UInt16
  tblHandles : Vector TblHandle numberOfTables
  blinkerCounts : Vector UInt16 N
  blinkerStatuses : Vector UInt8 N

/-! ## Observations -/

/-- `CFE_EVS_EventType_*`, those the app uses. -/
inductive EventType where
  | information
  | error
  deriving DecidableEq, Repr

/-- An argument of a format string: an integer, a status cast to `unsigned long`,
a string of the program, or a pointer to the string at an offset of the message. -/
inductive Arg where
  | int (value : Int)
  | ulong (status : CfeStatus)
  | str (text : String)
  | msgStr (offset : Nat)
  deriving DecidableEq

/-- An event as passed to `CFE_EVS_SendEvent`. -/
structure Event where
  id : UInt16
  type : EventType
  spec : String
  args : List Arg
  deriving DecidableEq

/-- The procedures that carry out a message. -/
inductive Handler where
  | sendHk | blink
  | noop | resetCounters | process | displayParam
  | resetAll | enableAll | disableAll
  | resetSpec | reportSpec | enableSpec | disableSpec
  | swapCounts
  deriving DecidableEq, Repr

/-- The arrays of `BLINKER_APP_Data` that are indexed by a blinker number. -/
inductive BlinkerArray where
  | blinkerCounts
  | blinkerStatuses
  deriving DecidableEq, Repr

/-- `CFE_TBL_CallbackFuncPtr_t`: what the table services call on an image. -/
abbrev TblCallbackFunc := (Nat → UInt8) → CfeStatus

inductive Obs (p : Platform) (N : Nat) where
  | evsRegister (status : CfeStatus)
  | evsSendEvent (event : Event)
  | msgInit (msgId : UInt32) (size : Nat)
  | sbCreatePipe (depth : UInt16) (name : List UInt8) (pipe : PipeId) (status : CfeStatus)
  | sbSubscribe (msgId : UInt32) (pipe : PipeId) (status : CfeStatus)
  | sbReceiveBuffer (pipe : PipeId) (status : CfeStatus) (buffer : SbBuffer)
  | sbTimeStampMsg
  | sbTransmitMsg (packet : HkTlm p N) (incrementSequenceCount : Bool)
  | tblRegister (name : String) (size : Nat) (options : UInt16) (validation : TblCallbackFunc)
      (handle : TblHandle) (status : CfeStatus)
  | tblLoad (handle : TblHandle) (srcType : UInt32) (file : String) (status : CfeStatus)
  | tblManage (handle : TblHandle)
  | tblGetAddress (handle : TblHandle) (status : CfeStatus)
  | tblGetInfo (name : String) (status : CfeStatus)
  | tblReleaseAddress (handle : TblHandle) (status : CfeStatus)
  | esWriteToSysLog (spec : String) (args : List Arg)
  | esPerfLogEntry (id : Nat)
  | esPerfLogExit (id : Nat)
  | esRunLoop (runStatus : UInt32) (running : Bool)
  | esExitApp (runStatus : UInt32)
  | configGetVersionString (length : Nat) (name version codename lastOfficial : String)
  -- what a C program does not show
  | taskPipe (m : SbBuffer)
  | handled (handler : Handler) (status : Option CfeStatus)
  | cellAccess (array : BlinkerArray) (index : Nat)
  | payloadRead (offset width : Nat)
  | tableRead (int1 int2 : UInt16)

/-- Procedures of the app. -/
abbrev App (p : Platform) (N : Nat) := Traced (Data p N) (Obs p N)

variable {p : Platform} {N : Nat}

/-! ## Array cells

A C array access is not checked. It is recorded with its index; outside the array
it is given no effect, and reads as zero. -/

def loadCount (i : Nat) : App p N UInt16 := do
  emit (.cellAccess .blinkerCounts i)
  gets fun d => d.blinkerCounts.getD i 0

def storeCount (i : Nat) (count : UInt16) : App p N Unit := do
  emit (.cellAccess .blinkerCounts i)
  modify fun d => { d with blinkerCounts := d.blinkerCounts.setIfInBounds i count }

def loadStatus (i : Nat) : App p N UInt8 := do
  emit (.cellAccess .blinkerStatuses i)
  gets fun d => d.blinkerStatuses.getD i 0

def storeStatus (i : Nat) (status : UInt8) : App p N Unit := do
  emit (.cellAccess .blinkerStatuses i)
  modify fun d => { d with blinkerStatuses := d.blinkerStatuses.setIfInBounds i status }

/-! ## Payload fields

A load of a field of the message is recorded with its bytes. -/

def loadPayload (m : SbBuffer) (offset width : Nat) : App p N Nat := do
  emit (.payloadRead offset width)
  return CLayout.load p.byteOrder m.memory offset width

def loadUint16 (m : SbBuffer) (offset : Nat) : App p N UInt16 := do
  return UInt16.ofNat (← loadPayload m offset 2)

def loadInt16 (m : SbBuffer) (offset : Nat) : App p N Int16 := do
  return Int16.ofNat (← loadPayload m offset 2)

def loadUint32 (m : SbBuffer) (offset : Nat) : App p N UInt32 := do
  return UInt32.ofNat (← loadPayload m offset 4)

/-! ## Calls to the cFE while a message is processed -/

/-- What the cFE does with the calls made while one message is processed. The bus
functions rewrite the header of the packet they are given, and only that. -/
structure CfeReplies (p : Platform) where
  timeStamp : TelemetryHeader p → TelemetryHeader p
  sequenceCount : TelemetryHeader p → TelemetryHeader p
  getAddress : CfeStatus
  tableInt1 : UInt16
  tableInt2 : UInt16
  getInfo : CfeStatus
  crc : UInt32
  releaseAddress : CfeStatus

/-- Every call succeeds, and the bus leaves the header alone. -/
instance : Inhabited (CfeReplies p) := ⟨id, id, cfeSuccess, 0, 0, cfeSuccess, 0, cfeSuccess⟩

def cfeEvsSendEvent (id : UInt16) (type : EventType) (spec : String) (args : List Arg) :
    App p N Unit :=
  emit (.evsSendEvent ⟨id, type, spec, args⟩)

def cfeEsWriteToSysLog (spec : String) (args : List Arg) : App p N Unit :=
  emit (.esWriteToSysLog spec args)

/-- Write the header of the housekeeping packet. -/
def setTelemetryHeader (f : TelemetryHeader p → TelemetryHeader p) : App p N Unit :=
  modify fun d =>
    { d with hkTlm := { d.hkTlm with telemetryHeader := f d.hkTlm.telemetryHeader } }

def cfeSbTimeStampMsg (r : CfeReplies p) : App p N Unit := do
  setTelemetryHeader r.timeStamp
  emit .sbTimeStampMsg

/-- The packet goes out with the sequence count the bus gave it. That the bus writes the count
into the packet it is handed, and not into a copy, is assumed of it. -/
def cfeSbTransmitMsg (r : CfeReplies p) (incrementSequenceCount : Bool) : App p N Unit := do
  setTelemetryHeader r.sequenceCount
  let packet ← gets (·.hkTlm)
  emit (.sbTransmitMsg packet incrementSequenceCount)

def cfeTblManage (handle : TblHandle) : App p N Unit := emit (.tblManage handle)

def cfeTblGetAddress (r : CfeReplies p) (handle : TblHandle) : App p N CfeStatus := do
  emit (.tblGetAddress handle r.getAddress)
  return r.getAddress

def cfeTblGetInfo (r : CfeReplies p) (name : String) : App p N CfeStatus := do
  emit (.tblGetInfo name r.getInfo)
  return r.getInfo

/-- Read the table at the address the cFE gave out. -/
def readTable (r : CfeReplies p) : App p N (UInt16 × UInt16) := do
  emit (.tableRead r.tableInt1 r.tableInt2)
  return (r.tableInt1, r.tableInt2)

def cfeTblReleaseAddress (r : CfeReplies p) (handle : TblHandle) : App p N CfeStatus := do
  emit (.tblReleaseAddress handle r.releaseAddress)
  return r.releaseAddress

end BlinkerApp
