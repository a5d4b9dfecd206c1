import BlinkerApp.Spec.Requests

/-!
# What a message lets an observer see

The trace of every request and of every rejection, in full, and the facets of a
trace that the properties of the app speak about.
-/

namespace BlinkerApp

open CLayout

variable {p : Platform} {N : Nat}

/-! ## Accepted messages -/

/-- The status `BLINKER_APP_ProcessCmd` returns. -/
def processStatus (r : CfeReplies p) : CfeStatus :=
  if r.getAddress < cfeSuccess then r.getAddress else r.releaseAddress

/-- The trace of `BLINKER_APP_ProcessCmd` on the table `handle`. -/
def processTrace (r : CfeReplies p) (handle : TblHandle) : List (Obs p N) :=
  .tblGetAddress handle r.getAddress ::
  if r.getAddress < cfeSuccess then
    [.esWriteToSysLog "Blinker App: Fail to get table address: 0x%08lx" [.ulong r.getAddress]]
  else
    [.tableRead r.tableInt1 r.tableInt2,
     .esWriteToSysLog "Blinker App: Example Table Value 1: %d  Value 2: %d"
       [.int r.tableInt1.toNat, .int r.tableInt2.toNat],
     .tblGetInfo "BLINKER_APP.ExampleTable" r.getInfo,
     if r.getInfo ≠ cfeSuccess then
       .esWriteToSysLog "Blinker App: Error Getting Example Table Info" []
     else
       .esWriteToSysLog "Blinker App: CRC: 0x%08lX\n\n" [.int r.crc.toNat],
     .tblReleaseAddress handle r.releaseAddress] ++
    if r.releaseAddress ≠ cfeSuccess then
      [.esWriteToSysLog "Blinker App: Fail to release table address: 0x%08lx"
        [.ulong r.releaseAddress]]
    else []

/-- The cells a tick touches for one blinker. -/
def tickCells (d : Data p N) (i : Nat) : List (Obs p N) :=
  .cellAccess .blinkerStatuses i ::
    if d.blinkerStatuses.getD i 0 ≠ 0 then
      [.cellAccess .blinkerCounts i, .cellAccess .blinkerCounts i]
    else []

/-- What a handler that carries out a request does before its event. -/
def actionTrace (p : Platform) (r : CfeReplies p) (d : Data p N) : Request N → List (Obs p N)
  | .sendHk =>
      [.sbTimeStampMsg, .sbTransmitMsg (d.refreshHk r) true,
       .tblManage (d.tblHandles.get exampleTable)]
  | .blink => (List.range N).flatMap (tickCells d)
  | .noop | .resetCounters => []
  | .process => processTrace r (d.tblHandles.get exampleTable)
  | .displayParam => [.payloadRead (valU32Offset p) 4, .payloadRead (valI16Offset p) 2]
  | .resetAll => (List.range (loopBound N)).map (.cellAccess .blinkerCounts ·)
  | .enableAll | .disableAll => (List.range (loopBound N)).map (.cellAccess .blinkerStatuses ·)
  | .resetSpec k | .reportSpec k =>
      [.payloadRead (blinkerNumberOffset p) 2, .cellAccess .blinkerCounts k]
  | .enableSpec k | .disableSpec k =>
      [.payloadRead (blinkerNumberOffset p) 2, .cellAccess .blinkerStatuses k]
  | .swapCounts a b =>
      [.payloadRead (blinkerNumber1Offset p) 2, .payloadRead (blinkerNumber2Offset p) 2,
       .cellAccess .blinkerCounts a, .cellAccess .blinkerCounts b,
       .cellAccess .blinkerCounts a, .cellAccess .blinkerCounts b,
       .cellAccess .blinkerCounts a, .cellAccess .blinkerCounts b]

/-- The event of a blinker command. -/
def blinkerEvent (spec : String) (args : List Arg) : Event :=
  ⟨reportSpecBlinkerInfEid, .information, spec, args⟩

/-- The event with which a handler ends. -/
def requestEvent (p : Platform) (m : SbBuffer) (d : Data p N) : Request N → Option Event
  | .sendHk | .blink | .process => none
  | .noop => some ⟨noopInfEid, .information, "BLINKER: NOOP command %s", [.str version]⟩
  | .resetCounters => some ⟨resetInfEid, .information, "BLINKER: RESET command", []⟩
  | .displayParam => some ⟨valueInfEid, .information,
      "BLINKER_APP: ValU32=%lu, ValI16=%d, ValStr=%s",
      [.int (valU32 p m).toNat, .int (valI16 p m).toInt, .msgStr (valStrOffset p)]⟩
  | .resetAll => some (blinkerEvent "BLINKER_APP: All blinkers reset" [])
  | .enableAll => some (blinkerEvent "BLINKER_APP: All blinkers enabled" [])
  | .disableAll => some (blinkerEvent "BLINKER_APP: All blinkers disabled" [])
  | .resetSpec k => some (blinkerEvent "BLINKER_APP: Blinker #%d count RESET" [.int k])
  | .reportSpec k => some (blinkerEvent "BLINKER_APP: Blinker #%d = %d counts"
      [.int k, .int (d.blinkerCounts.get k).toNat])
  | .enableSpec k => some (blinkerEvent "BLINKER_APP: Blinker #%d enabled" [.int k])
  | .disableSpec k => some (blinkerEvent "BLINKER_APP: Blinker #%d disabled" [.int k])
  | .swapCounts a b => some (blinkerEvent
      "BLINKER_APP: Blinker #%d and #%d swapped values (%d <-> %d)"
      [.int a, .int b, .int (d.blinkerCounts.get b).toNat, .int (d.blinkerCounts.get a).toNat])

/-- The trace of a handler that carries out a request. -/
def handlerTrace (p : Platform) (r : CfeReplies p) (m : SbBuffer) (d : Data p N) (req : Request N) :
    List (Obs p N) :=
  actionTrace p r d req ++ (requestEvent p m d req).toList.map .evsSendEvent

/-- The status the handler of a request returns. -/
def commandStatus (r : CfeReplies p) : Request N → CfeStatus
  | .process => processStatus r
  | _ => cfeSuccess

/-- `BLINKER_APP_Blink` is a `void` function. -/
def handlerStatus (r : CfeReplies p) : Request N → Option CfeStatus
  | .blink => none
  | req => some (commandStatus r req)

/-- The trace of an accepted message. -/
def requestTrace (p : Platform) (r : CfeReplies p) (m : SbBuffer) (d : Data p N) (req : Request N) :
    List (Obs p N) :=
  handlerTrace p r m d req ++ [.handled req.handler (handlerStatus r req)]

/-! ## Rejected messages -/

/-- Why a message is not carried out. -/
inductive Rejection where
  | unknownMid
  | unknownCode
  | wrongLength (expected : Nat)
  | outOfRange (handler : Handler)
  deriving DecidableEq

/-- The reason a message is not carried out, for a message that is not accepted. -/
def rejectionOf (p : Platform) (m : SbBuffer) : Rejection :=
  if m.msgId = cmdMid p then
    match commandOf m.fcnCode with
    | none => .unknownCode
    | some h => if m.size = (structOf p h).size then .outOfRange h
        else .wrongLength (structOf p h).size
  else .unknownMid

/-- Only a wrong length is counted. -/
def Rejection.effect (d : Data p N) : Rejection → Data p N
  | .wrongLength _ => { d with errCounter := d.errCounter + 1 }
  | _ => d

/-- The error event of a rejection. -/
def Rejection.event (p : Platform) (N : Nat) (m : SbBuffer) : Rejection → Event
  | .unknownMid => ⟨midErrEid, .error, "BLINKER: invalid command packet,MID = 0x%x",
      [.int m.msgId.toNat]⟩
  | .unknownCode => ⟨ccErrEid, .error, "Invalid ground command code: CC = %d",
      [.int m.fcnCode.toNat]⟩
  | .wrongLength expected => ⟨cmdLenErrEid, .error,
      "Invalid Msg length: ID = 0x%X,  CC = %u, Len = %u, Expected = %u",
      [.int m.msgId.toNat, .int m.fcnCode.toNat, unsignedInt m.size, unsignedInt expected]⟩
  | .outOfRange .swapCounts => ⟨ccErrEid, .error,
      "BLINKER_APP: User provided Blinkers #%d and #%d which exceeds the blinkers being tracked (%d)",
      [.int (blinkerNumber1 p m).toNat, .int (blinkerNumber2 p m).toNat, .int N]⟩
  | .outOfRange _ => ⟨ccErrEid, .error,
      "BLINKER_APP: User provided Blinker #%d which exceeds the blinkers being tracked (%d)",
      [.int (blinkerNumber p m).toNat, .int N]⟩

/-- The payload bytes a rejection reads before it is decided. -/
def Rejection.reads (p : Platform) : Rejection → List (Obs p N)
  | .outOfRange .swapCounts =>
      [.payloadRead (blinkerNumber1Offset p) 2, .payloadRead (blinkerNumber2Offset p) 2]
  | .outOfRange _ => [.payloadRead (blinkerNumberOffset p) 2]
  | _ => []

/-- A handler that rejects a number was called, and returned `-1`. -/
def Rejection.handled : Rejection → List (Obs p N)
  | .outOfRange h => [.handled h (some (-1))]
  | _ => []

/-- The trace of a rejection. -/
def Rejection.trace (p : Platform) (m : SbBuffer) (why : Rejection) : List (Obs p N) :=
  why.reads p ++ .evsSendEvent (why.event p N m) :: why.handled

/-! ## Facets of a trace -/

def Obs.event? : Obs p N → Option Event
  | .evsSendEvent event => some event
  | _ => none

def Obs.errorEvent? (e : Obs p N) : Option Event := e.event?.filter (·.type = .error)

def Obs.handled? : Obs p N → Option (Handler × Option CfeStatus)
  | .handled handler status => some (handler, status)
  | _ => none

def Obs.transmitted? : Obs p N → Option (HkTlm p N)
  | .sbTransmitMsg packet _ => some packet
  | _ => none

/-- A call to the table services. -/
def Obs.isTableCall : Obs p N → Bool
  | .tblRegister .. | .tblLoad .. | .tblManage _ | .tblGetAddress .. | .tblGetInfo ..
  | .tblReleaseAddress .. => true
  | _ => false

/-- No array cell outside the arrays is touched. -/
def Obs.CellInRange : Obs p N → Prop
  | .cellAccess _ index => index < N
  | _ => True

end BlinkerApp
