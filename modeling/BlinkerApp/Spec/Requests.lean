import BlinkerApp.Misc.Cells
import BlinkerApp.Model.Dispatch

/-!
# What a message asks for

The grammar of the messages the app is there to carry out, and the effect of each
on the state, stated without the code's control flow. A `Request` is a message that
passed every check: its blinker numbers are below `N` by their type.
-/

namespace BlinkerApp

open CLayout Cells

inductive Request (N : Nat) where
  | sendHk | blink
  | noop | resetCounters | process | displayParam
  | resetAll | enableAll | disableAll
  | resetSpec (k : Fin N) | reportSpec (k : Fin N) | enableSpec (k : Fin N) | disableSpec
    (k : Fin N)
  | swapCounts (a b : Fin N)
  deriving DecidableEq

variable {p : Platform} {N : Nat}

/-- The handler that belongs to a request. -/
def Request.handler : Request N → Handler
  | .sendHk => .sendHk
  | .blink => .blink
  | .noop => .noop
  | .resetCounters => .resetCounters
  | .process => .process
  | .displayParam => .displayParam
  | .resetAll => .resetAll
  | .enableAll => .enableAll
  | .disableAll => .disableAll
  | .resetSpec _ => .resetSpec
  | .reportSpec _ => .reportSpec
  | .enableSpec _ => .enableSpec
  | .disableSpec _ => .disableSpec
  | .swapCounts _ _ => .swapCounts

/-! ## The grammar -/

/-- The commands by function code. -/
def commands : List (UInt16 × Handler) :=
  [(noopCc, .noop), (resetCountersCc, .resetCounters), (processCc, .process),
   (displayParamCc, .displayParam), (resetAllBlinkersCc, .resetAll),
   (resetSpecBlinkerCc, .resetSpec), (reportSpecBlinkerCc, .reportSpec),
   (enableSpecBlinkerCc, .enableSpec), (disableSpecBlinkerCc, .disableSpec),
   (enableAllBlinkersCc, .enableAll), (disableAllBlinkersCc, .disableAll),
   (swapTwoBlinkersCc, .swapCounts)]

def commandOf (code : UInt16) : Option Handler := commands.lookup code

/-- The struct of a command; the other messages have no payload. -/
def structOf (p : Platform) : Handler → CType
  | .resetSpec | .reportSpec | .enableSpec | .disableSpec => specBlinkerT p
  | .swapCounts => swapBlinkersT p
  | .displayParam => displayParamCmdT p
  | _ => noArgsT p

/-- The blinker numbers in the payload of a command. -/
def numbersOf (p : Platform) (m : SbBuffer) : Handler → List UInt16
  | .resetSpec | .reportSpec | .enableSpec | .disableSpec => [blinkerNumber p m]
  | .swapCounts => [blinkerNumber1 p m, blinkerNumber2 p m]
  | _ => []

/-- The handler that belongs to the message id and function code of a message. -/
def handlerOf (p : Platform) (m : SbBuffer) : Option Handler :=
  if m.msgId = blinkCmdMid p then some .blink
  else if m.msgId = sendHkMid p then some .sendHk
  else if m.msgId = cmdMid p then commandOf m.fcnCode
  else none

/-- The message is a ground command with a defined code and the length of its struct. -/
def WellSized (p : Platform) (m : SbBuffer) (h : Handler) : Prop :=
  m.msgId = cmdMid p ∧ commandOf m.fcnCode = some h ∧ m.size = (structOf p h).size

/-- A ground command is accepted when its length is that of its struct and every
blinker number in it is below `N`. -/
def AcceptedCommand (p : Platform) (N : Nat) (m : SbBuffer) : Prop :=
  ∃ h, WellSized p m h ∧ ∀ n ∈ numbersOf p m h, n.toNat < N

/-- The grammar of the messages the app carries out. -/
def Accepted (p : Platform) (N : Nat) (m : SbBuffer) : Prop :=
  m.msgId = blinkCmdMid p ∨ m.msgId = sendHkMid p ∨ AcceptedCommand p N m

/-- A blinker number, if it is in range. -/
def blinkerOf (N : Nat) (n : UInt16) : Option (Fin N) :=
  if h : n.toNat < N then some ⟨n.toNat, h⟩ else none

/-- The request a well-sized command makes. -/
def requestOf (p : Platform) (N : Nat) (m : SbBuffer) : Handler → Option (Request N)
  | .noop => some .noop
  | .resetCounters => some .resetCounters
  | .process => some .process
  | .displayParam => some .displayParam
  | .resetAll => some .resetAll
  | .enableAll => some .enableAll
  | .disableAll => some .disableAll
  | .resetSpec => (blinkerOf N (blinkerNumber p m)).map .resetSpec
  | .reportSpec => (blinkerOf N (blinkerNumber p m)).map .reportSpec
  | .enableSpec => (blinkerOf N (blinkerNumber p m)).map .enableSpec
  | .disableSpec => (blinkerOf N (blinkerNumber p m)).map .disableSpec
  | .swapCounts =>
      (blinkerOf N (blinkerNumber1 p m)).bind fun a =>
        (blinkerOf N (blinkerNumber2 p m)).map fun b => .swapCounts a b
  | .sendHk | .blink => none

/-- The request a message makes, if it is accepted. -/
def parse (p : Platform) (N : Nat) (m : SbBuffer) : Option (Request N) :=
  if m.msgId = blinkCmdMid p then some .blink
  else if m.msgId = sendHkMid p then some .sendHk
  else if m.msgId = cmdMid p then
    (commandOf m.fcnCode).bind fun h =>
      if m.size = (structOf p h).size then requestOf p N m h else none
  else none

/-! ## The effect of a request -/

/-- What the bus makes of the header of a packet that is sent. -/
def CfeReplies.stamp (r : CfeReplies p) (header : TelemetryHeader p) : TelemetryHeader p :=
  r.sequenceCount (r.timeStamp header)

/-- The housekeeping packet with the counters of the state, as the bus sends it. -/
def Data.refreshHk (d : Data p N) (r : CfeReplies p) : HkTlm p N :=
  { telemetryHeader := r.stamp d.hkTlm.telemetryHeader
    payload := { d.hkTlm.payload with
      commandErrorCounter := d.errCounter.toUInt16
      commandCounter := d.cmdCounter.toUInt16 } }

/-- The blinkers the code's loops over all blinkers reach. -/
def loopBound (N : Nat) : Nat := ((N : Int) - 1).toNat

/-- The state after a request has been carried out. -/
def effect (r : CfeReplies p) (d : Data p N) : Request N → Data p N
  | .sendHk => { d with hkTlm := d.refreshHk r }
  | .blink => { d with blinkerCounts := changeBelow d.blinkerCounts N fun k count =>
      if d.blinkerStatuses.get k ≠ 0 then count + 1 else count }
  | .noop => { d with cmdCounter := d.cmdCounter + 1 }
  | .resetCounters => { d with cmdCounter := 0, errCounter := 0 }
  | .resetAll => { d with
      blinkerCounts := changeBelow d.blinkerCounts (loopBound N) fun _ _ => 0 }
  | .enableAll => { d with
      blinkerStatuses := changeBelow d.blinkerStatuses (loopBound N) fun _ _ => 1 }
  | .disableAll => { d with
      blinkerStatuses := changeBelow d.blinkerStatuses (loopBound N) fun _ _ => 0 }
  | .resetSpec k => { d with blinkerCounts := d.blinkerCounts.set k 0 k.isLt }
  | .enableSpec k => { d with blinkerStatuses := d.blinkerStatuses.set k 1 k.isLt }
  | .disableSpec k => { d with blinkerStatuses := d.blinkerStatuses.set k 0 k.isLt }
  | .swapCounts a b => { d with blinkerCounts := d.blinkerCounts.swap a b a.isLt b.isLt }
  | .process | .displayParam | .reportSpec _ => d

end BlinkerApp
