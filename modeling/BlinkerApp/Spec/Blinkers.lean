import Mathlib.Data.UInt
import BlinkerApp.Misc.CellBank
import BlinkerApp.Spec.Requests

/-!
# The blinkers as a bank of counters

What the app is for: each blinker has a counter and a switch, ticks count the
blinkers that are on, and the commands reset, switch and swap them.
-/

namespace BlinkerApp

variable {p : Platform} {N : Nat}

/-- The counters and switches of the app's data. -/
def Data.bank (d : Data p N) : Bank (Fin N) UInt16 where
  count k := d.blinkerCounts.get k
  enabled k := decide (d.blinkerStatuses.get k ≠ 0)

/-- The two states have the same counts and statuses. -/
def SameBlinkers (d d' : Data p N) : Prop :=
  d.blinkerCounts = d'.blinkerCounts ∧ d.blinkerStatuses = d'.blinkerStatuses

/-- What a request does to the blinkers. -/
def Request.bankOp : Request N → BankOp (Fin N)
  | .blink => .tick
  | .resetAll => .reset {k | k.val < loopBound N}
  | .enableAll => .switch {k | k.val < loopBound N} true
  | .disableAll => .switch {k | k.val < loopBound N} false
  | .resetSpec k => .reset {k}
  | .enableSpec k => .switch {k} true
  | .disableSpec k => .switch {k} false
  | .swapCounts a b => .swap a b
  | .sendHk | .noop | .resetCounters | .process | .displayParam | .reportSpec _ => .idle

/-- What a message does to the blinkers. -/
def bankOp (p : Platform) (N : Nat) (m : SbBuffer) : BankOp (Fin N) :=
  ((parse p N m).map Request.bankOp).getD .idle

/-! ## The meaning of the counters

What a status and a counter stand for after a sequence of messages that starts with
all of them zero, in terms of the messages alone. -/

section Meaning

variable (p : Platform)

/-- The request of message `t`. -/
def requestAt (N : Nat) (inputs : List (Input p)) (t : Nat) : Option (Request N) :=
  inputs[t]?.bind fun i => parse p N i.buffer

/-- One of the requests for all blinkers. -/
def Request.isAll : Request N → Bool
  | .resetAll | .enableAll | .disableAll => true
  | _ => false

/-- The status a request gives to the one blinker it names. -/
def Request.specStatus (k : Fin N) : Request N → Option UInt8
  | .enableSpec j => if j = k then some 1 else none
  | .disableSpec j => if j = k then some 0 else none
  | _ => none

/-- The status the last request that names `k` gave it, and zero without one. -/
def lastStatus (inputs : List (Input p)) (k : Fin N) : UInt8 :=
  (inputs.reverse.findSome? fun i => (parse p N i.buffer).bind (Request.specStatus k)).getD 0

/-- Carry `k` backwards through one message. -/
def backThrough (i : Input p) (k : Fin N) : Fin N :=
  match parse p N i.buffer with
  | some (.swapCounts a b) => Equiv.swap a b k
  | _ => k

/-- Carry `k` backwards through the swaps of the messages `later`. -/
def carryBack (later : List (Input p)) (k : Fin N) : Fin N := later.foldr (backThrough p) k

/-- Message `t` is a tick at which the blinker that the counter now at `k` belonged to
was enabled, and no later reset hit that counter. -/
def TickCounts (inputs : List (Input p)) (k : Fin N) (t : Nat) : Prop :=
  requestAt p N inputs t = some .blink ∧
    lastStatus p (inputs.take t) (carryBack p (inputs.drop (t + 1)) k) = 1 ∧
    ∀ r < inputs.length, t < r →
      requestAt p N inputs r ≠ some (.resetSpec (carryBack p (inputs.drop (r + 1)) k))

instance (inputs : List (Input p)) (k : Fin N) : DecidablePred (TickCounts p inputs k) :=
  fun _ => inferInstanceAs (Decidable (_ ∧ _ ∧ _))

end Meaning

end BlinkerApp
