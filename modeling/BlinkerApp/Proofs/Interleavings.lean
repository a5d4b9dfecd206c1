import BlinkerApp.Proofs.Dependence

/-!
# Interleavings of the senders

The ground, the scheduler and the tick feed one pipe. Two runs over the same messages in which
every two messages that depend on each other come in the same order end in the same state, and
a sender whose own messages come in the same order is answered the same.
-/

namespace BlinkerApp

open Traced

variable {N : Nat} {p : Platform}

/-- Orders of the same messages that agree on the messages that depend on each other leave the
same data, and whoever watches a class of messages that comes in the same order sees the same
calls for each of them. -/
theorem interleavings_agree {inputs₁ inputs₂ : List (Input p)}
    (same : SameOrder (Depends N p) inputs₁ inputs₂) (d : Data p N) :
    (runTaskPipe p inputs₁ d).state = (runTaskPipe p inputs₂ d).state ∧
      ∀ A : Input p → Bool, inputs₁.filter A = inputs₂.filter A →
        answers (handle N p) Obs.shown? A inputs₁ d =
          answers (handle N p) Obs.shown? A inputs₂ d :=
  interleavings (fun _ _ calm => independent_of_not_depends calm) same d

/-- A no-op that comes before or after a tick. -/
theorem interleavings_agree_noop :
    let p := defaultPlatform
    let enable : Input p := ⟨default, groundCommand p enableSpecBlinkerCc [0, 0, 0, 0]⟩
    let noop : Input p := ⟨default, groundCommand p noopCc []⟩
    let tick : Input p := ⟨default, bareMessage p (blinkCmdMid p)⟩
    let report : Input p := ⟨default, groundCommand p reportSpecBlinkerCc [0, 0, 0, 0]⟩
    let d : Data p 1 := zeroData p
    (runTaskPipe p [enable, noop, tick, report] d).state =
      (runTaskPipe p [enable, tick, noop, report] d).state := by
  intro p enable noop tick report d
  have noopFound : parse p 1 noop.buffer = some .noop := by decide
  have tickFound : parse p 1 tick.buffer = some .blink := by decide
  have calm : ¬ Depends 1 p noop tick := by
    simp [Depends, bankOp, reported, changed, bookingOf, noopFound, tickFound, Bank.Clash,
      Bank.changes, Request.bankOp, Request.reported, Booking.Clash]
  have same : SameOrder (Depends 1 p) [enable, noop, tick, report] [enable, tick, noop, report] :=
    sameOrder_swap (fun i j (depends : Depends 1 p i j) => depends.symm) calm [enable] [report]
  exact (interleavings_agree same d).1

end BlinkerApp
