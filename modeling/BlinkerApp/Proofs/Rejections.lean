import BlinkerApp.Misc.Unseen
import BlinkerApp.Proofs.Dependence

/-!
# What rejected messages can influence

Anyone who can put messages on the bus can send the app messages it rejects: unknown ids and
codes, wrong lengths, numbers of blinkers there are not. All they get is their error events and
the error counter.
-/

namespace BlinkerApp

open Traced

variable {N : Nat} (p : Platform)

variable (N) in
/-- The message is rejected. -/
def isRejected (i : Input p) : Bool := (parse p N i.buffer).isNone

/-- A packet without the error counter. -/
def HkTlm.uncharged {p : Platform} (packet : HkTlm p N) : HkTlm p N :=
  { packet with payload := { packet.payload with commandErrorCounter := 0 } }

/-- The data without the error counter. -/
def Data.uncharged {p : Platform} (d : Data p N) : Data p N :=
    { d with errCounter := 0, hkTlm := d.hkTlm.uncharged }

/-- A call to the cFE other than an error event, without the error counter. -/
def Obs.uncharged? {p : Platform} : Obs p N → Option (Obs p N)
  | .evsSendEvent event => if event.type = .error then none else some (.evsSendEvent event)
  | .sbTransmitMsg packet incrementSequenceCount =>
      some (.sbTransmitMsg packet.uncharged incrementSequenceCount)
  | e => e.shown?

/-! ## One message -/

/-- The error counter aside, a message treats states alike that agree but for the error
counter. -/
theorem handle_uncharged (i : Input p) (d : Data p N) :
    (handle N p i d).state.uncharged = (handle N p i d.uncharged).state.uncharged := by
  cases found : parse p N i.buffer with
  | some req =>
    rw [handle_of_accepted p found, handle_of_accepted p found]
    cases req <;> rfl
  | none =>
    rw [handle_of_rejected p found, handle_of_rejected p found]
    cases rejectionOf p i.buffer <;> rfl

theorem handle_shows_uncharged (i : Input p) (d : Data p N) :
    (handle N p i d).trace.filterMap Obs.uncharged? =
      (handle N p i d.uncharged).trace.filterMap Obs.uncharged? := by
  cases found : parse p N i.buffer with
  | some req =>
    rw [handle_of_accepted p found, handle_of_accepted p found]
    cases req <;> rfl
  | none => rw [handle_of_rejected p found, handle_of_rejected p found]

theorem handle_rejected_uncharged {i : Input p} (rejected : isRejected N p i = true)
    (d : Data p N) :
    (handle N p i d).state.uncharged = d.uncharged := by
  rw [handle_of_rejected p (Option.isNone_iff_eq_none.mp rejected)]
  cases rejectionOf p i.buffer <;> rfl

theorem handle_rejected_shows {i : Input p} (rejected : isRejected N p i = true) (d : Data p N) :
    (handle N p i d).trace.filterMap Obs.uncharged? = [] := by
  rw [handle_of_rejected p (Option.isNone_iff_eq_none.mp rejected)]
  cases rejectionOf p i.buffer with
  | outOfRange h => cases h <;> rfl
  | _ => rfl

/-- The error counter and the error events apart, rejected messages do nothing. -/
theorem rejected_unseen :
    Unseen (handle N p) Data.uncharged Obs.uncharged? (isRejected N p) where
  moves i d d' same := by rw [handle_uncharged, same, ← handle_uncharged]
  shows i d d' same := by rw [handle_shows_uncharged, same, ← handle_shows_uncharged]
  still _ rejected d := handle_rejected_uncharged p rejected d
  silent _ rejected d := handle_rejected_shows p rejected d

/-! ## Runs -/

/-- The error events of a message. -/
theorem handle_errorEvents (i : Input p) (d : Data p N) :
    (handle N p i d).trace.filterMap Obs.errorEvent? =
      if isRejected N p i then [(rejectionOf p i.buffer).event p N i.buffer] else [] := by
  unfold isRejected
  cases found : parse p N i.buffer with
  | some req =>
    rw [handle_of_accepted p found]
    exact errorEvents_requestTrace p i.replies i.buffer d req
  | none =>
    rw [handle_of_rejected p found]
    exact errorEvents_rejection p i.buffer (rejectionOf p i.buffer)

theorem errorEvents_run (inputs : List (Input p)) (d : Data p N) :
    (runTaskPipe p inputs d).trace.filterMap Obs.errorEvent? =
      (inputs.filter (isRejected N p)).map fun i =>
        (rejectionOf p i.buffer).event p N i.buffer := by
  induction inputs generalizing d with
  | nil => rfl
  | cons i inputs ih =>
    rw [runTaskPipe_cons, Outcome.prepend_trace, List.filterMap_append]
    show (handle N p i d).trace.filterMap Obs.errorEvent? ++ _ = _
    rw [handle_errorEvents, ih, List.filter_cons]
    cases isRejected N p i <;> rfl

/-- A run and the same messages without the rejected ones leave the same data and make the same
calls, the error counter apart, but for one error event for each rejected message, in order, that
tells of this message alone. -/
theorem rejections_only_report (inputs : List (Input p)) (d : Data p N) :
    let o := runTaskPipe p inputs d
    let quiet := runTaskPipe p (inputs.filter (!isRejected N p ·)) d
    o.state.uncharged = quiet.state.uncharged ∧
      o.trace.filterMap Obs.uncharged? = quiet.trace.filterMap Obs.uncharged? ∧
      o.trace.filterMap Obs.errorEvent? = (inputs.filter (isRejected N p)).map fun i =>
        (rejectionOf p i.buffer).event p N i.buffer := by
  intro o quiet
  obtain ⟨state, calls⟩ := (rejected_unseen p).run inputs (rfl : d.uncharged = d.uncharged)
  exact ⟨state, calls, errorEvents_run p inputs d⟩

end BlinkerApp
