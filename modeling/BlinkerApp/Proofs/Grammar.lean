import BlinkerApp.Proofs.Traces

/-!
# The dispatcher accepts exactly its grammar

A message is carried out exactly when it is in the grammar, and otherwise leaves
nothing but one error event and possibly a count of it.
-/

namespace BlinkerApp

open Traced

variable {N : Nat} (p : Platform) (r : CfeReplies p) (m : SbBuffer) (d : Data p N)

/-- Exactly one handler was called, exactly once, the one that belongs to the message,
and it got past its own range check. -/
def CarriedOut (trace : List (Obs p N)) : Prop :=
  ∃ h status, handlerOf p m = some h ∧ trace.filterMap Obs.handled? = [(h, status)] ∧
    (h.rangeChecked = true → status = some cfeSuccess)

/-- Nothing leaves the app but an event, and no table service is called. -/
def Silent {p : Platform} (trace : List (Obs p N)) : Prop :=
  trace.filterMap Obs.transmitted? = [] ∧ ∀ e ∈ trace, e.isTableCall = false

theorem carriedOut_of_accepted {req : Request N} (found : parse p N m = some req) :
    CarriedOut p m (requestTrace p r m d req) := by
  refine ⟨req.handler, handlerStatus r req, handlerOf_of_parse p m found,
    handled_requestTrace p r m d req, ?_⟩
  intro checked
  cases req <;> first | rfl | cases checked

theorem not_carriedOut_of_rejected (rejected : parse p N m = none) :
    ¬ CarriedOut p m ((rejectionOf p m).trace p m : List (Obs p N)) := by
  rintro ⟨h, status, -, called, past⟩
  rw [handled_rejection] at called
  cases why : rejectionOf p m with
  | outOfRange h' =>
    rw [why] at called
    cases called
    -- the handler was called on a number out of range, so it is one that checks
    have checked := rangeChecked_of_outOfRange p m rejected why
    exact absurd (past checked) (by decide)
  | _ =>
    rw [why] at called
    cases called

theorem silent_rejection (rejected : parse p N m = none) :
    Silent ((rejectionOf p m).trace p m : List (Obs p N)) := by
  constructor
  · apply List.filterMap_eq_nil_iff.mpr
    intro e member
    cases mem_rejection p m rejected member <;> rfl
  · intro e member
    cases mem_rejection p m rejected member <;> rfl

theorem cells_rejection (rejected : parse p N m = none) :
    ∀ e ∈ ((rejectionOf p m).trace p m : List (Obs p N)), e.CellInRange := by
  intro e member
  cases mem_rejection p m rejected member <;> trivial

/-- A rejection changes no field but the error counter. -/
theorem rejection_frame (why : Rejection) :
    why.effect d = { d with errCounter := (why.effect d).errCounter } := by
  cases why <;> rfl

/-- The dispatcher carries out exactly the messages of its grammar, without an error
event, and rejects all others with one error event and no other effect than a count
of it. No message makes it touch a cell outside the arrays. -/
theorem taskPipe_accepts_grammar :
    (CarriedOut p m (taskPipe p r m d).trace ↔ Accepted p N m) ∧
    (Accepted p N m → (taskPipe p r m d).trace.filterMap Obs.errorEvent? = []) ∧
    (¬ Accepted p N m →
      ((taskPipe p r m d).trace.filterMap Obs.errorEvent?).length = 1 ∧
      Silent (taskPipe p r m d).trace ∧
      (taskPipe p r m d).state =
        { d with errCounter := (taskPipe p r m d).state.errCounter }) ∧
    ∀ e ∈ (taskPipe p r m d).trace, e.CellInRange := by
  cases found : parse p N m with
  | some req =>
    have accepted := accepted_of_parse p m found
    rw [taskPipe_of_accepted p r m d found]
    exact ⟨iff_of_true (carriedOut_of_accepted p r m d found) accepted,
      fun _ => errorEvents_requestTrace p r m d req, fun rejected => absurd accepted rejected,
      cells_requestTrace p r m d req⟩
  | none =>
    have rejected := (parse_eq_none p m).mp found
    rw [taskPipe_of_rejected p r m d found]
    refine ⟨iff_of_false (not_carriedOut_of_rejected p m found) rejected,
      fun accepted => absurd accepted rejected, fun _ => ⟨?_, ?_, ?_⟩, cells_rejection p m found⟩
    · rw [errorEvents_rejection]
      rfl
    · exact silent_rejection p m found
    · exact rejection_frame p d _

end BlinkerApp
