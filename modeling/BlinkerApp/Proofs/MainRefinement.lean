import BlinkerApp.Proofs.MainProgram

/-!
# The main program runs the dispatcher

What is proved of the dispatcher over any sequence of messages holds of the whole program:
apart from the run status, the loop leaves the data as the dispatcher leaves them over the
messages it is handed, and what is seen of these messages is what is seen there.
-/

namespace BlinkerApp

open Traced

variable {N : Nat} (p : Platform) (a : InitReplies p)

/-! ## The run status -/

/-- The data with another run status. -/
def Data.withRunStatus {p : Platform} (d : Data p N) (runStatus : UInt32) : Data p N :=
  { d with runStatus := runStatus }

theorem taskPipe_withRunStatus (r : CfeReplies p) (m : SbBuffer) (d : Data p N)
    (runStatus : UInt32) :
    taskPipe p r m (d.withRunStatus runStatus) =
      ⟨(), (taskPipe p r m d).state.withRunStatus runStatus, (taskPipe p r m d).trace⟩ := by
  cases found : parse p N m with
  | some req =>
    rw [taskPipe_of_accepted p r m _ found, taskPipe_of_accepted p r m d found]
    cases req <;> rfl
  | none =>
    rw [taskPipe_of_rejected p r m _ found, taskPipe_of_rejected p r m d found]
    cases rejectionOf p m <;> rfl

/-- No message depends on the run status or changes it. -/
theorem runTaskPipe_withRunStatus (inputs : List (Input p)) (d : Data p N) (runStatus : UInt32) :
    runTaskPipe p inputs (d.withRunStatus runStatus) =
      ⟨(), (runTaskPipe p inputs d).state.withRunStatus runStatus,
        (runTaskPipe p inputs d).trace⟩ := by
  induction inputs generalizing d with
  | nil => rfl
  | cons i inputs ih =>
    rw [runTaskPipe_cons, runTaskPipe_cons, taskPipe_withRunStatus, ih]
    rfl

/-! ## The messages of the loop -/

/-- The messages the loop is handed, until it is left or the iterations given end. -/
def delivered : List (Iteration p) → UInt32 → List (Input p)
  | [], _ => []
  | i :: later, runStatus =>
    let (running, runStatus') := i.runLoop runStatus
    if running = true then
      if i.receive = cfeSuccess then ⟨i.replies, i.buffer⟩ :: delivered later runStatus'
      else delivered later p.appError
    else []

/-- Seen while a message is processed. -/
def Obs.inner {p : Platform} (e : Obs p N) : Bool := !e.outer && e.event? ≠ some pipeErrEvent

theorem inner_taskPipe (r : CfeReplies p) (m : SbBuffer) (d : Data p N) :
    ∀ e ∈ (taskPipe p r m d).trace, e.inner = true := by
  intro e member
  have notPipeErr : e.event? ≠ some pipeErrEvent := by
    intro reported
    cases e <;> cases reported
    rcases event_taskPipe p r m d member with ⟨req, -, made⟩ | ⟨-, same⟩
    · have known := requestEvent_id p m d made
      exact absurd known (by decide)
    · have known := rejectionEvent_id (N := N) p m (rejectionOf p m)
      rw [← same] at known
      exact absurd known (by decide)
  simp [Obs.inner, outer_taskPipe p r m d e member, notPipeErr]

theorem outer_callTrace {p : Platform} (i : Iteration p) (d : Data p N) :
    (i.callTrace d).filter Obs.inner = [] := rfl

section Delivered

variable {i : Iteration p} (later : List (Iteration p)) {runStatus : UInt32}

theorem delivered_left (stop : (i.runLoop runStatus).1 = false) :
    delivered p (i :: later) runStatus = [] := by
  simp [delivered, stop]

theorem delivered_received (go : (i.runLoop runStatus).1 = true) (ok : i.receive = cfeSuccess) :
    delivered p (i :: later) runStatus =
      ⟨i.replies, i.buffer⟩ :: delivered p later (i.runLoop runStatus).2 := by
  simp [delivered, go, ok]

theorem delivered_failed (go : (i.runLoop runStatus).1 = true) (failed : i.receive ≠ cfeSuccess) :
    delivered p (i :: later) runStatus = delivered p later p.appError := by
  simp [delivered, go, failed]

end Delivered

/-- The loop is a run of the dispatcher over the messages it is handed. -/
theorem mainLoop_refines (its : List (Iteration p)) (d : Data p N) :
    (mainLoop p its d).trace.filter Obs.inner =
        (runTaskPipe p (delivered p its d.runStatus) d).trace ∧
      ∃ runStatus, (mainLoop p its d).state =
        (runTaskPipe p (delivered p its d.runStatus) d).state.withRunStatus runStatus := by
  induction its, d using mainLoop_induction p with
  | nil d => exact ⟨rfl, d.runStatus, rfl⟩
  | left i later d stop =>
    rw [mainLoop_left p later stop, delivered_left p later stop]
    exact ⟨rfl, _, rfl⟩
  | received i later d go ok ih =>
    have entered : i.enter d = d.withRunStatus (i.runLoop d.runStatus).2 := rfl
    have handed : (taskPipe p i.replies i.buffer d).trace.filter Obs.inner =
        (taskPipe p i.replies i.buffer d).trace :=
      List.filter_eq_self.mpr (inner_taskPipe p i.replies i.buffer d)
    rw [mainLoop_received p later go ok, delivered_received p later go ok, runTaskPipe_cons]
    rw [entered, taskPipe_withRunStatus] at ih ⊢
    rw [runTaskPipe_withRunStatus] at ih
    obtain ⟨seen, runStatus, left⟩ := ih
    constructor
    · rw [Outcome.prepend_trace, List.filter_append, List.filter_append, outer_callTrace, seen,
        List.filter_cons_of_neg (by simp [Obs.inner, Obs.outer]), handed]
      rfl
    · exact ⟨runStatus, left⟩
  | failed i later d go failed ih =>
    have entered : (i.enter d).failed = d.withRunStatus p.appError := rfl
    rw [mainLoop_failed p later go failed, delivered_failed p later go failed]
    rw [entered, runTaskPipe_withRunStatus] at ih
    rw [entered]
    obtain ⟨seen, runStatus, left⟩ := ih
    constructor
    · rw [Outcome.prepend_trace, List.filter_append, List.filter_append, outer_callTrace, seen]
      rfl
    · exact ⟨runStatus, left⟩

/-- The messages are the buffers received, in order of receipt. -/
theorem received_mainLoop (its : List (Iteration p)) (d : Data p N) :
    (mainLoop p its d).trace.filterMap Obs.received? =
      (delivered p its d.runStatus).map (·.buffer) := by
  induction its, d using mainLoop_induction p with
  | nil d => rfl
  | left i later d stop =>
    rw [mainLoop_left p later stop, delivered_left p later stop]
    rfl
  | received i later d go ok ih =>
    rw [(taskPipe_frame p i.replies i.buffer (i.enter d)).1] at ih
    rw [mainLoop_received p later go ok, delivered_received p later go ok, Outcome.prepend_trace,
      List.filterMap_append, List.filterMap_append, received_callTrace, if_pos ok,
      List.filterMap_cons, filterMap_taskPipe p received_of_inner, ih]
    rfl
  | failed i later d go failed ih =>
    rw [mainLoop_failed p later go failed, delivered_failed p later go failed,
      Outcome.prepend_trace, List.filterMap_append, List.filterMap_append, received_callTrace,
      if_neg failed, ih]
    rfl

/-! ## The whole program -/

theorem main_state (its : List (Iteration p)) (d₀ : Data p N) :
    (main p a its d₀).state = (loopOutcome p a its).state := by
  have state : (init p a d₀).state = initState p a := by rw [init_apply]
  have start : (loopState p a : Data p N) = if (init p a d₀).value = cfeSuccess then initState p a
      else (initState p a).failed := if_congr (init_value_iff p a d₀).symm rfl rfl
  unfold main loopOutcome
  rw [start]
  by_cases started : (init p a d₀).value = cfeSuccess
  · cases left : (mainLoop p its (initState p a : Data p N)).value <;>
      simp [started, state, left]
  · cases left : (mainLoop p its ((initState p a : Data p N).failed)).value <;>
      simp [started, state, setRunStatus_appError, left]

theorem loopState_eq :
    ∃ runStatus, (loopState p a : Data p N) = (initState p a).withRunStatus runStatus := by
  unfold loopState
  split
  · exact ⟨_, rfl⟩
  · exact ⟨p.appError, rfl⟩

/-- The messages `BLINKER_APP_Main` is handed in the iterations given. -/
def handed (N : Nat) (its : List (Iteration p)) : List (Input p) :=
  delivered p its (loopState p a : Data p N).runStatus

/-- A facet that only processing a message has is seen of the program as it is of this run. -/
theorem main_facet {α : Type} {g : Obs p N → Option α} (inner : ∀ e, e.inner = false → g e = none)
    (atStart : ∀ e, InitObs p e → g e = none) (its : List (Iteration p)) (d₀ : Data p N) :
    (main p a its d₀).trace.filterMap g =
      (runTaskPipe p (handed p a N its) (initState p a)).trace.filterMap g := by
  have outer (e : Obs p N) (seen : e.outer = true) : g e = none :=
    inner e (by simp [Obs.inner, seen])
  rw [main_filterMap p a d₀ (outer _ rfl) atStart (outer _ rfl) fun _ => outer _ rfl]
  obtain ⟨runStatus, start⟩ := loopState_eq (N := N) p a
  have seen := (mainLoop_refines p its (loopState p a : Data p N)).1
  have own : (runTaskPipe p (handed p a N its) (loopState p a : Data p N)).trace =
      (runTaskPipe p (handed p a N its) (initState p a)).trace := by
    rw [start, runTaskPipe_withRunStatus]
  rw [← own, handed, ← seen, List.filterMap_filter]
  apply congrArg (List.filterMap · _)
  funext e
  cases isInner : e.inner with
  | true => rfl
  | false => exact inner e isInner

/-- `BLINKER_APP_Main` is a run of the dispatcher, from the state initialization leaves, over
the buffers it receives: between start-up and exit, what is seen of the messages and the
data they leave are those of that run. -/
theorem main_refines (its : List (Iteration p)) (d₀ : Data p N) :
    let run := runTaskPipe p (handed p a N its) (initState p a)
    (handed p a N its).map (·.buffer) = (main p a its d₀).trace.filterMap Obs.received? ∧
    (∃ loop, (main p a its d₀).trace = (.esPerfLogEntry perfId :: (init p a d₀).trace) ++
        (loop ++ closing (loopOutcome p a its)) ∧ loop.filter Obs.inner = run.trace) ∧
    ∃ runStatus, (main p a its d₀).state = run.state.withRunStatus runStatus := by
  intro run
  obtain ⟨runStatus₀, start⟩ := loopState_eq (N := N) p a
  obtain ⟨seen, runStatus, left⟩ := mainLoop_refines p its (loopState p a : Data p N)
  -- the run of the loop starts with another run status than that of the dispatcher
  have same : runTaskPipe p (handed p a N its) (loopState p a) =
      ⟨(), run.state.withRunStatus runStatus₀, run.trace⟩ := by
    rw [start, runTaskPipe_withRunStatus]
  change _ = (runTaskPipe p (handed p a N its) (loopState p a)).trace at seen
  change _ = (runTaskPipe p (handed p a N its) (loopState p a)).state.withRunStatus _ at left
  rw [same] at seen left
  refine ⟨?_, ⟨_, main_trace p a its d₀, seen⟩, runStatus, ?_⟩
  · rw [main_filterMap p a d₀ rfl (fun e atStart => by cases atStart <;> rfl) rfl fun _ => rfl]
    exact (received_mainLoop p its _).symm
  · rw [main_state]
    exact left

end BlinkerApp
