import BlinkerApp.Proofs.StartUp

/-!
# Start-up gate and main loop

What every finite prefix of `BLINKER_APP_Main` guarantees, whatever the cFE answers. The
one thing the app relies on is that `CFE_ES_RunLoop` ends the loop of an app whose run
status is `CFE_ES_RunStatus_APP_ERROR`.
-/

namespace BlinkerApp

open Traced

variable {p : Platform} {N : Nat}

/-! ## Facets of a run -/

/-- A call to receive a buffer. -/
def Obs.isReceive : Obs p N → Bool
  | .sbReceiveBuffer .. => true
  | _ => false

/-- A buffer that was received successfully. -/
def Obs.received? : Obs p N → Option SbBuffer
  | .sbReceiveBuffer _ status buffer => if status = cfeSuccess then some buffer else none
  | _ => none

theorem received_eq_some {e : Obs p N} {m : SbBuffer} :
    e.received? = some m ↔ ∃ pipe, e = .sbReceiveBuffer pipe cfeSuccess m := by
  cases e <;> simp [Obs.received?]

/-- A call to receive a buffer that failed. -/
def Obs.ReceiveFailed : Obs p N → Prop
  | .sbReceiveBuffer _ status _ => status ≠ cfeSuccess
  | _ => False

/-- A buffer that was handed to `BLINKER_APP_TaskPipe`. -/
def Obs.processed? : Obs p N → Option SbBuffer
  | .taskPipe m => some m
  | _ => none

/-- The run status of a call to `CFE_ES_ExitApp`. -/
def Obs.exited? : Obs p N → Option UInt32
  | .esExitApp runStatus => some runStatus
  | _ => none

/-- The handle of a table that is used. -/
def Obs.tableHandle? : Obs p N → Option TblHandle
  | .tblManage handle | .tblGetAddress handle _ | .tblReleaseAddress handle _ => some handle
  | _ => none

/-- The calls of `BLINKER_APP_Init` and `BLINKER_APP_Main` themselves. -/
def Obs.outer : Obs p N → Bool
  | .evsRegister _ | .msgInit .. | .sbCreatePipe .. | .sbSubscribe .. | .sbReceiveBuffer ..
  | .tblRegister .. | .tblLoad .. | .esPerfLogEntry _ | .esPerfLogExit _ | .esRunLoop ..
  | .esExitApp _ | .configGetVersionString .. | .taskPipe _ => true
  | _ => false

/-! ## One message -/

variable (p)

section Message

variable (r : CfeReplies p) (m : SbBuffer) (d : Data p N)

/-- Processing a message changes neither the run status nor the pipe nor the handles. -/
theorem taskPipe_frame :
    (taskPipe p r m d).state.runStatus = d.runStatus ∧
      (taskPipe p r m d).state.commandPipe = d.commandPipe ∧
      (taskPipe p r m d).state.tblHandles = d.tblHandles := by
  apply taskPipe_state_cases p r m d (motive := fun s => s.runStatus = d.runStatus ∧
    s.commandPipe = d.commandPipe ∧ s.tblHandles = d.tblHandles)
  · intro req _
    cases req <;> exact ⟨rfl, rfl, rfl⟩
  · exact fun _ _ => ⟨rfl, rfl, rfl⟩

theorem outer_taskPipe : ∀ e ∈ (taskPipe p r m d).trace, e.outer = false := by
  intro e member
  rcases mem_taskPipe p r m d member with
    ⟨req, -, action | ⟨event, -, rfl⟩ | rfl⟩ | ⟨-, rejection⟩
  · cases action <;> rfl
  · rfl
  · rfl
  · cases rejection <;> rfl

/-- A message uses the table of the handle the app holds. -/
theorem tableHandle_taskPipe {e : Obs p N} (member : e ∈ (taskPipe p r m d).trace)
    {handle : TblHandle} (used : e.tableHandle? = some handle) :
    handle = d.tblHandles.get exampleTable := by
  rcases mem_taskPipe p r m d member with
    ⟨req, -, action | ⟨event, -, rfl⟩ | rfl⟩ | ⟨-, rejection⟩
  · cases action <;> cases used <;> rfl
  · cases used
  · cases used
  · cases rejection <;> cases used

/-- Only a message of an unknown kind is reported as one. -/
theorem midErr_taskPipe (known : m.msgId ∈ [sendHkMid p, cmdMid p, blinkCmdMid p]) {event : Event}
    (member : .evsSendEvent event ∈ (taskPipe p r m d).trace) : event.id ≠ midErrEid := by
  rcases event_taskPipe p r m d member with ⟨req, -, sent⟩ | ⟨found, rfl⟩
  · have accepted := requestEvent_id p m d sent
    intro same
    rw [same] at accepted
    exact absurd accepted (by decide)
  · have spec := rejectionOf_spec p m
    have rejected : ¬ Accepted p N m := (parse_eq_none p m).mp found
    cases why : rejectionOf p m with
    | unknownMid =>
      rw [why] at spec
      simp only [List.mem_cons, List.not_mem_nil, or_false] at known
      rcases known with isHk | isCmd | isBlink
      · exact absurd (.inr (.inl isHk)) rejected
      · exact absurd isCmd spec
      · exact absurd (.inl isBlink) rejected
    | outOfRange h => cases h <;> exact (by decide : ccErrEid ≠ midErrEid)
    | unknownCode => exact (by decide : ccErrEid ≠ midErrEid)
    | wrongLength => exact (by decide : cmdLenErrEid ≠ midErrEid)

end Message

/-! ## The main loop -/

/-- The data when an iteration reaches the pipe. -/
def Iteration.enter {p : Platform} (i : Iteration p) (d : Data p N) : Data p N :=
  { d with runStatus := (i.runLoop d.runStatus).2 }

/-- The data once a failure has been noted in the run status. -/
def Data.failed {p : Platform} (d : Data p N) : Data p N := { d with runStatus := p.appError }

theorem setRunStatus_appError (d : Data p N) :
    setRunStatus p.appError d = ⟨(), d.failed, []⟩ := rfl

/-- The calls of an iteration up to the point where it looks at what it received. -/
def Iteration.callTrace {p : Platform} (i : Iteration p) (d : Data p N) : List (Obs p N) :=
  [.esRunLoop d.runStatus true, .esPerfLogExit perfId,
   .sbReceiveBuffer d.commandPipe i.receive i.buffer, .esPerfLogEntry perfId]

theorem processed_callTrace {p : Platform} (i : Iteration p) (d : Data p N) :
    (i.callTrace d).filterMap Obs.processed? = [] := rfl

theorem received_callTrace {p : Platform} (i : Iteration p) (d : Data p N) :
    (i.callTrace d).filterMap Obs.received? =
    if i.receive = cfeSuccess then [i.buffer] else [] := by
  unfold Iteration.callTrace
  by_cases ok : i.receive = cfeSuccess <;> simp [List.filterMap_cons, Obs.received?, ok]

theorem failed_of_callTrace {p : Platform} {i : Iteration p} {d : Data p N} {e : Obs p N}
    (member : e ∈ i.callTrace d) (failed : e.ReceiveFailed) : i.receive ≠ cfeSuccess := by
  simp only [Iteration.callTrace, List.mem_cons, List.not_mem_nil, or_false] at member
  rcases member with rfl | rfl | rfl | rfl
  · cases failed
  · cases failed
  · exact failed
  · cases failed

/-- The report of a receive that failed. -/
def pipeErrEvent : Event :=
  ⟨pipeErrEid, .error, "BLINKER APP: SB Pipe Read Error, App Will Exit", []⟩

theorem mainLoop_left {i : Iteration p} (later : List (Iteration p)) {d : Data p N}
    (stop : (i.runLoop d.runStatus).1 = false) :
    mainLoop p (i :: later) d = ⟨true, i.enter d, [.esRunLoop d.runStatus false]⟩ := by
  simp [mainLoop, cfeEsRunLoop, stop, Iteration.enter]

theorem mainLoop_received {i : Iteration p} (later : List (Iteration p)) {d : Data p N}
    (go : (i.runLoop d.runStatus).1 = true) (received : i.receive = cfeSuccess) :
    mainLoop p (i :: later) d =
      (mainLoop p later (taskPipe p i.replies i.buffer (i.enter d)).state).prepend
        (i.callTrace d ++ .taskPipe i.buffer ::
          (taskPipe p i.replies i.buffer (i.enter d)).trace) := by
  simp [mainLoop, cfeEsRunLoop, receiveAndProcess, callTaskPipe, cfeSbReceiveBuffer, go, received,
    Iteration.enter, Iteration.callTrace, Outcome.prepend]

theorem mainLoop_failed {i : Iteration p} (later : List (Iteration p)) {d : Data p N}
    (go : (i.runLoop d.runStatus).1 = true) (failed : i.receive ≠ cfeSuccess) :
    mainLoop p (i :: later) d =
      (mainLoop p later ((i.enter d).failed)).prepend
        (i.callTrace d ++ [.evsSendEvent pipeErrEvent]) := by
  simp [mainLoop, cfeEsRunLoop, receiveAndProcess, cfeSbReceiveBuffer, setRunStatus, go, failed,
    Iteration.enter, Iteration.callTrace, pipeErrEvent, Data.failed, Outcome.prepend]

/-- Induction over the iterations of the loop, by what becomes of the first one. -/
theorem mainLoop_induction {motive : List (Iteration p) → Data p N → Prop} (nil : ∀ d, motive [] d)
    (left : ∀ i later d, (i.runLoop d.runStatus).1 = false → motive (i :: later) d)
    (received : ∀ i later d, (i.runLoop d.runStatus).1 = true → i.receive = cfeSuccess →
      motive later (taskPipe p i.replies i.buffer (i.enter d)).state → motive (i :: later) d)
    (failed : ∀ i later d, (i.runLoop d.runStatus).1 = true → i.receive ≠ cfeSuccess →
      motive later ((i.enter d).failed) → motive (i :: later) d)
    (its : List (Iteration p)) (d : Data p N) : motive its d := by
  induction its generalizing d with
  | nil => exact nil d
  | cons i later ih =>
    cases go : (i.runLoop d.runStatus).1 with
    | false => exact left i later d go
    | true =>
      by_cases ok : i.receive = cfeSuccess
      · exact received i later d go ok (ih _)
      · exact failed i later d go ok (ih _)

/-- A facet of the calls of the main program sees nothing while a message is processed. -/
theorem filterMap_taskPipe {α : Type} {g : Obs p N → Option α}
    (outer : ∀ e, e.outer = false → g e = none) (r : CfeReplies p) (m : SbBuffer) (d : Data p N) :
    (taskPipe p r m d).trace.filterMap g = [] :=
  List.filterMap_eq_nil_iff.mpr fun e member => outer e (outer_taskPipe p r m d e member)

theorem processed_of_inner {p : Platform} (e : Obs p N) (inner : e.outer = false) :
    e.processed? = none := by
  cases e <;> first | rfl | cases inner

theorem received_of_inner {p : Platform} (e : Obs p N) (inner : e.outer = false) :
    e.received? = none := by
  cases e <;> first | rfl | cases inner

theorem exited_of_inner {p : Platform} (e : Obs p N) (inner : e.outer = false) :
    e.exited? = none := by
  cases e <;> first | rfl | cases inner

/-- Every buffer that is received is processed, once and in order. -/
theorem mainLoop_processed (its : List (Iteration p)) (d : Data p N) :
    (mainLoop p its d).trace.filterMap Obs.processed? =
      (mainLoop p its d).trace.filterMap Obs.received? := by
  induction its, d using mainLoop_induction p with
  | nil d => rfl
  | left i later d stop =>
    rw [mainLoop_left p later stop]
    rfl
  | received i later d go ok ih =>
    rw [mainLoop_received p later go ok]
    simp only [Outcome.prepend_trace, List.filterMap_append, List.filterMap_cons, ih,
      filterMap_taskPipe p processed_of_inner, filterMap_taskPipe p received_of_inner,
      processed_callTrace, received_callTrace, if_pos ok]
    rfl
  | failed i later d go failed ih =>
    rw [mainLoop_failed p later go failed]
    simp only [Outcome.prepend_trace, List.filterMap_append, ih, processed_callTrace,
      received_callTrace, if_neg failed]
    rfl

/-- What can be seen of the loop itself. -/
inductive LoopObs {p : Platform} : Obs p N → Prop
  | esRunLoop (runStatus : UInt32) (running : Bool) : LoopObs (.esRunLoop runStatus running)
  | esPerfLogExit : LoopObs (.esPerfLogExit perfId)
  | sbReceiveBuffer (pipe : PipeId) (status : CfeStatus) (buffer : SbBuffer) :
      LoopObs (.sbReceiveBuffer pipe status buffer)
  | esPerfLogEntry : LoopObs (.esPerfLogEntry perfId)
  | taskPipe (m : SbBuffer) : LoopObs (.taskPipe m)
  | pipeErr : LoopObs (.evsSendEvent pipeErrEvent)

theorem mem_callTrace {p : Platform} {i : Iteration p} {d : Data p N} {e : Obs p N}
    (member : e ∈ i.callTrace d) : LoopObs e := by
  simp only [Iteration.callTrace, List.mem_cons, List.not_mem_nil, or_false] at member
  rcases member with rfl | rfl | rfl | rfl
  · exact .esRunLoop _ _
  · exact .esPerfLogExit
  · exact .sbReceiveBuffer _ _ _
  · exact .esPerfLogEntry

/-- Everything in the loop is seen of the loop itself or while a message is processed. -/
theorem mem_mainLoop (its : List (Iteration p)) (d : Data p N) :
    ∀ e ∈ (mainLoop p its d).trace, LoopObs e ∨ e.outer = false := by
  induction its, d using mainLoop_induction p with
  | nil d => exact nofun
  | left i later d stop =>
    intro e member
    rw [mainLoop_left p later stop] at member
    rw [List.mem_singleton.mp member]
    exact .inl (.esRunLoop _ _)
  | received i later d go ok ih =>
    intro e member
    rw [mainLoop_received p later go ok, Outcome.prepend_trace, List.mem_append, List.mem_append,
      List.mem_cons] at member
    rcases member with (called | rfl | inside) | rest
    · exact .inl (mem_callTrace called)
    · exact .inl (.taskPipe _)
    · exact .inr (outer_taskPipe p _ _ _ e inside)
    · exact ih e rest
  | failed i later d go failed ih =>
    intro e member
    rw [mainLoop_failed p later go failed, Outcome.prepend_trace, List.mem_append, List.mem_append,
      List.mem_singleton] at member
    rcases member with (called | rfl) | rest
    · exact .inl (mem_callTrace called)
    · exact .inl .pipeErr
    · exact ih e rest

/-- A facet the loop itself does not have is not to be seen in it. -/
theorem mainLoop_none {α : Type} {g : Obs p N → Option α}
    (inner : ∀ e, e.outer = false → g e = none)
    (own : ∀ e, LoopObs e → g e = none) (its : List (Iteration p)) (d : Data p N) :
    ∀ e ∈ (mainLoop p its d).trace, g e = none := fun e member =>
  (mem_mainLoop p its d e member).elim (own e) (inner e)

/-- Every use of a table in the loop is of the handle the app holds when it starts. -/
theorem mainLoop_tableHandle (its : List (Iteration p)) (d : Data p N) :
    ∀ e ∈ (mainLoop p its d).trace, ∀ handle, e.tableHandle? = some handle →
      handle = d.tblHandles.get exampleTable := by
  induction its, d using mainLoop_induction p with
  | nil d => exact nofun
  | left i later d stop =>
    rw [mainLoop_left p later stop]
    simp [Obs.tableHandle?]
  | received i later d go ok ih =>
    intro e member handle used
    rw [mainLoop_received p later go ok, Outcome.prepend_trace, List.mem_append, List.mem_append,
      List.mem_cons] at member
    rcases member with (called | rfl | inside) | rest
    · cases mem_callTrace called <;> cases used
    · cases used
    · exact tableHandle_taskPipe p _ _ _ inside used
    · have held := ih e rest handle used
      rw [(taskPipe_frame p i.replies i.buffer (i.enter d)).2.2] at held
      exact held
  | failed i later d go failed ih =>
    intro e member handle used
    rw [mainLoop_failed p later go failed, Outcome.prepend_trace, List.mem_append, List.mem_append,
      List.mem_singleton] at member
    rcases member with (called | rfl) | rest
    · cases mem_callTrace called <;> cases used
    · cases used
    · exact ih e rest handle used

/-- While only subscribed messages are delivered, no message is of an unknown kind. -/
theorem mainLoop_midErr (its : List (Iteration p)) (d : Data p N) :
    (∀ m ∈ (mainLoop p its d).trace.filterMap Obs.received?,
      m.msgId ∈ [sendHkMid p, cmdMid p, blinkCmdMid p]) →
    ∀ event, .evsSendEvent event ∈ (mainLoop p its d).trace → event.id ≠ midErrEid := by
  induction its, d using mainLoop_induction p with
  | nil d => exact fun _ => nofun
  | left i later d stop =>
    rw [mainLoop_left p later stop]
    simp
  | received i later d go ok ih =>
    intro delivered event member
    rw [mainLoop_received p later go ok, Outcome.prepend_trace] at delivered member
    rw [List.filterMap_append, List.filterMap_append, received_callTrace, if_pos ok] at delivered
    rw [List.mem_append, List.mem_append, List.mem_cons] at member
    rcases member with (called | other | inside) | rest
    · cases mem_callTrace called with
      | pipeErr => exact (by decide : pipeErrEid ≠ midErrEid)
    · cases other
    · exact midErr_taskPipe p _ _ _ (delivered i.buffer (by simp)) inside
    · exact ih (fun m received => delivered m (List.mem_append_right _ received)) event rest
  | failed i later d go failed ih =>
    intro delivered event member
    rw [mainLoop_failed p later go failed, Outcome.prepend_trace] at delivered member
    rw [List.filterMap_append] at delivered
    rw [List.mem_append, List.mem_append, List.mem_singleton] at member
    rcases member with (called | reported) | rest
    · cases mem_callTrace called with
      | pipeErr => exact (by decide : pipeErrEid ≠ midErrEid)
    · cases reported
      exact (by decide : pipeErrEid ≠ midErrEid)
    · exact ih (fun m received => delivered m (List.mem_append_right _ received)) event rest

/-! ## After a failure -/

/-- `CFE_ES_RunLoop` ends the loop of an app in the run status
`CFE_ES_RunStatus_APP_ERROR`, and leaves it in that status. -/
def EndsOnError (its : List (Iteration p)) : Prop :=
  ∀ i ∈ its, i.runLoop p.appError = (false, p.appError)

theorem EndsOnError.tail {p : Platform} {i : Iteration p} {later : List (Iteration p)}
    (ends : EndsOnError p (i :: later)) : EndsOnError p later := fun j member =>
  ends j (List.mem_cons_of_mem i member)

theorem mainLoop_of_error {its : List (Iteration p)} (ends : EndsOnError p its) {d : Data p N}
    (error : d.runStatus = p.appError) :
    mainLoop p its d =
      ⟨!its.isEmpty, d, if its.isEmpty then [] else [.esRunLoop p.appError false]⟩ := by
  cases its with
  | nil => rfl
  | cons i later =>
    have answer := ends i List.mem_cons_self
    have same : i.enter d = d := by
      unfold Iteration.enter
      rw [error, answer, ← error]
    rw [mainLoop_left p later (by rw [error, answer]), same, error]
    rfl

/-- Nothing is processed after a receive that failed. -/
def NoneAfterFailure {p : Platform} (trace : List (Obs p N)) : Prop :=
  trace.Pairwise fun earlier later => earlier.ReceiveFailed → later.processed? = none

theorem noneAfterFailure_append {p : Platform} {before after : List (Obs p N)}
    (passed : ∀ e ∈ before, ¬ e.ReceiveFailed) (rest : NoneAfterFailure after) :
    NoneAfterFailure (before ++ after) := by
  refine List.pairwise_append.mpr ⟨?_, rest, ?_⟩
  · exact List.pairwise_of_forall_mem_list fun e member _ _ failed =>
      absurd failed (passed e member)
  · exact fun e member _ _ failed => absurd failed (passed e member)

theorem noneAfterFailure_of_none {p : Platform} {trace : List (Obs p N)}
    (none : ∀ e ∈ trace, e.processed? = none) : NoneAfterFailure trace :=
  List.pairwise_of_forall_mem_list fun _ _ e member _ => none e member

theorem passed_of_inner {p : Platform} (e : Obs p N) (inner : e.outer = false) :
    ¬ e.ReceiveFailed := by
  cases e <;> first | exact id | cases inner

theorem mainLoop_noneAfterFailure (its : List (Iteration p)) (d : Data p N) :
    EndsOnError p its → NoneAfterFailure (mainLoop p its d).trace := by
  induction its, d using mainLoop_induction p with
  | nil d => exact fun _ => List.Pairwise.nil
  | left i later d stop =>
    intro _
    rw [mainLoop_left p later stop]
    exact List.pairwise_singleton _ _
  | received i later d go ok ih =>
    intro ends
    rw [mainLoop_received p later go ok]
    refine noneAfterFailure_append (fun e member => ?_) (ih ends.tail)
    rw [List.mem_append, List.mem_cons] at member
    rcases member with called | rfl | inside
    · exact fun failed => failed_of_callTrace called failed ok
    · exact id
    · exact passed_of_inner e (outer_taskPipe p _ _ _ e inside)
  | failed i later d go failed ih =>
    intro ends
    rw [mainLoop_failed p later go failed, mainLoop_of_error p ends.tail rfl]
    apply noneAfterFailure_of_none
    intro e member
    rw [Outcome.prepend_trace, List.mem_append, List.mem_append, List.mem_singleton] at member
    rcases member with (called | rfl) | rest
    · exact List.filterMap_eq_nil_iff.mp (processed_callTrace i d) e called
    · rfl
    · split at rest
      · cases rest
      · rw [List.mem_singleton.mp rest]
        rfl

/-- An iteration in the status of an error leaves the loop in it. -/
theorem exit_of_error {i : Iteration p} {later part : List (Iteration p)} {d : Data p N}
    (ends : EndsOnError p (part ++ i :: later)) (error : d.runStatus = p.appError) :
    (mainLoop p (part ++ i :: later) d).value = true ∧
      (mainLoop p (part ++ i :: later) d).state.runStatus = p.appError := by
  rw [mainLoop_of_error p ends error]
  exact ⟨by simp, error⟩

/-- An iteration after a receive that failed leaves the loop in the status of an error. -/
theorem exit_of_receiveFailed {i : Iteration p} {later : List (Iteration p)}
    (part : List (Iteration p)) (d : Data p N) : EndsOnError p (part ++ i :: later) →
    (∃ e ∈ (mainLoop p part d).trace, e.ReceiveFailed) →
    (mainLoop p (part ++ i :: later) d).value = true ∧
      (mainLoop p (part ++ i :: later) d).state.runStatus = p.appError := by
  induction part, d using mainLoop_induction p with
  | nil d =>
    rintro _ ⟨e, member, -⟩
    cases member
  | left j part d stop =>
    rintro _ ⟨e, member, failed⟩
    rw [mainLoop_left p part stop] at member
    rw [List.mem_singleton.mp member] at failed
    cases failed
  | received j part d go ok ih =>
    rintro ends ⟨e, member, failed⟩
    rw [List.cons_append, mainLoop_received p _ go ok]
    rw [mainLoop_received p part go ok, Outcome.prepend_trace, List.mem_append, List.mem_append,
      List.mem_cons] at member
    refine ih ends.tail ⟨e, ?_, failed⟩
    rcases member with (called | rfl | inside) | rest
    · exact absurd ok (failed_of_callTrace called failed)
    · cases failed
    · exact absurd failed (passed_of_inner e (outer_taskPipe p _ _ _ e inside))
    · exact rest
  | failed j part d go failed ih =>
    intro ends _
    rw [List.cons_append, mainLoop_failed p _ go failed]
    exact exit_of_error p ends.tail rfl

end BlinkerApp
