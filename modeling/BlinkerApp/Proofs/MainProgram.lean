import BlinkerApp.Proofs.MainLoop

/-!
# The main program

`BLINKER_APP_Main` from start-up to exit: the gate that start-up puts before the main loop,
and what the loop guarantees behind it.
-/

namespace BlinkerApp

open Traced Cells

variable {N : Nat} (p : Platform) (a : InitReplies p)

/-! ## The gate -/

/-- The calls that decide whether the app starts all succeed. -/
def Started : Prop := ∀ call ∈ attempts p a, call.2 = cfeSuccess

instance : Decidable (Started p a) := inferInstanceAs (Decidable (∀ call ∈ _, _ = _))

/-- The data when the main loop is reached. -/
def loopState : Data p N := if Started p a then initState p a else (initState p a).failed

/-- What the main loop does. -/
def loopOutcome (its : List (Iteration p)) : Outcome (Data p N) (Obs p N) Bool :=
  mainLoop p its (loopState p a)

/-- What follows the loop, once it is left. -/
def closing {p : Platform} (o : Outcome (Data p N) (Obs p N) Bool) : List (Obs p N) :=
  if o.value = true then [.esPerfLogExit perfId, .esExitApp o.state.runStatus] else []

theorem main_trace (its : List (Iteration p)) (d₀ : Data p N) :
    (main p a its d₀).trace = (.esPerfLogEntry perfId :: (init p a d₀).trace) ++
      ((loopOutcome p a its).trace ++ closing (loopOutcome p a its)) := by
  have state : (init p a d₀).state = initState p a := by rw [init_apply]
  have start : (loopState p a : Data p N) = if (init p a d₀).value = cfeSuccess then initState p a
      else (initState p a).failed := if_congr (init_value_iff p a d₀).symm rfl rfl
  unfold main loopOutcome closing
  rw [start]
  by_cases started : (init p a d₀).value = cfeSuccess
  · cases left : (mainLoop p its (initState p a : Data p N)).value <;>
      simp [started, state, left]
  · cases left : (mainLoop p its ((initState p a : Data p N).failed)).value <;>
      simp [started, state, setRunStatus_appError, left]

/-- An entry of the main program is seen at start-up, in the loop or on leaving it. -/
theorem mem_main {its : List (Iteration p)} {d₀ : Data p N} {e : Obs p N}
    (member : e ∈ (main p a its d₀).trace) :
    (e = .esPerfLogEntry perfId ∨ InitObs p e) ∨ e ∈ (loopOutcome p a its).trace ∨
      e ∈ closing (loopOutcome p a its) := by
  rw [main_trace, List.mem_append, List.mem_append, List.mem_cons] at member
  exact member.imp_left (Or.imp_right (mem_init p a))

theorem mem_closing {p : Platform} {o : Outcome (Data p N) (Obs p N) Bool} {e : Obs p N}
    (member : e ∈ closing o) :
    e = .esPerfLogExit perfId ∨ e = .esExitApp o.state.runStatus := by
  unfold closing at member
  split at member
  · simpa using member
  · cases member

/-- `BLINKER_APP_Init` returns the status of the last call it makes. -/
theorem init_value (d₀ : Data p N) :
    (upToFirstFailure (attempts p a)).getLast?.map Prod.snd = some (init p a d₀).value := by
  rw [init_apply]
  unfold attempts
  rw [upToFirstFailure, List.getLast?_cons, List.getLastD_cons, List.getLastD_eq_getLast?]
  rfl

theorem upToFirstFailure_of_all {α : Type} {calls : List (α × CfeStatus)}
    (all : ∀ call ∈ calls, call.2 = cfeSuccess) : upToFirstFailure calls = calls := by
  induction calls with
  | nil => rfl
  | cons call later ih =>
    rw [upToFirstFailure, if_pos (all call List.mem_cons_self),
      ih fun call member => all call (List.mem_cons_of_mem _ member)]

theorem subscribed_of_started (started : Started p a) : Subscribed a := by
  refine ⟨started (.evsRegister, _) ?_, started (.createPipe, _) ?_,
    started (.subscribe (sendHkMid p), _) ?_, started (.subscribe (cmdMid p), _) ?_,
    started (.subscribe (blinkCmdMid p), _) ?_⟩ <;> simp [attempts]

/-- An app that starts holds the handle it registered. -/
theorem loopState_tblHandle (started : Started p a) :
    (loopState p a : Data p N).tblHandles.get exampleTable = a.tblHandle := by
  unfold loopState initState
  rw [if_pos started, if_pos (subscribed_of_started p a started)]
  exact get_set_self _ exampleTable _

/-- An app that starts has registered and loaded its table. -/
theorem table_of_started (started : Started p a) (d₀ : Data p N) :
    .tblRegister "ExampleTable" exampleTableT.size p.tblOptDefault (tblValidationFunc p.byteOrder)
        a.tblHandle cfeSuccess ∈ (init p a d₀).trace ∧
      .tblLoad a.tblHandle p.tblSrcFile tableFile cfeSuccess ∈ (init p a d₀).trace := by
  have registered : a.tblRegister = cfeSuccess :=
    started (.tblRegister, a.tblRegister) (by simp [attempts])
  have loaded : a.tblLoad = cfeSuccess := started (.tblLoad, a.tblLoad) (by simp [attempts])
  rw [init_apply, upToFirstFailure_of_all started]
  constructor
  · refine List.mem_append_left _ (List.mem_flatMap.mpr ⟨(.tblRegister, a.tblRegister), ?_, ?_⟩)
    · simp [attempts]
    · simp [attemptTrace, registered]
  · refine List.mem_append_left _ (List.mem_flatMap.mpr ⟨(.tblLoad, a.tblLoad), ?_, ?_⟩)
    · simp [attempts]
    · simp [attemptTrace, loaded]

/-- An app that does not start makes no call in the loop but `CFE_ES_RunLoop`. -/
theorem loopOutcome_of_not_started {its : List (Iteration p)} (ends : EndsOnError p its)
    (stopped : ¬ Started p a) : (loopOutcome p a its : Outcome (Data p N) (Obs p N) Bool) =
      ⟨!its.isEmpty, (initState p a).failed,
        if its.isEmpty then [] else [.esRunLoop p.appError false]⟩ := by
  unfold loopOutcome loopState
  rw [if_neg stopped]
  exact mainLoop_of_error p ends rfl

/-! ## The clauses of the guarantee -/

section Clauses

variable {its : List (Iteration p)} (d₀ : Data p N)

/-- The pipe is read, and a message processed, only by an app that has started. -/
theorem main_gate (ends : EndsOnError p its) {e : Obs p N} (member : e ∈ (main p a its d₀).trace)
    (served : e.isReceive = true ∨ e.processed? ≠ none) : Started p a := by
  by_contra stopped
  rcases mem_main p a member with (rfl | atStart) | inLoop | onLeaving
  · exact served.elim nofun (absurd rfl)
  · cases atStart <;> exact served.elim nofun (absurd rfl)
  · rw [loopOutcome_of_not_started p a ends stopped] at inLoop
    split at inLoop
    · cases inLoop
    · rw [List.mem_singleton.mp inLoop] at served
      exact served.elim nofun (absurd rfl)
  · rcases mem_closing onLeaving with rfl | rfl <;> exact served.elim nofun (absurd rfl)

/-- A table is used only in the loop. -/
theorem loop_of_tableHandle {e : Obs p N} (member : e ∈ (main p a its d₀).trace)
    {handle : TblHandle} (used : e.tableHandle? = some handle) :
    e ∈ (loopOutcome p a its).trace := by
  rcases mem_main p a member with (rfl | atStart) | inLoop | onLeaving
  · cases used
  · cases atStart <;> cases used
  · exact inLoop
  · rcases mem_closing onLeaving with rfl | rfl <;> cases used

/-- A table that is used was registered and loaded before. -/
theorem main_tables (ends : EndsOnError p its) {before after : List (Obs p N)} {e : Obs p N}
    (place : (main p a its d₀).trace = before ++ e :: after) {handle : TblHandle}
    (used : e.tableHandle? = some handle) :
    .tblRegister "ExampleTable" exampleTableT.size p.tblOptDefault (tblValidationFunc p.byteOrder)
        handle cfeSuccess ∈ before ∧
      .tblLoad handle p.tblSrcFile tableFile cfeSuccess ∈ before := by
  have member : e ∈ (main p a its d₀).trace := by rw [place]; simp
  have inLoop := loop_of_tableHandle p a d₀ member used
  have started : Started p a := by
    by_contra stopped
    rw [loopOutcome_of_not_started p a ends stopped] at inLoop
    split at inLoop
    · cases inLoop
    · rw [List.mem_singleton.mp inLoop] at used
      cases used
  have held : handle = a.tblHandle :=
    (mainLoop_tableHandle p its _ e inLoop handle used).trans (loopState_tblHandle p a started)
  -- the use stands behind all of start-up
  have behind : (.esPerfLogEntry perfId :: (init p a d₀).trace) <+: before := by
    rw [main_trace] at place
    apply prefix_of_append_eq place
    intro early
    rcases List.mem_cons.mp early with rfl | atStart
    · cases used
    · cases mem_init p a atStart <;> cases used
  obtain ⟨registered, loaded⟩ := table_of_started p a started d₀
  rw [held]
  exact ⟨behind.subset (List.mem_cons_of_mem _ registered),
    behind.subset (List.mem_cons_of_mem _ loaded)⟩

/-- A facet only the loop has is seen of the main program as it is seen of the loop. -/
theorem main_filterMap {α : Type} {g : Obs p N → Option α}
    (entry : g (.esPerfLogEntry perfId) = none)
    (atStart : ∀ e, InitObs p e → g e = none) (exit : g (.esPerfLogExit perfId) = none)
    (exitApp : ∀ runStatus, g (.esExitApp runStatus) = none) :
    (main p a its d₀).trace.filterMap g = (loopOutcome p a its).trace.filterMap g := by
  have before : (init p a d₀).trace.filterMap g = [] :=
    List.filterMap_eq_nil_iff.mpr fun e member => atStart e (mem_init p a member)
  have after :
      (closing (loopOutcome p a its : Outcome (Data p N) (Obs p N) Bool)).filterMap g = [] :=
    List.filterMap_eq_nil_iff.mpr fun e member => by
      rcases mem_closing member with rfl | rfl
      · exact exit
      · exact exitApp _
  rw [main_trace, List.filterMap_append, List.filterMap_append, after, List.append_nil,
    List.filterMap_cons_none entry, before, List.nil_append]

/-- Every buffer that is received is processed, once and in order. -/
theorem main_processed : (main p a its d₀).trace.filterMap Obs.processed? =
    (main p a its d₀).trace.filterMap Obs.received? := by
  rw [main_filterMap p a d₀ rfl (fun e seen => by cases seen <;> rfl) rfl fun _ => rfl,
    main_filterMap p a d₀ rfl (fun e seen => by cases seen <;> rfl) rfl fun _ => rfl]
  exact mainLoop_processed p its _

/-- Nothing is processed after a receive that failed. -/
theorem main_noneAfterFailure (ends : EndsOnError p its) :
    NoneAfterFailure (main p a its d₀).trace := by
  rw [main_trace]
  refine noneAfterFailure_append (fun e member => ?_) ?_
  · rcases List.mem_cons.mp member with rfl | atStart
    · exact id
    · cases mem_init p a atStart <;> exact id
  · refine List.pairwise_append.mpr ⟨mainLoop_noneAfterFailure p its _ ends, ?_, ?_⟩
    · apply noneAfterFailure_of_none
      intro e member
      rcases mem_closing member with rfl | rfl <;> rfl
    · intro e _ e' member _
      rcases mem_closing member with rfl | rfl <;> rfl

/-- Only leaving the loop exits the app. -/
theorem main_exited : (main p a its d₀).trace.filterMap Obs.exited? =
    if (loopOutcome p a its : Outcome (Data p N) (Obs p N) Bool).value = true then
      [(loopOutcome p a its : Outcome (Data p N) (Obs p N) Bool).state.runStatus] else [] := by
  have atStart : (init p a d₀).trace.filterMap Obs.exited? = [] :=
    List.filterMap_eq_nil_iff.mpr fun e member => by cases mem_init p a member <;> rfl
  have inLoop : (loopOutcome p a its).trace.filterMap (Obs.exited? (p := p) (N := N)) = [] :=
    List.filterMap_eq_nil_iff.mpr
      (mainLoop_none p exited_of_inner (fun e seen => by cases seen <;> rfl) its _)
  rw [main_trace, List.filterMap_append, List.filterMap_append, inLoop,
    List.filterMap_cons_none rfl, atStart]
  unfold closing
  split <;> rfl

/-- After a start-up or a receive that failed, the next iteration leaves the loop, and the app
exits once, with an error. -/
theorem main_exit {part : List (Iteration p)} {i : Iteration p} {later : List (Iteration p)}
    (ends : EndsOnError p (part ++ i :: later))
    (failure : (init p a d₀).value ≠ cfeSuccess ∨
      ∃ e ∈ (main p a part d₀).trace, e.ReceiveFailed) :
    (main p a (part ++ i :: later) d₀).trace.filterMap Obs.exited? = [p.appError] := by
  obtain ⟨left, status⟩ :
      (loopOutcome p a (part ++ i :: later) : Outcome _ (Obs p N) _).value = true ∧
      (loopOutcome p a (part ++ i :: later) : Outcome _ (Obs p N) _).state.runStatus =
        p.appError := by
    rcases failure with failed | ⟨e, member, failed⟩
    · have stopped : ¬ Started p a := mt (init_value_iff p a d₀).mpr failed
      apply exit_of_error p ends
      unfold loopState
      rw [if_neg stopped]
      rfl
    · refine exit_of_receiveFailed p part _ ends ⟨e, ?_, failed⟩
      rcases mem_main p a member with (rfl | atStart) | inLoop | onLeaving
      · cases failed
      · cases atStart <;> cases failed
      · exact inLoop
      · rcases mem_closing onLeaving with rfl | rfl <;> cases failed
  rw [main_exited, if_pos left, status]

/-- The message ids that are subscribed are those the app knows. -/
theorem known_of_subscribed {msgId : UInt32} {pipe : PipeId} {status : CfeStatus}
    (member : .sbSubscribe msgId pipe status ∈ (main p a its d₀).trace) :
    msgId ∈ [sendHkMid p, cmdMid p, blinkCmdMid p] := by
  rcases mem_main p a member with (other | atStart) | inLoop | onLeaving
  · cases other
  · cases atStart with
    | sbSubscribe _ known _ _ => exact known
  · rcases mem_mainLoop p its _ _ inLoop with own | inner
    · cases own
    · cases inner
  · rcases mem_closing onLeaving with other | other <;> cases other

/-- While only subscribed messages are delivered, none is of an unknown kind. -/
theorem main_midErr
    (delivered : ∀ pipe buffer, .sbReceiveBuffer pipe cfeSuccess buffer ∈ (main p a its d₀).trace →
      .sbSubscribe buffer.msgId pipe cfeSuccess ∈ (main p a its d₀).trace)
    {event : Event} (member : .evsSendEvent event ∈ (main p a its d₀).trace) :
    event.id ≠ midErrEid := by
  rcases mem_main p a member with (other | atStart) | inLoop | onLeaving
  · cases other
  · cases atStart with
    | event _ known =>
      intro same
      rw [same] at known
      exact absurd known (by decide)
  · refine mainLoop_midErr p its _ (fun m received => ?_) event inLoop
    obtain ⟨e, seen, this⟩ := List.mem_filterMap.mp received
    obtain ⟨pipe, rfl⟩ := received_eq_some.mp this
    refine known_of_subscribed p a d₀ (delivered pipe m ?_)
    rw [main_trace]
    exact List.mem_append_right _ (List.mem_append_left _ seen)
  · rcases mem_closing onLeaving with other | other <;> cases other

end Clauses

/-! ## The guarantee -/

/-- What `BLINKER_APP_Main` guarantees in the iterations `its` of its loop. Only what follows a
failure rests on `CFE_ES_RunLoop` ending the loop. -/
structure MainGuarantee (its : List (Iteration p)) (d₀ : Data p N) : Prop where
  /-- Start-up makes its calls in order, up to the first one that fails. -/
  attempted : (init p a d₀).trace.filterMap Obs.attempt? = upToFirstFailure (attempts p a)
  /-- Start-up returns the status of the last call it makes. -/
  returned :
    (upToFirstFailure (attempts p a)).getLast?.map Prod.snd = some (init p a d₀).value
  /-- The pipe is read, and a message processed, only if all seven calls succeeded. -/
  gate : EndsOnError p its →
    ∀ e ∈ (main p a its d₀).trace, (e.isReceive = true ∨ e.processed? ≠ none) →
      ∀ call ∈ attempts p a, call.2 = cfeSuccess
  /-- A table that is used was registered and loaded before. -/
  tables : EndsOnError p its →
    ∀ before e after, (main p a its d₀).trace = before ++ e :: after →
      ∀ handle, e.tableHandle? = some handle →
        .tblRegister "ExampleTable" exampleTableT.size p.tblOptDefault
            (tblValidationFunc p.byteOrder) handle cfeSuccess ∈ before ∧
          .tblLoad handle p.tblSrcFile tableFile cfeSuccess ∈ before
  /-- Every buffer that is received is processed, once and in order of receipt. -/
  processed : (main p a its d₀).trace.filterMap Obs.processed? =
    (main p a its d₀).trace.filterMap Obs.received?
  /-- Nothing is processed after the first receive that failed. -/
  lastProcessed : EndsOnError p its → NoneAfterFailure (main p a its d₀).trace
  /-- No message changes the run status. -/
  runStatus : ∀ r m (d : Data p N), (taskPipe p r m d).state.runStatus = d.runStatus
  /-- When start-up or a receive has failed, the next iteration leaves the loop and the app
  exits, once and with an error. -/
  exit : EndsOnError p its → ∀ part i later, its = part ++ i :: later →
    ((init p a d₀).value ≠ cfeSuccess ∨ ∃ e ∈ (main p a part d₀).trace, e.ReceiveFailed) →
    (main p a its d₀).trace.filterMap Obs.exited? = [p.appError]
  /-- No message is of an unknown kind while the pipe delivers only what is subscribed on it. -/
  midErr :
    (∀ pipe buffer, .sbReceiveBuffer pipe cfeSuccess buffer ∈ (main p a its d₀).trace →
      .sbSubscribe buffer.msgId pipe cfeSuccess ∈ (main p a its d₀).trace) →
    ∀ event, .evsSendEvent event ∈ (main p a its d₀).trace → event.id ≠ midErrEid

theorem main_guarantee (its : List (Iteration p)) (d₀ : Data p N) : MainGuarantee p a its d₀ where
  attempted := attempts_init p a d₀
  returned := init_value p a d₀
  gate ends _ member served := main_gate p a d₀ ends member served
  tables ends _ _ _ place _ used := main_tables p a d₀ ends place used
  processed := main_processed p a d₀
  lastProcessed ends := main_noneAfterFailure p a d₀ ends
  runStatus r m d := (taskPipe_frame p r m d).1
  exit := by
    rintro ends part i later rfl failure
    exact main_exit p a d₀ ends failure
  midErr delivered _ member := main_midErr p a d₀ delivered member

/-- A no-op, a tick, a receive that fails, and the iteration after it. -/
def failingRun : List (Iteration defaultPlatform) :=
  let iteration (receive : CfeStatus) (m : SbBuffer) : Iteration defaultPlatform :=
    ⟨fun runStatus => (runStatus == defaultPlatform.appRun, runStatus), receive, m, default⟩
  [iteration cfeSuccess (groundCommand defaultPlatform noopCc []),
   iteration cfeSuccess (bareMessage defaultPlatform (blinkCmdMid defaultPlatform)),
   iteration (-1) (bareMessage defaultPlatform 0),
   iteration cfeSuccess (bareMessage defaultPlatform (sendHkMid defaultPlatform))]

theorem main_guarantee_failed :
    let trace := (main defaultPlatform default failingRun (zeroData (N := 2) defaultPlatform)).trace
    (trace.filterMap Obs.processed?).length = 2 ∧
      trace.filterMap Obs.exited? = [defaultPlatform.appError] := by
  have guarantee := main_guarantee defaultPlatform default failingRun (zeroData (N := 2) _)
  have ends : EndsOnError defaultPlatform failingRun := by
    intro i member
    have answers :
        i.runLoop = fun runStatus => (runStatus == defaultPlatform.appRun, runStatus) := by
      simp only [failingRun, List.mem_cons, List.not_mem_nil, or_false] at member
      rcases member with rfl | rfl | rfl | rfl <;> rfl
    rw [answers]
    rfl
  have failed : .sbReceiveBuffer 0 (-1) (bareMessage defaultPlatform 0) ∈
      (main defaultPlatform default (failingRun.take 3) (zeroData (N := 2) _)).trace :=
    List.mem_of_getElem? (i := 28) rfl
  have noted : (-1 : CfeStatus) ≠ cfeSuccess := by decide
  refine ⟨?_, guarantee.exit ends (failingRun.take 3) _ [] rfl (.inr ⟨_, failed, noted⟩)⟩
  rw [guarantee.processed]
  rfl

end BlinkerApp
