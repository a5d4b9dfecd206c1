import BlinkerApp.Proofs.Grammar
import BlinkerApp.Spec.StartUp

/-!
# Start-up
-/

namespace BlinkerApp

open Traced Cells

variable {p : Platform} {N : Nat} (a : InitReplies p)

/-! ## What `BLINKER_APP_Init` does -/

@[simp] theorem cfeEvsRegister_apply (d : Data p N) :
    cfeEvsRegister a d = ⟨a.evsRegister, d, [.evsRegister a.evsRegister]⟩ := rfl

@[simp] theorem cfeMsgInit_apply (msgId : UInt32) (size : Nat) (d : Data p N) :
    cfeMsgInit a msgId size d = ⟨(), { d with
      hkTlm := ⟨a.telemetryHeader, ⟨0, 0, .replicate N 0, .replicate N 0⟩⟩ },
      [.msgInit msgId size]⟩ := rfl

@[simp] theorem cfeSbCreatePipe_apply (depth : UInt16) (name : List UInt8) (d : Data p N) :
    cfeSbCreatePipe a depth name d = ⟨a.createPipe, { d with commandPipe := a.pipe },
      [.sbCreatePipe depth name a.pipe a.createPipe]⟩ := rfl

@[simp] theorem cfeTblRegister_apply (name : String) (size : Nat) (options : UInt16)
    (validation : TblCallbackFunc) (d : Data p N) :
    cfeTblRegister a name size options validation d = ⟨a.tblRegister,
      { d with tblHandles := d.tblHandles.set exampleTable a.tblHandle exampleTable.isLt },
      [.tblRegister name size options validation a.tblHandle a.tblRegister]⟩ := rfl

@[simp] theorem cfeTblLoad_apply (handle : TblHandle) (srcType : UInt32) (file : String)
    (d : Data p N) :
    cfeTblLoad a handle srcType file d =
      ⟨a.tblLoad, d, [.tblLoad handle srcType file a.tblLoad]⟩ := rfl

@[simp] theorem cfeConfigGetVersionString_apply (d : Data p N) :
    cfeConfigGetVersionString a d = ⟨a.versionString, d, [.configGetVersionString maxVersionStrLen
      "Blinker App" version buildCodename lastOfficial]⟩ := rfl

@[simp] theorem cfeEvsSendEvent_apply (id : UInt16) (type : EventType) (spec : String)
    (args : List Arg) (d : Data p N) :
    cfeEvsSendEvent id type spec args d = ⟨(), d, [.evsSendEvent ⟨id, type, spec, args⟩]⟩ := rfl

@[simp] theorem cfeEsWriteToSysLog_apply (spec : String) (args : List Arg) (d : Data p N) :
    cfeEsWriteToSysLog spec args d = ⟨(), d, [.esWriteToSysLog spec args]⟩ := rfl

@[simp] theorem subscribe_apply (reply : CfeStatus) (msgId : UInt32) (errEid : UInt16)
    (errSpec : String) (d : Data p N) :
    subscribe reply msgId errEid errSpec d = ⟨reply, d,
      .sbSubscribe msgId d.commandPipe reply :: failureReport errEid errSpec reply⟩ := by
  unfold subscribe failureReport
  by_cases failed : reply = cfeSuccess <;> simp [failed, cfeSbSubscribe]

theorem attempts_failureReport (id : UInt16) (spec : String) (status : CfeStatus) :
    (failureReport id spec status : List (Obs p N)).filterMap Obs.attempt? = [] := by
  unfold failureReport
  split <;> rfl

variable (p)

/-- Everything `BLINKER_APP_Init` does. -/
theorem init_apply (d : Data p N) :
    init p a d = ⟨((upToFirstFailure (attempts p a)).getLastD (.tblLoad, cfeSuccess)).2,
      initState p a,
      (upToFirstFailure (attempts p a)).flatMap (attemptTrace p a) ++ announcement a⟩ := by
  have cmdNotHk : cmdMid p ≠ sendHkMid p := cmdMid_ne_sendHkMid p
  have blinkNotHk : blinkCmdMid p ≠ sendHkMid p := (sendHkMid_ne_blinkCmdMid p).symm
  -- one case for each call that can be the first to fail
  unfold init attempts initState announcement Subscribed
  by_cases evs : a.evsRegister = cfeSuccess
  case neg => simp [evs, upToFirstFailure, attemptTrace, initPipeName]
  by_cases pipe : a.createPipe = cfeSuccess
  case neg => simp [evs, pipe, upToFirstFailure, attemptTrace, failureReport, initPipeName]
  by_cases sendHk : a.subscribeSendHk = cfeSuccess
  case neg => simp [evs, pipe, sendHk, upToFirstFailure, attemptTrace, failureReport, initPipeName]
  by_cases cmd : a.subscribeCmd = cfeSuccess
  case neg =>
    simp [evs, pipe, sendHk, cmd, cmdNotHk, upToFirstFailure, attemptTrace, failureReport,
      initPipeName]
  by_cases blink : a.subscribeBlinkCmd = cfeSuccess
  case neg =>
    simp [evs, pipe, sendHk, cmd, blink, cmdNotHk, blinkNotHk, upToFirstFailure, attemptTrace,
      failureReport, initPipeName]
  by_cases registered : a.tblRegister = cfeSuccess
  case neg =>
    simp [evs, pipe, sendHk, cmd, blink, registered, cmdNotHk, blinkNotHk, upToFirstFailure,
      attemptTrace, failureReport, initPipeName]
  simp [evs, pipe, sendHk, cmd, blink, registered, cmdNotHk, blinkNotHk, upToFirstFailure,
    attemptTrace, failureReport, initPipeName, -Fin.val_eq_zero]

/-- The last status is a success exactly when all are. -/
theorem last_upToFirstFailure {α : Type} (calls : List (α × CfeStatus)) {before : α × CfeStatus}
    (ok : before.2 = cfeSuccess) :
    ((upToFirstFailure calls).getLastD before).2 = cfeSuccess ↔
      ∀ call ∈ calls, call.2 = cfeSuccess := by
  induction calls generalizing before with
  | nil => exact iff_of_true ok nofun
  | cons call later ih =>
    rw [upToFirstFailure, List.getLastD_cons, List.forall_mem_cons]
    by_cases passed : call.2 = cfeSuccess
    · rw [if_pos passed, ih passed, and_iff_right passed]
    · rw [if_neg passed]
      exact iff_of_false passed fun all => passed all.1

theorem init_value_iff (d : Data p N) :
    (init p a d).value = cfeSuccess ↔ ∀ call ∈ attempts p a, call.2 = cfeSuccess := by
  rw [init_apply]
  exact last_upToFirstFailure _ rfl

theorem attempts_attemptTrace (call : Attempt × CfeStatus) :
    (attemptTrace p a call : List (Obs p N)).filterMap Obs.attempt? = [call] := by
  obtain ⟨attempt, status⟩ := call
  cases attempt with
  | evsRegister =>
    rw [attemptTrace]
    split <;> rfl
  | createPipe => exact congrArg _ (attempts_failureReport _ _ status)
  | subscribe msgId =>
    rw [attemptTrace]
    split
    · exact congrArg _ (attempts_failureReport _ _ status)
    · exact congrArg _ (attempts_failureReport _ _ status)
  | tblRegister => exact congrArg _ (attempts_failureReport _ _ status)
  | tblLoad => rfl

/-- Initialization makes its calls in order, up to the first one that fails. -/
theorem attempts_init (d : Data p N) :
    (init p a d).trace.filterMap Obs.attempt? = upToFirstFailure (attempts p a) := by
  have announced : (announcement a : List (Obs p N)).filterMap Obs.attempt? = [] := by
    unfold announcement
    split <;> rfl
  rw [init_apply, List.filterMap_append, announced, List.append_nil, List.filterMap_flatMap]
  simp only [attempts_attemptTrace]
  exact List.flatMap_singleton' _

/-- What can be seen of initialization. -/
inductive InitObs : Obs p N → Prop
  | evsRegister (status : CfeStatus) : InitObs (.evsRegister status)
  | msgInit (msgId : UInt32) (size : Nat) : InitObs (.msgInit msgId size)
  | sbCreatePipe (depth : UInt16) (name : List UInt8) (pipe : PipeId) (status : CfeStatus) :
      InitObs (.sbCreatePipe depth name pipe status)
  | sbSubscribe (msgId : UInt32) (known : msgId ∈ [sendHkMid p, cmdMid p, blinkCmdMid p])
      (pipe : PipeId) (status : CfeStatus) : InitObs (.sbSubscribe msgId pipe status)
  | tblRegister (name : String) (size : Nat) (options : UInt16) (handle : TblHandle)
      (status : CfeStatus) :
      InitObs (.tblRegister name size options (tblValidationFunc p.byteOrder) handle status)
  | tblLoad (handle : TblHandle) (srcType : UInt32) (file : String) (status : CfeStatus) :
      InitObs (.tblLoad handle srcType file status)
  | event (event : Event)
      (id : event.id ∈ [initInfEid, crPipeErrEid, subHkErrEid, subCmdErrEid, tableRegErrEid]) :
      InitObs (.evsSendEvent event)
  | sysLog (spec : String) (args : List Arg) : InitObs (.esWriteToSysLog spec args)
  | versionString (length : Nat) (name version codename lastOfficial : String) :
      InitObs (.configGetVersionString length name version codename lastOfficial)

theorem mem_failureReport {id : UInt16} {spec : String} {status : CfeStatus} {e : Obs p N}
    (known : id ∈ [initInfEid, crPipeErrEid, subHkErrEid, subCmdErrEid, tableRegErrEid])
    (member : e ∈ failureReport id spec status) : InitObs p e := by
  unfold failureReport at member
  split at member
  · cases member
  · rw [List.mem_singleton.mp member]
    exact .event _ known

theorem mem_upToFirstFailure {α : Type} {calls : List (α × CfeStatus)} {call : α × CfeStatus}
    (member : call ∈ upToFirstFailure calls) : call ∈ calls := by
  induction calls with
  | nil => cases member
  | cons first later ih =>
    rw [upToFirstFailure] at member
    rcases List.mem_cons.mp member with rfl | rest
    · exact List.mem_cons_self
    · split at rest
      · exact List.mem_cons_of_mem first (ih rest)
      · cases rest

theorem mem_attemptTrace {call : Attempt × CfeStatus} (planned : call ∈ attempts p a) {e : Obs p N}
    (member : e ∈ attemptTrace p a call) : InitObs p e := by
  obtain ⟨attempt, status⟩ := call
  cases attempt with
  | evsRegister =>
    rcases List.mem_cons.mp member with rfl | rest
    · exact .evsRegister status
    · split at rest
      · rw [List.mem_singleton.mp rest]
        exact .msgInit _ _
      · rw [List.mem_singleton.mp rest]
        exact .sysLog _ _
  | createPipe =>
    rcases List.mem_cons.mp member with rfl | report
    · exact .sbCreatePipe _ _ _ _
    · exact mem_failureReport p (by decide) report
  | subscribe msgId =>
    rcases List.mem_cons.mp member with rfl | report
    · refine .sbSubscribe msgId ?_ _ _
      simp only [attempts, List.mem_cons, Prod.mk.injEq, reduceCtorEq, Attempt.subscribe.injEq,
        false_and, false_or, List.not_mem_nil, or_false] at planned
      rcases planned with ⟨rfl, -⟩ | ⟨rfl, -⟩ | ⟨rfl, -⟩ <;> simp
    · split at report
      · exact mem_failureReport p (by decide) report
      · exact mem_failureReport p (by decide) report
  | tblRegister =>
    rcases List.mem_cons.mp member with rfl | report
    · exact .tblRegister _ _ _ _ _
    · exact mem_failureReport p (by decide) report
  | tblLoad =>
    rw [List.mem_singleton.mp member]
    exact .tblLoad _ _ _ _

theorem mem_init {d : Data p N} {e : Obs p N} (member : e ∈ (init p a d).trace) : InitObs p e := by
  rw [init_apply] at member
  rcases List.mem_append.mp member with called | announced
  · obtain ⟨call, made, inside⟩ := List.mem_flatMap.mp called
    exact mem_attemptTrace p a (mem_upToFirstFailure made) inside
  · unfold announcement at announced
    split at announced
    · simp only [List.mem_cons, List.not_mem_nil, or_false] at announced
      rcases announced with rfl | rfl
      · exact .versionString _ _ _ _ _
      · exact .event _ (show initInfEid ∈ _ by decide)
    · cases announced

/-! ## The state after initialization -/

@[simp] theorem initState_cmdCounter : (initState p a : Data p N).cmdCounter = 0 := by
  unfold initState
  split <;> (try split) <;> rfl

@[simp] theorem initState_errCounter : (initState p a : Data p N).errCounter = 0 := by
  unfold initState
  split <;> (try split) <;> rfl

@[simp] theorem initState_blinkerCounts :
    (initState p a : Data p N).blinkerCounts = .replicate N 0 := by
  unfold initState
  split <;> (try split) <;> rfl

@[simp] theorem initState_blinkerStatuses :
    (initState p a : Data p N).blinkerStatuses = .replicate N 0 := by
  unfold initState
  split <;> (try split) <;> rfl

@[simp] theorem initState_payload :
    (initState p a : Data p N).hkTlm.payload = ⟨0, 0, .replicate N 0, .replicate N 0⟩ := by
  unfold initState
  split <;> (try split) <;> rfl

end BlinkerApp
