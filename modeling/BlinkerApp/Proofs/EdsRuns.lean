import BlinkerApp.Misc.Tally
import BlinkerApp.Proofs.EdsDispatch
import BlinkerApp.Proofs.StartUp
import BlinkerApp.Spec.Blinkers

/-!
# Runs of the table-driven dispatcher

In a build from the data sheet every failure is counted and reported once, whatever made it, a
tick among them; and no message of any run reaches a blinker. None of it depends on the types
that are generated for the payloads.
-/

namespace BlinkerApp

open Traced

variable {N : Nat} (p : Platform)

/-- The command of the data sheet that a message is, with the length of this command. -/
def edsAccepted (m : SbBuffer) : Option EdsCommand :=
  (edsCommandOf p m).filter fun c => m.size = c.size p

/-- The message fails: it is no command of the data sheet, or a `PROCESS` whose error the
generated function passes on. -/
def edsFailed (e : EdsDispatcher p N) (i : Input p) : Bool :=
  match edsAccepted p i.buffer with
  | none => true
  | some c => c = .processCmd ∧ processStatus i.replies ≠ cfeSuccess ∧
      e.afterError (processStatus i.replies) ≠ cfeSuccess

/-- The error event of a failure. -/
def edsErrorEvent (m : SbBuffer) (status : CfeStatus) : Event :=
  if status = p.unknownMsgId then
    ⟨midErrEid, .error, "BLINKER: invalid command packet,MID = 0x%x", [.int m.msgId.toNat]⟩
  else if status = p.wrongMsgLength then
    ⟨cmdLenErrEid, .error, "Invalid Msg length: ID = 0x%X,  CC = %u, Len = %u",
      [.int m.msgId.toNat, .int m.fcnCode.toNat, unsignedInt m.size]⟩
  else
    ⟨ccErrEid, .error, "BLINKER: Invalid ground command code: CC = %d", [.int m.fcnCode.toNat]⟩

/-! ## One message -/

section Message

variable (e : EdsDispatcher p N) (r : CfeReplies p) (m : SbBuffer) (d : Data p N)

/-- What the dispatcher makes of what the generated function returns. -/
theorem edsTaskPipe_apply :
    let o := e.dispatch (blinkerTcDispatchTable p r) m d
    edsTaskPipe p e r m d =
      if o.value = cfeSuccess then ⟨(), o.state, o.trace⟩
      else ⟨(), o.state.countError, o.trace ++ [.evsSendEvent (edsErrorEvent p m o.value)]⟩ := by
  unfold edsTaskPipe edsErrorEvent
  rw [bind_apply]
  generalize e.dispatch (blinkerTcDispatchTable p r) m d = outcome
  obtain ⟨status, after, trace⟩ := outcome
  by_cases ok : status = cfeSuccess
  · simp [ok]
  · simp only [if_neg ok, if_pos (show status ≠ cfeSuccess from ok), bind_apply]
    split
    · rfl
    · split <;> rfl

variable {e} (sound : e.Sound p)

include sound

theorem dispatch_rejected (rejected : edsAccepted p m = none) :
    ∃ error, error ≠ cfeSuccess ∧ e.dispatch (blinkerTcDispatchTable p r) m d = ⟨error, d, []⟩ := by
  cases found : edsCommandOf p m with
  | none =>
    cases interface : edsInterfaceOf p m with
    | none => exact ⟨_, p.errorCodes.1, sound.unknownTopic _ m d interface⟩
    | some i => exact sound.noEntry _ m d (by rw [interface]; rfl) found
  | some c =>
    have wrong : m.size ≠ c.size p := by
      rw [edsAccepted, found, Option.filter_eq_none_iff] at rejected
      simpa using rejected
    exact ⟨_, p.errorCodes.2, sound.wrongLength _ m d c found wrong⟩

theorem dispatch_accepted {c : EdsCommand} (accepted : edsAccepted p m = some c) :
    let req : Request N := c.request
    e.dispatch (blinkerTcDispatchTable p r) m d =
      ⟨if commandStatus r req = cfeSuccess then cfeSuccess else e.afterError (commandStatus r req),
        effect r d req, handlerTrace p r m d req⟩ := by
  obtain ⟨found, fits⟩ := Option.filter_eq_some_iff.mp accepted
  have called := sound.called (blinkerTcDispatchTable p r) m d c found (of_decide_eq_true fits)
  rwa [entry_apply] at called

/-- What the generated function does with a message. -/
theorem dispatch_apply :
    ∃ status, (status = cfeSuccess ↔ edsFailed p e ⟨r, m⟩ = false) ∧
      e.dispatch (blinkerTcDispatchTable p r) m d =
        match edsAccepted p m with
        | none => ⟨status, d, []⟩
        | some c => ⟨status, effect r d c.request, handlerTrace p r m d c.request⟩ := by
  unfold edsFailed
  cases accepted : edsAccepted p m with
  | none =>
    obtain ⟨error, failed, same⟩ := dispatch_rejected p r m d sound accepted
    exact ⟨error, iff_of_false failed (by simp), same⟩
  | some c =>
    refine ⟨_, ?_, dispatch_accepted p r m d sound accepted⟩
    dsimp only
    cases c with
    | processCmd =>
      show (if processStatus r = cfeSuccess then cfeSuccess
        else e.afterError (processStatus r)) = cfeSuccess ↔ _
      by_cases ok : processStatus r = cfeSuccess <;> simp [ok]
    | noopCmd | resetCountersCmd | displayParamCmd | sendHkCmd =>
      exact iff_of_true (if_pos rfl) (by simp)

/-- The state and the error events a message leaves. -/
theorem edsTaskPipe_step :
    let o := edsTaskPipe p e r m d
    let after := match edsAccepted p m with
      | none => d
      | some c => effect r d c.request
    (o.state = if edsFailed p e ⟨r, m⟩ then after.countError else after) ∧
      (o.trace.filterMap Obs.errorEvent?).length = if edsFailed p e ⟨r, m⟩ then 1 else 0 := by
  obtain ⟨status, ok, same⟩ := dispatch_apply p r m d sound
  have calm (req : Request N) : (handlerTrace p r m d req).filterMap Obs.errorEvent? = [] := by
    have quiet := errorEvents_requestTrace p r m d req
    rw [requestTrace, List.filterMap_append] at quiet
    exact (List.append_eq_nil_iff.mp quiet).1
  have reported (status : CfeStatus) :
      (Obs.evsSendEvent (edsErrorEvent p m status) : Obs p N).errorEvent? =
        some (edsErrorEvent p m status) := by
    unfold edsErrorEvent
    split
    · rfl
    · split <;> rfl
  rw [edsTaskPipe_apply, same]
  cases failed : edsFailed p e ⟨r, m⟩ with
  | true =>
    have bad : status ≠ cfeSuccess := fun good => by simp [ok.mp good] at failed
    cases edsAccepted p m with
    | none => simp [bad, reported]
    | some c => simp [bad, reported, calm]
  | false =>
    have good : status = cfeSuccess := ok.mpr failed
    cases edsAccepted p m with
    | none => simp [good]
    | some c => simp [good, calm]

end Message

/-! ## Runs -/

/-- The message resets the counters. -/
def edsResets (i : Input p) : Bool := edsAccepted p i.buffer = some .resetCountersCmd

/-- The message is a no-op. -/
def edsNoop (i : Input p) : Bool := edsAccepted p i.buffer = some .noopCmd

section Runs

variable {p} {e : EdsDispatcher p N} (sound : e.Sound p)

include sound

theorem edsTaskPipe_blinkers (i : Input p) (d : Data p N) :
    SameBlinkers (edsTaskPipe p e i.replies i.buffer d).state d := by
  rw [(edsTaskPipe_step p i.replies i.buffer d sound).1]
  cases edsFailed p e i <;> cases edsAccepted p i.buffer with
  | none => exact ⟨rfl, rfl⟩
  | some c => cases c <;> exact ⟨rfl, rfl⟩

theorem edsTaskPipe_cmdCounter (i : Input p) (d : Data p N) :
    (edsTaskPipe p e i.replies i.buffer d).state.cmdCounter =
      if edsResets p i then 0 else if edsNoop p i then d.cmdCounter + 1 else d.cmdCounter := by
  rw [(edsTaskPipe_step p i.replies i.buffer d sound).1]
  unfold edsResets edsNoop
  cases edsFailed p e i <;> cases edsAccepted p i.buffer with
  | none => rfl
  | some c => cases c <;> rfl

theorem edsTaskPipe_errCounter (i : Input p) (d : Data p N) :
    (edsTaskPipe p e i.replies i.buffer d).state.errCounter =
      if edsResets p i then 0 else if edsFailed p e i then d.errCounter + 1 else d.errCounter := by
  rw [(edsTaskPipe_step p i.replies i.buffer d sound).1]
  unfold edsResets edsFailed
  cases edsAccepted p i.buffer with
  | none => rfl
  | some c =>
    cases c with
    | processCmd => exact apply_ite Data.errCounter _ _ _
    | _ => rfl

/-- In every run of a build from the data sheet, no blinker changes, `CmdCounter` shows the
no-ops and `ErrCounter` all failures since the last reset of the counters, and every failure is
reported by one error event. -/
theorem edsRun_accounting (a : InitReplies p) (d₀ : Data p N) (inputs : List (Input p)) :
    let start := (init p a d₀).state
    let o := runEdsTaskPipe p e inputs start
    SameBlinkers o.state start ∧
      o.state.cmdCounter = UInt8.ofNat (tally (edsResets p) (edsNoop p) inputs) ∧
      o.state.errCounter = UInt8.ofNat (tally (edsResets p) (edsFailed p e) inputs) ∧
      (o.trace.filterMap Obs.errorEvent?).length = inputs.countP (edsFailed p e) := by
  intro start o
  have fresh : start = initState p a := congrArg Outcome.state (init_apply p a d₀)
  have noCommand : start.cmdCounter = 0 := by simp [fresh]
  have noError : start.errCounter = 0 := by simp [fresh]
  have step (i : Input p) (d : Data p N) (same : SameBlinkers d start) :
      SameBlinkers (edsTaskPipe p e i.replies i.buffer d).state start := by
    obtain ⟨counts, statuses⟩ := edsTaskPipe_blinkers sound i d
    exact ⟨counts.trans same.1, statuses.trans same.2⟩
  refine ⟨?_, ?_, ?_, ?_⟩
  · exact each_invariant (fun i _ => step i) ⟨rfl, rfl⟩
  · exact (each_tally (edsTaskPipe_cmdCounter sound) noCommand inputs).trans
      (UInt8.iterate_succ _)
  · exact (each_tally (edsTaskPipe_errCounter sound) noError inputs).trans (UInt8.iterate_succ _)
  · exact each_countP (fun i d => (edsTaskPipe_step p i.replies i.buffer d sound).2) inputs start

end Runs

/-- A no-op before the counters are reset; then a no-op, a tick, a command to enable a blinker, a
command of a wrong length, and a `PROCESS` without a table. -/
def failingMessages (p : Platform) : List (Input p) :=
  [⟨default, groundCommand p noopCc []⟩, ⟨default, groundCommand p resetCountersCc []⟩,
   ⟨default, groundCommand p noopCc []⟩, ⟨default, bareMessage p (blinkCmdMid p)⟩,
   ⟨default, groundCommand p enableSpecBlinkerCc [0, 0, 0, 0]⟩,
   ⟨default, groundCommand p noopCc [0]⟩,
   ⟨{ (default : CfeReplies p) with getAddress := -1 }, groundCommand p processCc []⟩]

/-- One no-op since the reset, and four failures. -/
theorem edsRun_accounting_failing :
    let p := defaultPlatform
    let start : Data p 1 := (init p default (zeroData p)).state
    let o := runEdsTaskPipe p (passingDispatcher p) (failingMessages p) start
    SameBlinkers o.state start ∧ o.state.cmdCounter = 1 ∧ o.state.errCounter = 4 ∧
      (o.trace.filterMap Obs.errorEvent?).length = 4 :=
  edsRun_accounting passingDispatcher_sound default (zeroData defaultPlatform)
    (failingMessages defaultPlatform)

end BlinkerApp
