import BlinkerApp.Proofs.Handlers

/-!
# What the dispatcher does with a message

`taskPipe_apply` says everything one message can do: an accepted message has the
effect and the trace of its request, any other is rejected for the reason
`rejectionOf` gives.
-/

namespace BlinkerApp

open Traced CLayout Cells

variable {N : Nat} (p : Platform) (r : CfeReplies p) (m : SbBuffer) (d : Data p N)

/-! ## The grammar -/

theorem blinkerOf_eq_some {n : UInt16} {k : Fin N} : blinkerOf N n = some k ↔ n.toNat = k := by
  unfold blinkerOf
  split
  · simp [Fin.ext_iff]
  · have := k.isLt
    simp only [reduceCtorEq, false_iff]
    omega

theorem blinkerOf_eq_none {n : UInt16} : blinkerOf N n = none ↔ ¬ n.toNat < N := by
  simp [blinkerOf]

theorem blinkerOf_isSome {n : UInt16} : (blinkerOf N n).isSome ↔ n.toNat < N := by
  simp [blinkerOf]

theorem mem_commands_of_commandOf {code : UInt16} {h : Handler} (found : commandOf code = some h) :
    (code, h) ∈ commands := by
  obtain ⟨before, after, split, -⟩ := List.lookup_eq_some_iff.mp found
  rw [split]
  simp

/-- The commands are the handlers other than the tick and the housekeeping request. -/
theorem handler_ne_of_commandOf {code : UInt16} {h : Handler} (found : commandOf code = some h) :
    h ≠ .sendHk ∧ h ≠ .blink := by
  have inTable := mem_commands_of_commandOf found
  simp only [commands, List.mem_cons, Prod.mk.injEq, List.not_mem_nil, or_false] at inTable
  rcases inTable with ⟨-, rfl⟩ | ⟨-, rfl⟩ | ⟨-, rfl⟩ | ⟨-, rfl⟩ | ⟨-, rfl⟩ | ⟨-, rfl⟩ | ⟨-, rfl⟩ |
    ⟨-, rfl⟩ | ⟨-, rfl⟩ | ⟨-, rfl⟩ | ⟨-, rfl⟩ | ⟨-, rfl⟩ <;> exact ⟨by decide, by decide⟩

/-- A well-sized command makes a request exactly when its numbers are in range. -/
theorem requestOf_isSome {h : Handler} (command : h ≠ .sendHk ∧ h ≠ .blink) :
    (requestOf p N m h).isSome ↔ ∀ n ∈ numbersOf p m h, n.toNat < N := by
  cases h with
  | sendHk => exact absurd rfl command.1
  | blink => exact absurd rfl command.2
  | swapCounts =>
    cases first : blinkerOf N (blinkerNumber1 p m) with
    | none =>
      have out := blinkerOf_eq_none.mp first
      simp [requestOf, numbersOf, first, out]
    | some a =>
      have inside := blinkerOf_isSome.mp (by rw [first]; rfl)
      simp [requestOf, numbersOf, first, inside, blinkerOf_isSome]
  | _ => simp [requestOf, numbersOf, blinkerOf_isSome]

/-- A request belongs to the handler it was made for. -/
theorem handler_of_requestOf {h : Handler} {req : Request N}
    (found : requestOf p N m h = some req) : req.handler = h := by
  cases h <;> simp only [requestOf, Option.map_eq_some_iff, Option.bind_eq_some_iff,
    Option.some.injEq, reduceCtorEq] at found
  all_goals grind [Request.handler]

/-! ## Commands -/

/-- The twelve arms of the `switch` check the length of the struct of their command
and call its handler. -/
theorem processGroundCommand_eq :
    processGroundCommand (N := N) p r m =
      match commandOf m.fcnCode with
      | some h => commandArm p r m (structOf p h) h
      | none => cfeEvsSendEvent ccErrEid .error "Invalid ground command code: CC = %d"
          [.int m.fcnCode.toNat] := by
  unfold processGroundCommand
  split
  case h_13 code other0 other1 other2 other3 other4 other5 other6 other7 other8 other9 other10
      other11 =>
    have undefined : commandOf m.fcnCode = none := by
      simp only [commandOf, commands, List.lookup_eq_none_iff, List.mem_cons, List.not_mem_nil,
        or_false]
      rintro entry (rfl | rfl | rfl | rfl | rfl | rfl | rfl | rfl | rfl | rfl | rfl | rfl) <;>
        simp_all
    rw [undefined]
  all_goals
    rename_i code
    rw [code]
    rfl

theorem call_apply (h : Handler) :
    call p r m h d =
      ⟨(), (handlerBody p r m h d).state,
        (handlerBody p r m h d).trace ++ [.handled h (handlerBody p r m h d).value]⟩ := rfl

theorem commandArm_fits (command : CType) (h : Handler) (fits : m.size = command.size) :
    commandArm p r m command h d = call p r m h d := by
  simp [commandArm, verifyCmdLength, fits]

theorem commandArm_wrongLength (command : CType) (h : Handler) (wrong : m.size ≠ command.size) :
    commandArm p r m command h d =
      ⟨(), { d with errCounter := d.errCounter + 1 },
        [.evsSendEvent ((Rejection.wrongLength command.size).event p N m)]⟩ := by
  simp [commandArm, verifyCmdLength, cfeEvsSendEvent, wrong.symm, Rejection.event]

theorem handlerBody_accepted {h : Handler} {req : Request N}
    (found : requestOf p N m h = some req) :
    handlerBody p r m h d =
      ⟨some (commandStatus r req), effect r d req, handlerTrace p r m d req⟩ := by
  cases h with
  | sendHk => cases found
  | blink => cases found
  | noop => cases found; exact map_of_eq (noopCmd_apply d)
  | resetCounters => cases found; exact map_of_eq (resetCountersCmd_apply d)
  | process => cases found; exact map_of_eq (processCmd_apply p r m d)
  | displayParam => cases found; exact map_of_eq (displayParamCmd_apply p r m d)
  | resetAll => cases found; exact map_of_eq (resetAllBlinkersCmd_apply p r m d)
  | enableAll => cases found; exact map_of_eq (enableAllBlinkersCmd_apply p r m d)
  | disableAll => cases found; exact map_of_eq (disableAllBlinkersCmd_apply p r m d)
  | swapCounts =>
    obtain ⟨a, first, rest⟩ := Option.bind_eq_some_iff.mp found
    obtain ⟨b, second, rfl⟩ := Option.map_eq_some_iff.mp rest
    exact map_of_eq (swapBlinkerCountsCmd_inRange p m d (blinkerOf_eq_some.mp first)
      (blinkerOf_eq_some.mp second))
  | _ =>
    obtain ⟨k, number, rfl⟩ := Option.map_eq_some_iff.mp found
    have value := blinkerOf_eq_some.mp number
    have inRange : (blinkerNumber p m).toNat < N := by rw [value]; exact k.isLt
    simp only [handlerBody, map_apply, resetSpecBlinkersCmd, reportSpecBlinkersCmd,
      enableSpecBlinkersCmd, disableSpecBlinkersCmd]
    rw [specBlinkersCmd_inRange p m _ d inRange, value]
    simp only [bind_apply, storeCount_apply, storeStatus_apply, loadCount_apply, getD_fin,
      setIfInBounds_fin]
    rfl

theorem handlerBody_rejected {h : Handler} (command : h ≠ .sendHk ∧ h ≠ .blink)
    (rejected : requestOf p N m h = none) :
    handlerBody p r m h d = ⟨some (-1), d, (Rejection.outOfRange h).reads p ++
      [.evsSendEvent ((Rejection.outOfRange h).event p N m)]⟩ := by
  cases h with
  | sendHk => exact absurd rfl command.1
  | blink => exact absurd rfl command.2
  | swapCounts =>
    refine map_of_eq (swapBlinkerCountsCmd_outOfRange p m d ?_)
    rintro ⟨first, second⟩
    have both := (requestOf_isSome p m command).mpr
      (by simp only [numbersOf, List.mem_cons, List.not_mem_nil, or_false]
          rintro n (rfl | rfl) <;> assumption)
    rw [rejected] at both
    cases both
  | resetSpec | reportSpec | enableSpec | disableSpec =>
    have out := blinkerOf_eq_none.mp (Option.map_eq_none_iff.mp rejected)
    exact map_of_eq (specBlinkersCmd_outOfRange p m _ d out)
  | _ => cases rejected

/-! ## Messages -/

/-- Everything a message can do. -/
theorem taskPipe_apply :
    taskPipe p r m d = match parse p N m with
      | some req => ⟨(), effect r d req, requestTrace p r m d req⟩
      | none => ⟨(), (rejectionOf p m).effect d, (rejectionOf p m).trace p m⟩ := by
  unfold taskPipe parse rejectionOf
  by_cases isCmd : m.msgId = cmdMid p
  · have notHk : m.msgId ≠ sendHkMid p := by rw [isCmd]; exact cmdMid_ne_sendHkMid p
    have notBlink : m.msgId ≠ blinkCmdMid p := by rw [isCmd]; exact cmdMid_ne_blinkCmdMid p
    simp only [if_pos isCmd, if_neg notHk, if_neg notBlink, processGroundCommand_eq]
    cases code : commandOf m.fcnCode with
    | none => rfl
    | some h =>
      by_cases fits : m.size = (structOf p h).size
      · simp only [if_pos fits, Option.bind_some, commandArm_fits p r m d _ _ fits, call_apply]
        cases found : requestOf p N m h with
        | none =>
          rw [handlerBody_rejected p r m d (handler_ne_of_commandOf code) found]
          simp [Rejection.effect, Rejection.trace, Rejection.handled]
        | some req =>
          have belongs := handler_of_requestOf p m found
          have noTick : handlerStatus r req = some (commandStatus r req) := by
            have := (handler_ne_of_commandOf code).2
            cases req <;> first | rfl | exact absurd belongs.symm this
          rw [handlerBody_accepted p r m d found, ← belongs]
          simp only [requestTrace, noTick]
      · simp only [if_neg fits, Option.bind_some, commandArm_wrongLength p r m d _ _ fits]
        rfl
  · by_cases isHk : m.msgId = sendHkMid p
    · have notBlink : m.msgId ≠ blinkCmdMid p := by rw [isHk]; exact sendHkMid_ne_blinkCmdMid p
      simp only [if_neg isCmd, if_pos isHk, if_neg notBlink, call_apply, handlerBody, map_apply]
      rfl
    · by_cases isBlink : m.msgId = blinkCmdMid p
      · simp only [if_neg isCmd, if_neg isHk, if_pos isBlink, call_apply, handlerBody, bind_apply,
          pure_apply, Outcome.prepend_mk, List.append_nil, blink_apply r d]
        rw [requestTrace, handlerTrace_of_silent p r m d rfl]
        rfl
      · simp only [if_neg isCmd, if_neg isHk, if_neg isBlink]
        rfl

theorem taskPipe_of_accepted {req : Request N} (found : parse p N m = some req) :
    taskPipe p r m d = ⟨(), effect r d req, requestTrace p r m d req⟩ := by
  rw [taskPipe_apply, found]

theorem taskPipe_of_rejected (found : parse p N m = none) :
    taskPipe p r m d = ⟨(), (rejectionOf p m).effect d, (rejectionOf p m).trace p m⟩ := by
  rw [taskPipe_apply, found]

/-- The state after a message is the effect of a request, or at most an error counted. -/
theorem taskPipe_state_cases {motive : Data p N → Prop}
    (accepted : ∀ req, parse p N m = some req → motive (effect r d req))
    (rejected : parse p N m = none → ∀ count, motive { d with errCounter := count }) :
    motive (taskPipe p r m d).state := by
  cases found : parse p N m with
  | some req =>
    rw [taskPipe_of_accepted p r m d found]
    exact accepted req found
  | none =>
    rw [taskPipe_of_rejected p r m d found]
    cases rejectionOf p m <;> exact rejected found _

/-! ## Runs -/

@[simp] theorem runTaskPipe_nil : runTaskPipe p [] d = ⟨(), d, []⟩ := rfl

theorem runTaskPipe_cons (i : Input p) (inputs : List (Input p)) :
    runTaskPipe p (i :: inputs) d =
      (runTaskPipe p inputs (taskPipe p i.replies i.buffer d).state).prepend
        (taskPipe p i.replies i.buffer d).trace := rfl

theorem runTaskPipe_concat_state (inputs : List (Input p)) (i : Input p) :
    (runTaskPipe p (inputs ++ [i]) d).state =
      (taskPipe p i.replies i.buffer (runTaskPipe p inputs d).state).state :=
  each_concat_state _ inputs i d

end BlinkerApp
