import BlinkerApp.Model.EdsDispatch
import BlinkerApp.Model.Main
import BlinkerApp.Proofs.Parsing

/-!
# The two dispatchers

When the hand-written and the table-driven `BLINKER_APP_TaskPipe` leave the same counters
and blinkers.
-/

namespace BlinkerApp

open Traced CLayout

variable {N : Nat} (p : Platform)

/-! ## The data sheet against the grammar -/

/-- The handler of a command of the data sheet. -/
def EdsCommand.handler : EdsCommand → Handler
  | .noopCmd => .noop
  | .resetCountersCmd => .resetCounters
  | .processCmd => .process
  | .displayParamCmd => .displayParam
  | .sendHkCmd => .sendHk

/-- The command of the data sheet a handler belongs to. -/
def edsCommandFor : Handler → Option EdsCommand
  | .noop => some .noopCmd
  | .resetCounters => some .resetCountersCmd
  | .process => some .processCmd
  | .displayParam => some .displayParamCmd
  | _ => none

theorem handler_of_edsCommandFor {h : Handler} {c : EdsCommand} (found : edsCommandFor h = some c) :
    c.handler = h := by
  cases h <;> cases found <;> rfl

theorem edsSize_eq (c : EdsCommand) : c.size p = (structOf p c.handler).size := by
  cases c <;> rfl

/-- The request a command of the data sheet makes. -/
def EdsCommand.request : EdsCommand → Request N
  | .noopCmd => .noop
  | .resetCountersCmd => .resetCounters
  | .processCmd => .process
  | .displayParamCmd => .displayParam
  | .sendHkCmd => .sendHk

/-- The entry of a command carries out its request. -/
theorem entry_apply (r : CfeReplies p) (c : EdsCommand) (m : SbBuffer) (d : Data p N) :
    let req : Request N := c.request
    (blinkerTcDispatchTable p r).entry c m d =
      ⟨commandStatus r req, effect r d req, handlerTrace p r m d req⟩ := by
  cases c with
  | noopCmd => exact noopCmd_apply d
  | resetCountersCmd => exact resetCountersCmd_apply d
  | processCmd => exact processCmd_apply p r m d
  | displayParamCmd => exact displayParamCmd_apply p r m d
  | sendHkCmd => rfl

/-- A command that arrives on `CMD` has its function code in the hand-written dispatcher too. -/
theorem commandOf_of_admits {c : EdsCommand} (onCmd : c ∈ EdsInterface.cmd.commands) {code : UInt16}
    (admitted : c.admits code = true) : commandOf code = some c.handler := by
  cases c with
  | sendHkCmd => simp [EdsInterface.commands] at onCmd
  | _ =>
    obtain rfl : _ = code := by simpa [EdsCommand.admits, EdsCommand.functionCode] using admitted
    rfl

theorem requestOf_handler {m : SbBuffer} {c : EdsCommand}
    (onCmd : edsCommandFor c.handler = some c) :
    requestOf p N m c.handler = some c.request := by
  cases c <;> first | rfl | cases onCmd

/-- Of the ground commands, the data sheet has the four of the sample application. -/
theorem edsCommandOf_of_cmdMid {m : SbBuffer} (isCmd : m.msgId = cmdMid p) :
    edsCommandOf p m = (commandOf m.fcnCode).bind edsCommandFor := by
  have interface : edsInterfaceOf p m = some .cmd := if_pos isCmd
  unfold edsCommandOf
  rw [interface, Option.bind_some]
  cases code : commandOf m.fcnCode with
  | some h =>
    have inTable := mem_commands_of_commandOf code
    simp only [commands, List.mem_cons, Prod.mk.injEq, List.not_mem_nil, or_false] at inTable
    rcases inTable with ⟨value, rfl⟩ | ⟨value, rfl⟩ | ⟨value, rfl⟩ | ⟨value, rfl⟩ | ⟨value, rfl⟩ |
      ⟨value, rfl⟩ | ⟨value, rfl⟩ | ⟨value, rfl⟩ | ⟨value, rfl⟩ | ⟨value, rfl⟩ | ⟨value, rfl⟩ |
      ⟨value, rfl⟩ <;> rw [value] <;> rfl
  | none =>
    refine List.find?_eq_none.mpr fun c member admitted => ?_
    rw [commandOf_of_admits member admitted] at code
    cases code

theorem edsCommandOf_of_sendHkMid {m : SbBuffer} (isHk : m.msgId = sendHkMid p) :
    edsCommandOf p m = some .sendHkCmd := by
  have notCmd : m.msgId ≠ cmdMid p := by rw [isHk]; exact (cmdMid_ne_sendHkMid p).symm
  have interface : edsInterfaceOf p m = some .sendHk := (if_neg notCmd).trans (if_pos isHk)
  unfold edsCommandOf
  rw [interface]
  rfl

theorem edsInterfaceOf_eq_none {m : SbBuffer} (notCmd : m.msgId ≠ cmdMid p)
    (notHk : m.msgId ≠ sendHkMid p) : edsInterfaceOf p m = none :=
  (if_neg notCmd).trans (if_neg notHk)

/-! ## The table-driven dispatcher -/

/-- One error more. -/
def Data.countError {p : Platform} (d : Data p N) : Data p N :=
  { d with errCounter := d.errCounter + 1 }

section Dispatcher

variable {e : EdsDispatcher p N} (sound : e.Sound p) (r : CfeReplies p) (m : SbBuffer)
  (d : Data p N)

/-- Every error of the generated function is counted. -/
theorem edsTaskPipe_state :
    (edsTaskPipe p e r m d).state =
      if (e.dispatch (blinkerTcDispatchTable p r) m d).value = cfeSuccess then
        (e.dispatch (blinkerTcDispatchTable p r) m d).state
      else (e.dispatch (blinkerTcDispatchTable p r) m d).state.countError := by
  unfold edsTaskPipe
  rw [bind_apply, Outcome.prepend_state]
  generalize e.dispatch (blinkerTcDispatchTable p r) m d = outcome
  obtain ⟨status, after, trace⟩ := outcome
  by_cases ok : status = cfeSuccess
  · simp [ok]
  · -- the events differ, what is counted does not
    simp only [if_neg ok, if_pos (show status ≠ cfeSuccess from ok), bind_apply,
      Outcome.prepend_state]
    split
    · rfl
    · split <;> rfl

include sound

/-- A message without an entry in the table, or of the wrong length, is counted as an error. -/
theorem edsTaskPipe_error
    (rejected : ∀ c, edsCommandOf p m = some c → m.size ≠ c.size p) :
    (edsTaskPipe p e r m d).state = d.countError := by
  have error : ∃ error, error ≠ cfeSuccess ∧
      e.dispatch (blinkerTcDispatchTable p r) m d = ⟨error, d, []⟩ := by
    cases interface : edsInterfaceOf p m with
    | none => exact ⟨_, p.errorCodes.1, sound.unknownTopic _ m d interface⟩
    | some i =>
      cases found : edsCommandOf p m with
      | none => exact sound.noEntry _ m d (by rw [interface]; rfl) found
      | some c => exact ⟨_, p.errorCodes.2, sound.wrongLength _ m d c found (rejected c found)⟩
  obtain ⟨error, failed, same⟩ := error
  rw [edsTaskPipe_state, same]
  exact if_neg failed

/-- A command of the data sheet is carried out, and a failure it leads to is counted. -/
theorem edsTaskPipe_called {c : EdsCommand} (found : edsCommandOf p m = some c)
    (fits : m.size = c.size p) :
    let req : Request N := c.request
    (edsTaskPipe p e r m d).state =
      if commandStatus r req = cfeSuccess ∨ e.afterError (commandStatus r req) = cfeSuccess then
        effect r d req
      else (effect r d req).countError := by
  intro req
  rw [edsTaskPipe_state, sound.called _ m d c found fits, entry_apply]
  by_cases ok : commandStatus r req = cfeSuccess
  · simp [req, ok]
  · simp [req, ok]

end Dispatcher

/-! ## The hand-written dispatcher -/

section HandWritten

variable {p} (r : CfeReplies p) {m : SbBuffer} (d : Data p N) (isCmd : m.msgId = cmdMid p)

include isCmd

theorem taskPipe_unknownCode (code : commandOf m.fcnCode = none) :
    (taskPipe p r m d).state = d := by
  have rejected : parse p N m = none := by rw [parse_of_cmdMid p m isCmd, code]; rfl
  have why : rejectionOf p m = .unknownCode := by simp [rejectionOf, isCmd, code]
  rw [taskPipe_of_rejected p r m d rejected, why]
  rfl

variable {h : Handler} (code : commandOf m.fcnCode = some h)

include code

theorem taskPipe_wrongLength (wrong : m.size ≠ (structOf p h).size) :
    (taskPipe p r m d).state = d.countError := by
  have rejected : parse p N m = none := by
    rw [parse_of_cmdMid p m isCmd, code, Option.bind_some, if_neg wrong]
  have why : rejectionOf p m = .wrongLength (structOf p h).size := by
    simp [rejectionOf, isCmd, code, wrong]
  rw [taskPipe_of_rejected p r m d rejected, why]
  rfl

theorem taskPipe_called (fits : m.size = (structOf p h).size) :
    (taskPipe p r m d).state = (handlerBody p r m h d).state := by
  have parsed : parse p N m = requestOf p N m h := by
    rw [parse_of_cmdMid p m isCmd, code, Option.bind_some, if_pos fits]
  cases made : requestOf p N m h with
  | some req =>
    rw [taskPipe_of_accepted p r m d (parsed.trans made), handlerBody_accepted p r m d made]
  | none =>
    have why : rejectionOf p m = .outOfRange h := by simp [rejectionOf, isCmd, code, fits]
    rw [taskPipe_of_rejected p r m d (parsed.trans made), why,
      handlerBody_rejected p r m d (handler_ne_of_commandOf code) made]
    rfl

omit isCmd in
/-- The commands the data sheet does not have count no error. -/
theorem errCounter_of_not_listed (unlisted : edsCommandFor h = none) :
    (handlerBody p r m h d).state.errCounter = d.errCounter := by
  cases made : requestOf p N m h with
  | some req =>
    have belongs := handler_of_requestOf p m made
    rw [handlerBody_accepted p r m d made]
    cases req with
    | resetCounters => rw [← belongs] at unlisted; cases unlisted
    | _ => rfl
  | none => rw [handlerBody_rejected p r m d (handler_ne_of_commandOf code) made]

end HandWritten

/-! ## Agreement -/

/-- The counters and the blinkers. -/
def Data.ledger {p : Platform} (d : Data p N) : UInt8 × UInt8 × Vector UInt16 N × Vector UInt8 N :=
  (d.cmdCounter, d.errCounter, d.blinkerCounts, d.blinkerStatuses)

/-- The messages with which both dispatchers do the same. -/
inductive DispatchedAlike (e : EdsDispatcher p N) (r : CfeReplies p) (m : SbBuffer) : Prop
  /-- A ground command of any of the twelve codes, of the wrong length: both count an error. -/
  | wrongLength (h : Handler) (isCmd : m.msgId = cmdMid p) (code : commandOf m.fcnCode = some h)
      (wrong : m.size ≠ (structOf p h).size)
  /-- A command of the data sheet, of the right length: both call its handler. An error of
  `PROCESS` is counted unless the generated function turns it into a success. -/
  | called (c : EdsCommand) (found : edsCommandOf p m = some c) (fits : m.size = c.size p)
      (uncounted : c = .processCmd →
        processStatus r = cfeSuccess ∨ e.afterError (processStatus r) = cfeSuccess)

theorem ledger_ne_of_counted {p : Platform} {d d' : Data p N}
    (same : d'.errCounter = d.errCounter) : d'.ledger ≠ d.countError.ledger := by
  intro equal
  have counted : d'.errCounter = d.errCounter + 1 := congrArg (·.2.1) equal
  rw [same] at counted
  have values := congrArg UInt8.toNat counted
  rw [UInt8.toNat_add] at values
  have below := d.errCounter.toNat_lt
  have one : (1 : UInt8).toNat = 1 := rfl
  omega

section Step

variable {p} {e : EdsDispatcher p N} (sound : e.Sound p) (r : CfeReplies p) {m : SbBuffer}
  (d : Data p N)

omit d in
theorem commandStatus_request (c : EdsCommand) :
    commandStatus r (c.request : Request N) =
      if c = .processCmd then processStatus r else cfeSuccess := by
  cases c <;> rfl

include sound

/-- Both dispatchers carry out a command of the data sheet. -/
theorem agree_called {c : EdsCommand} (found : edsCommandOf p m = some c) (fits : m.size = c.size p)
    (called : (taskPipe p r m d).state = effect r d c.request) :
    (taskPipe p r m d).state.ledger = (edsTaskPipe p e r m d).state.ledger ↔
      DispatchedAlike p e r m := by
  have inSheet : DispatchedAlike p e r m ↔ (c = .processCmd →
      processStatus r = cfeSuccess ∨ e.afterError (processStatus r) = cfeSuccess) := by
    constructor
    · rintro (⟨h, isCmd, code, wrong⟩ | ⟨c', found', -, uncounted⟩)
      · rw [edsCommandOf_of_cmdMid p isCmd, code] at found
        rw [← handler_of_edsCommandFor found, ← edsSize_eq] at wrong
        exact absurd fits wrong
      · rw [found] at found'
        cases found'
        exact uncounted
    · exact .called c found fits
  rw [inSheet, edsTaskPipe_called p sound r m d found fits, called, commandStatus_request]
  by_cases isProcess : c = .processCmd
  · simp only [if_pos isProcess]
    split
    case isTrue uncounted => exact iff_of_true rfl fun _ => uncounted
    case isFalse counted =>
      exact iff_of_false (ledger_ne_of_counted rfl) fun claim => counted (claim isProcess)
  · simp [isProcess]

/-- Only the table-driven dispatcher counts a message it has no entry for. -/
theorem agree_rejected (rejected : ∀ c, edsCommandOf p m = some c → m.size ≠ c.size p)
    (sized : m.msgId = cmdMid p → ∀ h, commandOf m.fcnCode = some h → m.size = (structOf p h).size)
    (uncounted : (taskPipe p r m d).state.errCounter = d.errCounter) :
    (taskPipe p r m d).state.ledger = (edsTaskPipe p e r m d).state.ledger ↔
      DispatchedAlike p e r m := by
  rw [edsTaskPipe_error p sound r m d rejected]
  refine iff_of_false (ledger_ne_of_counted uncounted) ?_
  rintro (⟨h, isCmd, code, wrong⟩ | ⟨c, found, fits, -⟩)
  · exact wrong (sized isCmd h code)
  · exact rejected c found fits

theorem agree_cmdMid (isCmd : m.msgId = cmdMid p) :
    (taskPipe p r m d).state.ledger = (edsTaskPipe p e r m d).state.ledger ↔
      DispatchedAlike p e r m := by
  have sheet := edsCommandOf_of_cmdMid p isCmd
  cases code : commandOf m.fcnCode with
  | none =>
    rw [code] at sheet
    refine agree_rejected sound r d ?_ ?_ ?_
    · rw [sheet]
      exact nofun
    · rw [code]
      exact nofun
    · rw [taskPipe_unknownCode r d isCmd code]
  | some h =>
    rw [code, Option.bind_some] at sheet
    by_cases fits : m.size = (structOf p h).size
    · cases entry : edsCommandFor h with
      | none =>
        refine agree_rejected sound r d ?_ ?_ ?_
        · rw [sheet, entry]
          exact nofun
        · rw [code]
          rintro _ h' ⟨⟩
          exact fits
        · rw [taskPipe_called r d isCmd code fits]
          exact errCounter_of_not_listed r d code entry
      | some c =>
        obtain rfl := handler_of_edsCommandFor entry
        refine agree_called sound r d (sheet.trans entry) (fits.trans (edsSize_eq p c).symm) ?_
        rw [taskPipe_called r d isCmd code fits, handlerBody_accepted p r m d
          (requestOf_handler p entry)]
    · refine iff_of_true ?_ (.wrongLength h isCmd code fits)
      rw [taskPipe_wrongLength r d isCmd code fits, edsTaskPipe_error p sound r m d]
      intro c found
      rw [edsSize_eq, handler_of_edsCommandFor (sheet.symm.trans found)]
      exact fits

/-- The dispatchers do the same with a message exactly when it is one of those. -/
theorem ledger_agree_iff :
    (taskPipe p r m d).state.ledger = (edsTaskPipe p e r m d).state.ledger ↔
      DispatchedAlike p e r m := by
  by_cases isCmd : m.msgId = cmdMid p
  · exact agree_cmdMid sound r d isCmd
  have uncounted := (counters_of_not_cmdMid p m isCmd r d).2
  by_cases isHk : m.msgId = sendHkMid p
  · have found := edsCommandOf_of_sendHkMid p isHk
    by_cases fits : m.size = EdsCommand.sendHkCmd.size p
    · have parsed : parse p N m = some .sendHk := by
        have notBlink : m.msgId ≠ blinkCmdMid p := by rw [isHk]; exact sendHkMid_ne_blinkCmdMid p
        rw [parse_of_not_cmdMid p m isCmd, if_neg notBlink, if_pos isHk]
      apply agree_called sound r d found fits
      rw [taskPipe_of_accepted p r m d parsed]
      rfl
    · refine agree_rejected sound r d ?_ (fun cmd => absurd cmd isCmd) uncounted
      rw [found]
      rintro c ⟨⟩
      exact fits
  · refine agree_rejected sound r d ?_ (fun cmd => absurd cmd isCmd) uncounted
    have unlisted : edsCommandOf p m = none := by
      unfold edsCommandOf
      rw [edsInterfaceOf_eq_none p isCmd isHk]
      rfl
    rw [unlisted]
    exact nofun

end Step

/-! ## Runs -/

variable {p} {e : EdsDispatcher p N}

/-- What a message does to the counters and the blinkers depends on nothing else. -/
theorem ledger_taskPipe (r : CfeReplies p) (m : SbBuffer) {d d' : Data p N}
    (same : d.ledger = d'.ledger) :
    (taskPipe p r m d).state.ledger = (taskPipe p r m d').state.ledger := by
  simp only [Data.ledger, Prod.mk.injEq] at same
  obtain ⟨cmd, err, counts, statuses⟩ := same
  rw [taskPipe_apply, taskPipe_apply]
  cases parse p N m with
  | some req => cases req <;> simp [effect, Data.ledger, cmd, err, counts, statuses]
  | none =>
    cases rejectionOf p m <;> simp [Rejection.effect, Data.ledger, cmd, err, counts, statuses]

/-- The dispatchers agree on a message exactly when it is dispatched alike, and all along a run
exactly when all its messages are. -/
theorem dispatchers_agree_iff (sound : e.Sound p) :
    (∀ r m (d : Data p N),
      (taskPipe p r m d).state.ledger = (edsTaskPipe p e r m d).state.ledger ↔
        DispatchedAlike p e r m) ∧
    ∀ (d : Data p N) (inputs : List (Input p)),
      (∀ part, part <+: inputs →
        (runTaskPipe p part d).state.ledger = (runEdsTaskPipe p e part d).state.ledger) ↔
        ∀ i ∈ inputs, DispatchedAlike p e i.replies i.buffer := by
  refine ⟨fun r m d => ledger_agree_iff sound r d, fun d inputs => ?_⟩
  refine forall_prefix_iff (P := fun part => (runTaskPipe p part d).state.ledger =
    (runEdsTaskPipe p e part d).state.ledger) rfl (fun part i same => ?_) inputs
  rw [runTaskPipe_concat_state, show (runEdsTaskPipe p e (part ++ [i]) d).state = _ from
    each_concat_state _ part i d, ledger_taskPipe i.replies i.buffer same]
  exact ledger_agree_iff sound i.replies _

/-! ## A generated function -/

/-- A function that returns what the handlers return, and `CFE_STATUS_BAD_COMMAND_CODE` for a
function code without an entry. -/
def passingDispatcher (p : Platform) : EdsDispatcher p N where
  dispatch table m :=
    if (edsInterfaceOf p m).isNone then pure p.unknownMsgId
    else match edsCommandOf p m with
      | none => pure (-0x37FFFFFC)
      | some c => if m.size = c.size p then table.entry c m else pure p.wrongMsgLength
  afterError := id

theorem edsInterfaceOf_of_command {m : SbBuffer} {c : EdsCommand}
    (found : edsCommandOf p m = some c) :
    edsInterfaceOf p m ≠ none := by
  intro unknown
  rw [edsCommandOf, unknown] at found
  cases found

theorem passingDispatcher_sound : (passingDispatcher p : EdsDispatcher p N).Sound p where
  unknownTopic table m d unknown := by simp [passingDispatcher, unknown]
  noEntry table m d known unlisted := by
    refine ⟨-0x37FFFFFC, by decide, ?_⟩
    simp [passingDispatcher, Option.isSome_iff_ne_none.mp known, unlisted]
  wrongLength table m d c found wrong := by
    simp [passingDispatcher, edsInterfaceOf_of_command found, found, wrong]
  called table m d c found fits := by
    have passed (status : CfeStatus) :
        (if status = cfeSuccess then cfeSuccess else id status) = status :=
      ite_eq_right_iff.mpr fun ok => ok.symm
    simp only [passingDispatcher, Option.isNone_iff_eq_none, edsInterfaceOf_of_command found, found,
      fits, passed, if_true, if_false]

/-- A command to enable all blinkers is carried out by the hand-written dispatcher only. -/
theorem not_dispatchers_agree :
    ¬ ∀ (N : Nat) (p : Platform) (e : EdsDispatcher p N), e.Sound p → ∀ r m (d : Data p N),
      (taskPipe p r m d).state.ledger = (edsTaskPipe p e r m d).state.ledger := by
  intro claim
  let p := defaultPlatform
  have agree := claim 2 p (passingDispatcher p) passingDispatcher_sound default
    (groundCommand p enableAllBlinkersCc []) (zeroData p)
  exact absurd (congrArg (·.2.1) agree) (by decide)

/-- No-ops, a `PROCESS` that finds its table, a command of a wrong length, and a request. -/
def alikeRun (p : Platform) : List (Input p) :=
  [⟨default, groundCommand p noopCc []⟩, ⟨default, groundCommand p processCc []⟩,
   ⟨default, groundCommand p enableAllBlinkersCc [0]⟩, ⟨default, groundCommand p noopCc []⟩,
   ⟨default, bareMessage p (sendHkMid p)⟩]

/-- From a state in which a blinker is enabled and has counted. -/
theorem dispatchers_agree_iff_alike :
    let p := defaultPlatform
    let d : Data p 2 := { (zeroData p : Data p 2) with
      errCounter := 7, blinkerCounts := #v[3, 0], blinkerStatuses := #v[1, 0] }
    (runTaskPipe p (alikeRun p) d).state.ledger =
        (runEdsTaskPipe p (passingDispatcher p) (alikeRun p) d).state.ledger ∧
      (runTaskPipe p (alikeRun p) d).state.ledger = (2, 8, #v[3, 0], #v[1, 0]) := by
  intro p d
  refine ⟨((dispatchers_agree_iff passingDispatcher_sound).2 d _).mpr ?_ _ List.prefix_rfl,
    by decide⟩
  intro i member
  simp only [alikeRun, List.mem_cons, List.not_mem_nil, or_false] at member
  rcases member with rfl | rfl | rfl | rfl | rfl
  · exact .called .noopCmd rfl (by decide) nofun
  · exact .called .processCmd rfl (by decide) fun _ => .inl rfl
  · exact .wrongLength .enableAll rfl rfl (by decide)
  · exact .called .noopCmd rfl (by decide) nofun
  · exact .called .sendHkCmd rfl (by decide) nofun

end BlinkerApp
