import BlinkerApp.Proofs.Dispatch

/-!
# The grammar as a parser

A message parses exactly when it is in the grammar, and otherwise it is rejected for a
reason that holds of it.
-/

namespace BlinkerApp

variable {N : Nat} (p : Platform) (m : SbBuffer)

/-- Parsing a ground command. -/
theorem parse_of_cmdMid (isCmd : m.msgId = cmdMid p) :
    parse p N m = (commandOf m.fcnCode).bind fun h =>
      if m.size = (structOf p h).size then requestOf p N m h else none := by
  have notHk : m.msgId ≠ sendHkMid p := by rw [isCmd]; exact cmdMid_ne_sendHkMid p
  have notBlink : m.msgId ≠ blinkCmdMid p := by rw [isCmd]; exact cmdMid_ne_blinkCmdMid p
  unfold parse
  rw [if_neg notBlink, if_neg notHk, if_pos isCmd]

/-- Parsing any other message. -/
theorem parse_of_not_cmdMid (notCmd : m.msgId ≠ cmdMid p) :
    parse p N m = if m.msgId = blinkCmdMid p then some .blink
      else if m.msgId = sendHkMid p then some .sendHk else none := by
  unfold parse
  rw [if_neg notCmd]

/-- Only a ground command is counted. -/
theorem counters_of_not_cmdMid (notCmd : m.msgId ≠ cmdMid p) (r : CfeReplies p)
    (d : Data p N) : (taskPipe p r m d).state.cmdCounter = d.cmdCounter ∧
      (taskPipe p r m d).state.errCounter = d.errCounter := by
  rw [taskPipe_apply, parse_of_not_cmdMid p m notCmd]
  split
  case h_1 req found =>
    split at found
    · cases found
      exact ⟨rfl, rfl⟩
    · split at found <;> cases found
      exact ⟨rfl, rfl⟩
  case h_2 =>
    rw [show rejectionOf p m = .unknownMid from if_neg notCmd]
    exact ⟨rfl, rfl⟩

theorem parse_isSome : (parse p N m).isSome ↔ Accepted p N m := by
  by_cases isCmd : m.msgId = cmdMid p
  · have notHk : m.msgId ≠ sendHkMid p := by rw [isCmd]; exact cmdMid_ne_sendHkMid p
    have notBlink : m.msgId ≠ blinkCmdMid p := by rw [isCmd]; exact cmdMid_ne_blinkCmdMid p
    rw [parse_of_cmdMid p m isCmd]
    constructor
    · intro isSome
      obtain ⟨req, found⟩ := Option.isSome_iff_exists.mp isSome
      obtain ⟨h, code, rest⟩ := Option.bind_eq_some_iff.mp found
      split at rest
      case isTrue fits =>
        refine .inr (.inr ⟨h, ⟨isCmd, code, fits⟩, ?_⟩)
        exact (requestOf_isSome p m (handler_ne_of_commandOf code)).mp (by rw [rest]; rfl)
      case isFalse => cases rest
    · rintro (isBlink | isHk | ⟨h, ⟨-, code, fits⟩, inRange⟩)
      · exact absurd isBlink notBlink
      · exact absurd isHk notHk
      · rw [code, Option.bind_some, if_pos fits]
        exact (requestOf_isSome p m (handler_ne_of_commandOf code)).mpr inRange
  · rw [parse_of_not_cmdMid p m isCmd]
    unfold Accepted AcceptedCommand WellSized
    by_cases isBlink : m.msgId = blinkCmdMid p
    · rw [if_pos isBlink]
      exact iff_of_true rfl (.inl isBlink)
    by_cases isHk : m.msgId = sendHkMid p
    · rw [if_neg isBlink, if_pos isHk]
      exact iff_of_true rfl (.inr (.inl isHk))
    · rw [if_neg isBlink, if_neg isHk]
      simp [isBlink, isHk, isCmd]

theorem accepted_of_parse {req : Request N} (found : parse p N m = some req) : Accepted p N m :=
  (parse_isSome p m).mp (by rw [found]; rfl)

theorem exists_parse (accepted : Accepted p N m) : ∃ req : Request N, parse p N m = some req :=
  Option.isSome_iff_exists.mp ((parse_isSome p m).mpr accepted)

theorem parse_eq_none : parse p N m = none ↔ ¬ Accepted p N m := by
  rw [← parse_isSome, Option.not_isSome_iff_eq_none]

/-- A request is made through the handler its message names. -/
theorem handlerOf_of_parse {req : Request N} (found : parse p N m = some req) :
    handlerOf p m = some req.handler := by
  unfold parse at found
  unfold handlerOf
  split at found
  case isTrue isBlink =>
    cases found
    rw [if_pos isBlink]
    rfl
  case isFalse notBlink =>
    rw [if_neg notBlink]
    split at found
    case isTrue isHk =>
      cases found
      rw [if_pos isHk]
      rfl
    case isFalse notHk =>
      rw [if_neg notHk]
      split at found
      case isTrue isCmd =>
        obtain ⟨h, code, rest⟩ := Option.bind_eq_some_iff.mp found
        split at rest
        case isTrue => rw [if_pos isCmd, code, handler_of_requestOf p m rest]
        case isFalse => cases rest
      case isFalse => cases found

/-- A ground command that makes a request is well-sized for its handler. -/
theorem wellSized_of_parse {req : Request N} (isCmd : m.msgId = cmdMid p)
    (found : parse p N m = some req) : WellSized p m req.handler := by
  rw [parse_of_cmdMid p m isCmd] at found
  obtain ⟨h, code, rest⟩ := Option.bind_eq_some_iff.mp found
  split at rest
  case isTrue fits =>
    rw [handler_of_requestOf p m rest]
    exact ⟨isCmd, code, fits⟩
  case isFalse => cases rest

/-- Only a ground command makes a request other than a tick and one for housekeeping. -/
theorem cmdMid_of_parse {req : Request N} (found : parse p N m = some req)
    (command : req.handler ≠ .sendHk ∧ req.handler ≠ .blink) : m.msgId = cmdMid p := by
  by_contra notCmd
  rw [parse_of_not_cmdMid p m notCmd] at found
  split at found
  · cases found
    exact command.2 rfl
  · split at found <;> cases found
    exact command.1 rfl

/-- What each reason for a rejection says about the message. -/
def RejectedFor : Rejection → Prop
  | .unknownMid => m.msgId ≠ cmdMid p
  | .unknownCode => m.msgId = cmdMid p ∧ commandOf m.fcnCode = none
  | .wrongLength expected => m.msgId = cmdMid p ∧ m.size ≠ expected ∧
      ∃ h, commandOf m.fcnCode = some h ∧ expected = (structOf p h).size
  | .outOfRange h => WellSized p m h

theorem rejectionOf_spec : RejectedFor p m (rejectionOf p m) := by
  unfold rejectionOf
  split
  case isFalse notCmd => exact notCmd
  case isTrue isCmd =>
    cases code : commandOf m.fcnCode with
    | none => exact ⟨isCmd, code⟩
    | some h =>
      by_cases fits : m.size = (structOf p h).size
      · simp only [if_pos fits]
        exact ⟨isCmd, code, fits⟩
      · simp only [if_neg fits]
        exact ⟨isCmd, fits, h, code, rfl⟩

/-- The handlers that check a blinker number. -/
def Handler.rangeChecked : Handler → Bool
  | .resetSpec | .reportSpec | .enableSpec | .disableSpec | .swapCounts => true
  | _ => false

/-- Only the handlers that check a blinker number reject a well-sized command. -/
theorem rangeChecked_of_rejected {h : Handler} (rejected : parse p N m = none)
    (sized : WellSized p m h) : h.rangeChecked = true := by
  obtain ⟨isCmd, code, fits⟩ := sized
  have out : ¬ Accepted p N m := (parse_eq_none p m).mp rejected
  have numbers : ¬ ∀ n ∈ numbersOf p m h, n.toNat < N := fun inRange =>
    out (.inr (.inr ⟨h, ⟨isCmd, code, fits⟩, inRange⟩))
  cases h <;> first | rfl | exact absurd (by intro n member; cases member) numbers

theorem rangeChecked_of_outOfRange {h : Handler} (rejected : parse p N m = none)
    (why : rejectionOf p m = .outOfRange h) : h.rangeChecked = true := by
  have spec := rejectionOf_spec p m
  rw [why] at spec
  exact rangeChecked_of_rejected p m rejected spec

end BlinkerApp
