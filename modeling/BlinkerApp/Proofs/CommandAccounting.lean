import BlinkerApp.Proofs.StartUp

/-!
# Command accounting

What the command and error counters should show after a run, and the commands for
which they do.
-/

namespace BlinkerApp

open Traced

variable {N : Nat} (p : Platform)

/-- What the accounting makes of one message. -/
inductive Verdict where
  | succeeded
  | failed
  | reset
  | notCommand
  deriving DecidableEq, Repr

/-- The verdict on a message, from the handlers its processing called. -/
def verdict (m : SbBuffer) (trace : List (Obs p N)) : Verdict :=
  if m.msgId = cmdMid p then
    match trace.filterMap Obs.handled? with
    | [(.resetCounters, _)] => .reset
    | [(_, some status)] => if status = cfeSuccess then .succeeded else .failed
    | _ => .failed
  else .notCommand

/-- The verdicts on the messages of a run. -/
def verdicts : List (Input p) → Data p N → List Verdict
  | [], _ => []
  | i :: inputs, d =>
      verdict p i.buffer (taskPipe p i.replies i.buffer d).trace ::
        verdicts inputs (taskPipe p i.replies i.buffer d).state

/-- The verdicts since the last executed reset of the counters, latest first. -/
def sinceReset (vs : List Verdict) : List Verdict := vs.reverse.takeWhile (· ≠ .reset)

/-- The two counters show the verdicts since the last reset. -/
def Accounted {p : Platform} (d : Data p N) (vs : List Verdict) : Prop :=
  d.cmdCounter.toNat = (sinceReset vs).count .succeeded % 256 ∧
    d.errCounter.toNat = (sinceReset vs).count .failed % 256

theorem sinceReset_concat (vs : List Verdict) (v : Verdict) :
    sinceReset (vs ++ [v]) = if v = .reset then [] else v :: sinceReset vs := by
  unfold sinceReset
  rw [List.reverse_append, List.reverse_singleton, List.singleton_append, List.takeWhile_cons]
  by_cases reset : v = .reset <;> simp [reset]

theorem verdicts_concat (inputs : List (Input p)) (i : Input p) (d : Data p N) :
    verdicts p (inputs ++ [i]) d = verdicts p inputs d ++
      [verdict p i.buffer
        (taskPipe p i.replies i.buffer (runTaskPipe p inputs d).state).trace] := by
  induction inputs generalizing d with
  | nil => rfl
  | cons j inputs ih =>
    rw [List.cons_append, verdicts, ih, verdicts, List.cons_append]
    rfl

/-! ## One message -/

theorem verdict_of_accepted {m : SbBuffer} (isCmd : m.msgId = cmdMid p) (r : CfeReplies p)
    (d : Data p N) {req : Request N} (found : parse p N m = some req) :
    verdict p m (requestTrace p r m d req) =
      if req.handler = .resetCounters then .reset
      else if commandStatus r req = cfeSuccess then .succeeded else .failed := by
  have command := (handler_ne_of_commandOf (wellSized_of_parse p m isCmd found).2.1).2
  unfold verdict
  rw [if_pos isCmd, handled_requestTrace]
  cases req <;> first | rfl | exact absurd rfl command

theorem verdict_of_rejected {m : SbBuffer} (isCmd : m.msgId = cmdMid p)
    (rejected : parse p N m = none) :
    verdict p m ((rejectionOf p m).trace p m : List (Obs p N)) = .failed := by
  unfold verdict
  rw [if_pos isCmd, handled_rejection]
  cases why : rejectionOf p m with
  | outOfRange h =>
    have checked := rangeChecked_of_outOfRange p m rejected why
    cases h <;> first | rfl | cases checked
  | _ => rfl

/-- The commands that are counted as they should be: those without effect but a count,
and those of a wrong length. -/
def KeepsCount (m : SbBuffer) : Prop :=
  m.msgId = cmdMid p → ∃ h, commandOf m.fcnCode = some h ∧
    (h = .noop ∨ h = .resetCounters ∨ m.size ≠ (structOf p h).size)

theorem keepsCount_wellSized {m : SbBuffer} {h : Handler} (sized : WellSized p m h) :
    KeepsCount p m ↔ h = .noop ∨ h = .resetCounters := by
  obtain ⟨isCmd, code, fits⟩ := sized
  constructor
  · intro keeps
    obtain ⟨h', code', which⟩ := keeps isCmd
    obtain rfl : h = h' := Option.some.inj (code.symm.trans code')
    rcases which with noop | reset | wrong
    · exact .inl noop
    · exact .inr reset
    · exact absurd fits wrong
  · rintro which _
    exact ⟨h, code, which.elim .inl fun reset => .inr (.inl reset)⟩

/-! ## Counting modulo 256 -/

theorem toNat_add_one {x : UInt8} {n : Nat} (shows : x.toNat = n % 256) :
    (x + 1).toNat = (n + 1) % 256 := by
  rw [UInt8.toNat_add, shows]
  simp

theorem ne_add_one_mod {x n : Nat} (shows : x = n % 256) : x ≠ (n + 1) % 256 := by omega

section Concat

variable {p} (d : Data p N) (vs : List Verdict)

theorem accounted_succeeded : Accounted d (vs ++ [.succeeded]) ↔
    d.cmdCounter.toNat = ((sinceReset vs).count .succeeded + 1) % 256 ∧
      d.errCounter.toNat = (sinceReset vs).count .failed % 256 := by
  simp [Accounted, sinceReset_concat]

theorem accounted_failed : Accounted d (vs ++ [.failed]) ↔
    d.cmdCounter.toNat = (sinceReset vs).count .succeeded % 256 ∧
      d.errCounter.toNat = ((sinceReset vs).count .failed + 1) % 256 := by
  simp [Accounted, sinceReset_concat]

theorem accounted_reset : Accounted d (vs ++ [.reset]) ↔
    d.cmdCounter.toNat = 0 ∧ d.errCounter.toNat = 0 := by
  simp [Accounted, sinceReset_concat]

theorem accounted_notCommand : Accounted d (vs ++ [.notCommand]) ↔ Accounted d vs := by
  simp [Accounted, sinceReset_concat]

end Concat

/-! ## One step of a run -/

section Step

variable {p} {d : Data p N} {vs : List Verdict} (accounted : Accounted d vs)

include accounted

/-- A command that changes no counter and is not a reset is not accounted for. -/
theorem not_accounted_of_frame {d' : Data p N} {v : Verdict} (cmd : d'.cmdCounter = d.cmdCounter)
    (err : d'.errCounter = d.errCounter) (counts : v = .succeeded ∨ v = .failed) :
    ¬ Accounted d' (vs ++ [v]) := by
  obtain ⟨cmdShows, errShows⟩ := accounted
  rcases counts with rfl | rfl
  · rw [accounted_succeeded, cmd]
    exact fun next => ne_add_one_mod cmdShows next.1
  · rw [accounted_failed, err]
    exact fun next => ne_add_one_mod errShows next.2

theorem accounted_step_accepted (r : CfeReplies p) {m : SbBuffer} {req : Request N}
    (isCmd : m.msgId = cmdMid p) (found : parse p N m = some req) :
    Accounted (effect r d req) (vs ++ [verdict p m (requestTrace p r m d req)]) ↔
      KeepsCount p m := by
  have sized := wellSized_of_parse p m isCmd found
  have command := handler_ne_of_commandOf sized.2.1
  rw [verdict_of_accepted p isCmd r d found, keepsCount_wellSized p sized]
  have verdicts : (if commandStatus r req = cfeSuccess then Verdict.succeeded else .failed) =
      .succeeded ∨ (if commandStatus r req = cfeSuccess then Verdict.succeeded else .failed) =
      .failed := by
    split
    · exact .inl rfl
    · exact .inr rfl
  obtain ⟨cmdShows, errShows⟩ := accounted
  cases req with
  | sendHk => exact absurd rfl command.1
  | blink => exact absurd rfl command.2
  | noop =>
    refine iff_of_true ?_ (.inl rfl)
    exact (accounted_succeeded _ vs).mpr ⟨toNat_add_one cmdShows, errShows⟩
  | resetCounters =>
    refine iff_of_true ?_ (.inr rfl)
    exact (accounted_reset _ vs).mpr ⟨rfl, rfl⟩
  | _ =>
    refine iff_of_false ?_ (by rintro (noop | reset) <;> contradiction)
    rw [if_neg (by exact nofun)]
    exact not_accounted_of_frame ⟨cmdShows, errShows⟩ rfl rfl verdicts

theorem accounted_step_rejected {m : SbBuffer} (isCmd : m.msgId = cmdMid p)
    (rejected : parse p N m = none) :
    Accounted ((rejectionOf p m).effect d)
      (vs ++ [verdict p m ((rejectionOf p m).trace p m : List (Obs p N))]) ↔ KeepsCount p m := by
  rw [verdict_of_rejected p isCmd rejected]
  have spec := rejectionOf_spec p m
  cases why : rejectionOf p m with
  | unknownMid =>
    rw [why] at spec
    exact absurd isCmd spec
  | unknownCode =>
    rw [why] at spec
    refine iff_of_false (not_accounted_of_frame accounted rfl rfl (.inr rfl)) fun keeps => ?_
    obtain ⟨h, code, -⟩ := keeps isCmd
    rw [spec.2] at code
    cases code
  | wrongLength expected =>
    rw [why] at spec
    obtain ⟨-, wrong, h, code, rfl⟩ := spec
    refine iff_of_true ?_ fun _ => ⟨h, code, .inr (.inr wrong)⟩
    exact (accounted_failed _ vs).mpr ⟨accounted.1, toNat_add_one accounted.2⟩
  | outOfRange h =>
    rw [why] at spec
    have checked := rangeChecked_of_outOfRange p m rejected why
    refine iff_of_false (not_accounted_of_frame accounted rfl rfl (.inr rfl)) ?_
    rw [keepsCount_wellSized p spec]
    rintro (rfl | rfl) <;> cases checked

/-- One message keeps the counters right exactly when it is counted as it should be. -/
theorem accounted_step (i : Input p) :
    Accounted (taskPipe p i.replies i.buffer d).state
      (vs ++ [verdict p i.buffer (taskPipe p i.replies i.buffer d).trace]) ↔
      KeepsCount p i.buffer := by
  by_cases isCmd : i.buffer.msgId = cmdMid p
  · cases found : parse p N i.buffer with
    | some req =>
      rw [taskPipe_of_accepted p i.replies i.buffer d found]
      exact accounted_step_accepted accounted i.replies isCmd found
    | none =>
      rw [taskPipe_of_rejected p i.replies i.buffer d found]
      exact accounted_step_rejected accounted isCmd found
  · have other (trace : List (Obs p N)) : verdict p i.buffer trace = .notCommand := if_neg isCmd
    rw [other, accounted_notCommand]
    refine iff_of_true ?_ fun cmd => absurd cmd isCmd
    obtain ⟨cmd, err⟩ := counters_of_not_cmdMid p i.buffer isCmd i.replies d
    unfold Accounted
    rw [cmd, err]
    exact accounted

end Step

/-! ## Runs -/

/-- The counters are right after every part of a run from the state initialization
leaves exactly when every command of the run is one that is counted as it should be. -/
theorem accounted_iff (a : InitReplies p) (d₀ : Data p N) (inputs : List (Input p)) :
    let start := (init p a d₀).state
    (∀ part, part <+: inputs →
      Accounted (runTaskPipe p part start).state (verdicts p part start)) ↔
      ∀ i ∈ inputs, KeepsCount p i.buffer := by
  intro start
  refine forall_prefix_iff (P := fun part => Accounted _ (verdicts p part start)) ?_ ?_ inputs
  · have fresh : start = initState p a := by
      show (init p a d₀).state = _
      rw [init_apply]
    rw [fresh]
    exact ⟨by simp [verdicts, sinceReset], by simp [verdicts, sinceReset]⟩
  · intro part i accounted
    rw [runTaskPipe_concat_state, verdicts_concat]
    exact accounted_step accounted i

/-- One command for all blinkers is executed and not counted. -/
theorem not_always_accounted :
    ¬ ∀ (N : Nat) (p : Platform) (a : InitReplies p) (d₀ : Data p N) (inputs : List (Input p)),
      let start := (init p a d₀).state
      Accounted (runTaskPipe p inputs start).state (verdicts p inputs start) := by
  intro claim
  let p := defaultPlatform
  have accounted := claim 2 p default (zeroData p)
    [⟨default, groundCommand p resetAllBlinkersCc []⟩]
  exact absurd accounted.1 (by decide)

end BlinkerApp
