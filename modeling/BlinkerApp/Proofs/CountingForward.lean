import BlinkerApp.Proofs.CounterMeaning

/-!
# Counting forward

The counts are kept in 16 bits, half the width of the field the telemetry has for them.
A tick counts forward exactly until it finds an enabled blinker at the last value.
-/

namespace BlinkerApp

open Traced

variable {N : Nat} (p : Platform)

/-- The message is a tick. -/
def isTick (i : Input p) : Bool := i.buffer.msgId = blinkCmdMid p

/-- From `d` to `d'` the count of an enabled blinker goes up by one, as a plain number, and
that of a disabled one stays. -/
def CountsForward {p : Platform} (d d' : Data p N) : Prop :=
  ∀ k : Fin N, (d'.blinkerCounts.get k).toNat =
    (d.blinkerCounts.get k).toNat + if d.blinkerStatuses.get k ≠ 0 then 1 else 0

/-- No enabled blinker has the last value a count can have. -/
def HasRoom {p : Platform} (d : Data p N) : Prop :=
  ∀ k : Fin N, d.blinkerStatuses.get k ≠ 0 → (d.blinkerCounts.get k).toNat ≠ 2 ^ 16 - 1

/-- The state in which a run from the state initialization leaves ends. -/
def stateAfter (a : InitReplies p) (d₀ : Data p N) (inputs : List (Input p)) : Data p N :=
  (runTaskPipe p inputs (init p a d₀).state).state

/-! ## One tick -/

theorem toNat_succ_iff (c : UInt16) : (c + 1).toNat = c.toNat + 1 ↔ c.toNat ≠ 2 ^ 16 - 1 := by
  have below : c.toNat < 2 ^ 16 := c.toNat_lt
  rw [UInt16.toNat_add]
  show (c.toNat + 1) % 2 ^ 16 = _ ↔ _
  omega

theorem parse_tick {i : Input p} (tick : isTick p i = true) : parse p N i.buffer = some .blink :=
  if_pos (of_decide_eq_true tick)

theorem msgId_of_parse_blink {m : SbBuffer} (found : parse p N m = some .blink) :
    m.msgId = blinkCmdMid p := by
  by_contra notBlink
  have named := handlerOf_of_parse p m found
  unfold handlerOf at named
  rw [if_neg notBlink] at named
  split at named
  · cases named
  · split at named
    · exact (handler_ne_of_commandOf named).2 rfl
    · cases named

/-- A tick counts forward exactly when there is room for it. -/
theorem tick_countsForward_iff {i : Input p} (tick : isTick p i = true) (d : Data p N) :
    CountsForward d (taskPipe p i.replies i.buffer d).state ↔ HasRoom d := by
  apply forall_congr'
  intro k
  rw [tick_count p (parse_tick p tick)]
  by_cases on : d.blinkerStatuses.get k ≠ 0
  · have enabled : d.bank.enabled k = true := decide_eq_true on
    rw [if_pos enabled, if_pos on, toNat_succ_iff, forall_prop_of_true on]
  · have disabled : ¬ d.bank.enabled k = true := fun enabled => on (of_decide_eq_true enabled)
    rw [if_neg disabled, if_neg on]
    exact iff_of_true rfl fun enabled => absurd enabled on

/-! ## Runs -/

theorem stateAfter_bank (a : InitReplies p) (d₀ : Data p N) (inputs : List (Input p)) :
    (stateAfter p a d₀ inputs).bank = Bank.run Bank.fresh (bankOps p N inputs) := by
  unfold stateAfter
  rw [runTaskPipe_bank, init_apply, initState_bank]

/-- The ticks of a run are those of its bank. -/
theorem countP_isTick (inputs : List (Input p)) :
    (bankOps p N inputs).countP Bank.isTick = inputs.countP (isTick p) := by
  rw [List.countP_map]
  apply List.countP_congr
  intro i _
  show Bank.isTick (bankOp p N i.buffer) = true ↔ isTick p i = true
  have ticks : Bank.isTick (bankOp p N i.buffer) = true ↔ bankOp p N i.buffer = .tick := by
    cases bankOp p N i.buffer <;> simp [Bank.isTick]
  rw [ticks, tick_iff]
  exact ⟨fun found => decide_eq_true (msgId_of_parse_blink p found), parse_tick p⟩

/-- A count is at most the number of ticks. -/
theorem count_le_ticks (a : InitReplies p) (d₀ : Data p N) (inputs : List (Input p)) (k : Fin N) :
    ((stateAfter p a d₀ inputs).blinkerCounts.get k).toNat ≤ inputs.countP (isTick p) := by
  show ((stateAfter p a d₀ inputs).bank.count k).toNat ≤ _
  rw [stateAfter_bank, Bank.run_fresh_count, toNat_iterate_succ, ← countP_isTick (N := N)]
  exact Nat.le_trans (Nat.mod_le _ _) (Bank.ticksShown_le _ _ k)

/-- There is room in every run of fewer than `2 ^ 16` ticks. -/
theorem hasRoom_of_few_ticks (a : InitReplies p) (d₀ : Data p N) {before after : List (Input p)}
    {i : Input p} (tick : isTick p i = true)
    (few : (before ++ i :: after).countP (isTick p) < 2 ^ 16) :
    HasRoom (stateAfter p a d₀ before) := by
  intro k _
  have bound := count_le_ticks p a d₀ before k
  rw [List.countP_append, List.countP_cons, if_pos tick] at few
  omega

/-- In a run, every tick counts forward exactly when each finds room, and each does in a run
of fewer than `2 ^ 16` ticks. -/
theorem countsForward_iff (a : InitReplies p) (d₀ : Data p N) (inputs : List (Input p)) :
    ((∀ before i after, inputs = before ++ i :: after → isTick p i = true →
        CountsForward (stateAfter p a d₀ before) (stateAfter p a d₀ (before ++ [i]))) ↔
      ∀ before i after, inputs = before ++ i :: after → isTick p i = true →
        HasRoom (stateAfter p a d₀ before)) ∧
    (inputs.countP (isTick p) < 2 ^ 16 →
      ∀ before i after, inputs = before ++ i :: after → isTick p i = true →
        HasRoom (stateAfter p a d₀ before)) := by
  constructor
  · apply forall₃_congr
    intro before i after
    apply forall₂_congr
    intro _ tick
    unfold stateAfter
    rw [runTaskPipe_concat_state]
    exact tick_countsForward_iff p tick _
  · rintro few before i after rfl tick
    exact hasRoom_of_few_ticks p a d₀ tick few

/-- A tick. -/
def tickInput : Input defaultPlatform :=
  ⟨default, bareMessage defaultPlatform (blinkCmdMid defaultPlatform)⟩

/-- Blinker 0 is enabled and counts `n` ticks. -/
def countingRun (n : Nat) : List (Input defaultPlatform) :=
  ⟨default, groundCommand defaultPlatform enableSpecBlinkerCc [0, 0, 0, 0]⟩ ::
    List.replicate n tickInput

theorem countingRun_succ (n : Nat) : countingRun (n + 1) = countingRun n ++ [tickInput] := by
  rw [countingRun, countingRun, List.cons_append, ← List.replicate_succ']

theorem bankOps_countingRun (n : Nat) :
    bankOps defaultPlatform 1 (countingRun n) =
      .switch {0} true :: List.replicate n .tick := by
  have enable : parse defaultPlatform 1
      (groundCommand defaultPlatform enableSpecBlinkerCc [0, 0, 0, 0]) = some (.enableSpec 0) := by
    decide
  simp [countingRun, tickInput, bankOp, enable, parse_blink, Request.bankOp]

/-- The count wraps around. -/
theorem countingRun_spec (n : Nat) :
    let d : Data defaultPlatform 1 := stateAfter defaultPlatform default (zeroData defaultPlatform)
      (countingRun n)
    d.blinkerStatuses.get 0 ≠ 0 ∧ (d.blinkerCounts.get 0).toNat = n % 2 ^ 16 := by
  intro d
  have bank : d.bank = Bank.run Bank.fresh (.switch {0} true :: List.replicate n .tick) := by
    rw [← bankOps_countingRun]
    exact stateAfter_bank _ _ _ _
  have enabled : (Bank.fresh.step (.switch {0} true) : Bank (Fin 1) UInt16).enabled 0 = true := by
    simp [Bank.step]
  constructor
  · have on : d.bank.enabled 0 = true := by
      rw [bank, Bank.run_cons]
      refine Bank.run_enabled_of_never (fun op member => ?_) enabled
      rw [List.eq_of_mem_replicate member]
      intro touched
      cases touched
    exact of_decide_eq_true on
  · show (d.bank.count 0).toNat = _
    rw [bank, Bank.run_cons, Bank.run_ticks enabled]
    exact toNat_iterate_succ n

/-- The `2 ^ 16`th tick takes the count of an enabled blinker back to zero. -/
theorem not_always_countsForward :
    ¬ ∀ (N : Nat) (p : Platform) (a : InitReplies p) (d₀ : Data p N) (inputs : List (Input p)),
      inputs.countP (isTick p) < 2 ^ 32 →
      ∀ before i after, inputs = before ++ i :: after → isTick p i = true →
        CountsForward (stateAfter p a d₀ before) (stateAfter p a d₀ (before ++ [i])) := by
  intro claim
  obtain ⟨n, limit⟩ : ∃ n, n + 1 = 2 ^ 16 := ⟨2 ^ 16 - 1, rfl⟩
  have few : (countingRun (n + 1)).countP (isTick defaultPlatform) < 2 ^ 32 := by
    have length : (countingRun (n + 1)).length = n + 2 := by simp [countingRun]
    have := List.countP_le_length (p := isTick defaultPlatform) (l := countingRun (n + 1))
    omega
  have forward := claim 1 defaultPlatform default (zeroData defaultPlatform) _ few _ _ []
    (countingRun_succ n) (decide_eq_true rfl) 0
  have before := countingRun_spec n
  have after := (countingRun_spec (n + 1)).2
  rw [← countingRun_succ, if_pos before.1, before.2, after] at forward
  omega

end BlinkerApp
