import BlinkerApp.Proofs.Blinkers

/-!
# Message races

The tick and the ground commands reach the pipe in either order. The order shows in
the blinkers exactly in the cases listed by `RaceException`.
-/

namespace BlinkerApp

open Traced

variable {p : Platform} {N : Nat}

/-- The messages whose order is asked about. -/
inductive Racer (N : Nat) where
  | blink
  | reset (n : Fin N)
  | enable (n : Fin N)
  | disable (n : Fin N)
  | swap (a b : Fin N)

/-- The request of a racing message. -/
def Racer.request : Racer N → Request N
  | .blink => .blink
  | .reset n => .resetSpec n
  | .enable n => .enableSpec n
  | .disable n => .disableSpec n
  | .swap a b => .swapCounts a b

/-- The pairs `a`, `b` and `c`, `d` share exactly one blinker. -/
def ShareOne (a b c d : Fin N) : Prop := ∃! x, (x = a ∨ x = b) ∧ (x = c ∨ x = d)

/-- The blinkers in a list have the same count. -/
def CountsEqual (s : Data p N) (blinkers : List (Fin N)) : Prop :=
  ∀ x ∈ blinkers, ∀ y ∈ blinkers, s.blinkerCounts.get x = s.blinkerCounts.get y

/-- The cases in which the order of two messages shows. -/
def RaceException (s : Data p N) : Racer N → Racer N → Prop
  | .blink, .reset n | .reset n, .blink => s.blinkerStatuses.get n = 1
  | .blink, .disable n | .disable n, .blink => s.blinkerStatuses.get n = 1
  | .blink, .enable n | .enable n, .blink => s.blinkerStatuses.get n = 0
  | .blink, .swap a b | .swap a b, .blink => s.blinkerStatuses.get a ≠ s.blinkerStatuses.get b
  | .enable n, .disable n' | .disable n', .enable n => n = n'
  | .reset n, .swap a b | .swap a b, .reset n =>
      a ≠ b ∧ (n = a ∨ n = b) ∧ ¬ (s.blinkerCounts.get a = 0 ∧ s.blinkerCounts.get b = 0)
  | .swap a b, .swap c d => a ≠ b ∧ c ≠ d ∧ ShareOne a b c d ∧ ¬ CountsEqual s [a, b, c, d]
  | _, _ => False

/-- Pairs that do not each hold one blinker twice share exactly one when one end of the
first is in the second and the other is not. -/
theorem shareOne_iff {a b c d : Fin N} (ab : a ≠ b) :
    ShareOne a b c d ↔ ((a = c ∨ a = d) ↔ ¬ (b = c ∨ b = d)) := by
  constructor
  · rintro ⟨x, ⟨rfl | rfl, second⟩, only⟩
    · refine iff_of_true second fun other => ab ?_
      exact (only b ⟨.inr rfl, other⟩).symm
    · refine iff_of_false (fun other => ab ?_) (not_not.mpr second)
      exact only a ⟨.inl rfl, other⟩
  · intro one
    by_cases first : a = c ∨ a = d
    · refine ⟨a, ⟨.inl rfl, first⟩, ?_⟩
      rintro y ⟨rfl | rfl, second⟩
      · rfl
      · exact absurd second (one.mp first)
    · have other : b = c ∨ b = d := by
        by_contra neither
        exact first (one.mpr neither)
      refine ⟨b, ⟨.inr rfl, other⟩, ?_⟩
      rintro y ⟨rfl | rfl, second⟩
      · exact absurd second first
      · rfl

theorem countsEqual_iff (s : Data p N) {a b c d : Fin N} (shared : a = c ∨ a = d ∨ b = c ∨ b = d) :
    CountsEqual s [a, b, c, d] ↔
      s.blinkerCounts.get a = s.blinkerCounts.get b ∧
        s.blinkerCounts.get c = s.blinkerCounts.get d := by
  constructor
  · intro equal
    exact ⟨equal a (by simp) b (by simp), equal c (by simp) d (by simp)⟩
  · rintro ⟨ab, cd⟩
    have all : ∀ x ∈ [a, b, c, d], s.blinkerCounts.get x = s.blinkerCounts.get a := by
      intro x member
      simp only [List.mem_cons, List.not_mem_nil, or_false] at member
      rcases shared with rfl | rfl | rfl | rfl <;> rcases member with rfl | rfl | rfl | rfl <;>
        simp_all
    intro x inX y inY
    rw [all x inX, all y inY]

/-! ## Exceptions and conflicts -/

section Conflict

variable {s : Data p N} (binary : s.Binary)

include binary

theorem conflict_tick_reset (n : Fin N) :
    Bank.Conflict s.bank .tick (.reset {n}) ↔ s.blinkerStatuses.get n = 1 := by
  rw [← binary.on_iff n]
  simp [Bank.Conflict]

theorem conflict_tick_switch (n : Fin N) (on : Bool) :
    Bank.Conflict s.bank .tick (.switch {n} on) ↔
      s.blinkerStatuses.get n = if on then 0 else 1 := by
  have turned : Bank.Conflict s.bank .tick (.switch {n} on) ↔ s.bank.enabled n ≠ on := by
    simp [Bank.Conflict]
  rw [turned, binary.status_eq n]
  cases on <;> cases s.bank.enabled n <;> decide

theorem conflict_tick_swap (a b : Fin N) :
    Bank.Conflict s.bank .tick (.swap a b) ↔ s.blinkerStatuses.get a ≠ s.blinkerStatuses.get b :=
  not_congr (binary.status_eq_iff a b)

omit binary in
theorem conflict_enable_disable (n n' : Fin N) :
    Bank.Conflict s.bank (.switch {n} true) (.switch {n'} false) ↔ n = n' := by
  simp [Bank.Conflict, eq_comm]

omit binary in
theorem conflict_reset_swap (n a b : Fin N) :
    Bank.Conflict s.bank (.reset {n}) (.swap a b) ↔
      a ≠ b ∧ (n = a ∨ n = b) ∧ ¬ (s.blinkerCounts.get a = 0 ∧ s.blinkerCounts.get b = 0) := by
  have one : (a ∈ ({n} : Set (Fin N)) ↔ b ∉ ({n} : Set (Fin N))) ↔
      a ≠ b ∧ (n = a ∨ n = b) := by
    simp only [Set.mem_singleton_iff]
    constructor
    · intro split
      by_cases isA : a = n
      · exact ⟨fun same => split.mp isA (same ▸ isA), .inl isA.symm⟩
      · have isB : b = n := by
          by_contra notB
          exact isA (split.mpr notB)
        exact ⟨fun same => isA (same.trans isB), .inr isB.symm⟩
    · rintro ⟨apart, rfl | rfl⟩
      · exact iff_of_true rfl (Ne.symm apart)
      · exact iff_of_false apart (not_not.mpr rfl)
  show _ ∧ _ ↔ _
  rw [one, and_assoc]
  rfl

omit binary in
theorem conflict_swap_swap (a b c d : Fin N) :
    Bank.Conflict s.bank (.swap a b) (.swap c d) ↔
      a ≠ b ∧ c ≠ d ∧ ShareOne a b c d ∧ ¬ CountsEqual s [a, b, c, d] := by
  refine and_congr_right fun ab => and_congr_right fun _ => ?_
  rw [shareOne_iff ab]
  refine and_congr_right fun one => not_congr ?_
  have shared : a = c ∨ a = d ∨ b = c ∨ b = d := by
    by_contra none
    push Not at none
    exact absurd (one.mpr (not_or.mpr none.2.2)) (not_or.mpr ⟨none.1, none.2.1⟩)
  exact (countsEqual_iff s shared).symm

/-- The exceptions are the conflicts of the bank. -/
theorem conflict_iff (r₁ r₂ : Racer N) :
    Bank.Conflict s.bank r₁.request.bankOp r₂.request.bankOp ↔ RaceException s r₁ r₂ := by
  cases r₁ with
  | blink =>
    cases r₂ with
    | blink => exact Iff.rfl
    | reset n => exact conflict_tick_reset binary n
    | enable n => exact conflict_tick_switch binary n true
    | disable n => exact conflict_tick_switch binary n false
    | swap a b => exact conflict_tick_swap binary a b
  | reset n =>
    cases r₂ with
    | blink => exact (Bank.conflict_comm _ _ _).trans (conflict_tick_reset binary n)
    | swap a b => exact conflict_reset_swap n a b
    | _ => exact Iff.rfl
  | enable n =>
    cases r₂ with
    | blink => exact (Bank.conflict_comm _ _ _).trans (conflict_tick_switch binary n true)
    | enable n' => exact iff_of_false (fun conflict => conflict.1 rfl) id
    | disable n' => exact conflict_enable_disable n n'
    | _ => exact Iff.rfl
  | disable n =>
    cases r₂ with
    | blink => exact (Bank.conflict_comm _ _ _).trans (conflict_tick_switch binary n false)
    | enable n' =>
      exact (Bank.conflict_comm _ _ _).trans (conflict_enable_disable n' n)
    | disable n' => exact iff_of_false (fun conflict => conflict.1 rfl) id
    | _ => exact Iff.rfl
  | swap a b =>
    cases r₂ with
    | blink => exact (Bank.conflict_comm _ _ _).trans (conflict_tick_swap binary a b)
    | reset n => exact (Bank.conflict_comm _ _ _).trans (conflict_reset_swap n a b)
    | swap c d => exact conflict_swap_swap a b c d
    | _ => exact Iff.rfl

end Conflict

/-! ## The order of two messages -/

theorem run_pair_bank (p : Platform) {i₁ i₂ : Input p} {r₁ r₂ : Racer N}
    (found₁ : parse p N i₁.buffer = some r₁.request)
    (found₂ : parse p N i₂.buffer = some r₂.request) (s : Data p N) :
    (runTaskPipe p [i₁, i₂] s).state.bank =
      (s.bank.step r₁.request.bankOp).step r₂.request.bankOp := by
  rw [runTaskPipe_bank]
  simp only [List.map_cons, List.map_nil, bankOp, found₁, found₂]
  rfl

/-- In every reachable state, two racing messages leave the same counts and statuses in
either order exactly when no exception applies. -/
theorem races_iff (p : Platform) (a : InitReplies p) (d₀ : Data p N) (before : List (Input p))
    {i₁ i₂ : Input p} {r₁ r₂ : Racer N} (found₁ : parse p N i₁.buffer = some r₁.request)
    (found₂ : parse p N i₂.buffer = some r₂.request) :
    let s := (runTaskPipe p before (init p a d₀).state).state
    SameBlinkers (runTaskPipe p [i₁, i₂] s).state (runTaskPipe p [i₂, i₁] s).state ↔
      ¬ RaceException s r₁ r₂ := by
  intro s
  have binary : s.Binary := runTaskPipe_init_binary p a d₀ before
  rw [sameBlinkers_iff (runTaskPipe_binary p _ binary) (runTaskPipe_binary p _ binary),
    run_pair_bank p found₁ found₂, run_pair_bank p found₂ found₁,
    Bank.step_comm_iff UInt16.add_one_ne, conflict_iff binary]

/-- The order of a tick and a disable shows while the blinker is enabled. -/
theorem races_iff_disable :
    let p := defaultPlatform
    let tick : Input p := ⟨default, bareMessage p (blinkCmdMid p)⟩
    let disable : Input p := ⟨default, groundCommand p disableSpecBlinkerCc [0, 0, 0, 0]⟩
    let s : Data p 1 := (runTaskPipe p
      [⟨default, groundCommand p enableSpecBlinkerCc [0, 0, 0, 0]⟩]
      (init p default (zeroData p)).state).state
    ¬ SameBlinkers (runTaskPipe p [tick, disable] s).state
      (runTaskPipe p [disable, tick] s).state := by
  intro p tick disable s same
  have found₁ : parse p 1 tick.buffer = some (Racer.blink : Racer 1).request := by decide
  have found₂ : parse p 1 disable.buffer = some (Racer.disable (0 : Fin 1)).request := by decide
  have calm := (races_iff p default (zeroData p) _ found₁ found₂).mp same
  exact calm (show s.blinkerStatuses[(0 : Fin 1)] = 1 by decide)

end BlinkerApp
