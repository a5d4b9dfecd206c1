import BlinkerApp.Proofs.StartUp
import BlinkerApp.Spec.Blinkers

/-!
# The app refines a bank of counters
-/

namespace BlinkerApp

open Traced Cells

variable {N : Nat} (p : Platform) (a : InitReplies p)

theorem effect_bank {p : Platform} (r : CfeReplies p) (d : Data p N) (req : Request N) :
    (effect r d req).bank = d.bank.step req.bankOp := by
  cases req with
  | blink =>
    apply Bank.ext
    · funext k
      simp only [effect, Data.bank, Request.bankOp, Bank.step, get_changeBelow, k.isLt, if_true]
      simp
    · rfl
  | resetAll =>
    apply Bank.ext
    · funext k
      simp only [effect, Data.bank, Request.bankOp, Bank.step, get_changeBelow]
      simp
    · rfl
  | enableAll | disableAll =>
    apply Bank.ext
    · rfl
    · funext k
      simp only [effect, Data.bank, Request.bankOp, Bank.step, get_changeBelow]
      split <;> simp_all
  | resetSpec k =>
    apply Bank.ext
    · funext j
      simp only [effect, Data.bank, Request.bankOp, Bank.step, get_set, Set.mem_singleton_iff,
        eq_comm]
    · rfl
  | enableSpec k | disableSpec k =>
    apply Bank.ext
    · rfl
    · funext j
      simp only [effect, Data.bank, Request.bankOp, Bank.step, get_set, Set.mem_singleton_iff,
        @eq_comm _ k j]
      split <;> simp
  | swapCounts a b =>
    apply Bank.ext
    · funext k
      simp only [effect, Data.bank, Request.bankOp, Bank.step, get_swap]
    · rfl
  | _ => rfl

theorem rejection_bank {p : Platform} (d : Data p N) (why : Rejection) :
    (why.effect d).bank = d.bank := by
  cases why <;> rfl

/-- One message is one operation of the bank. -/
theorem taskPipe_bank (r : CfeReplies p) (m : SbBuffer) (d : Data p N) :
    (taskPipe p r m d).state.bank = d.bank.step (bankOp p N m) := by
  unfold bankOp
  cases found : parse p N m with
  | some req => rw [taskPipe_of_accepted p r m d found, effect_bank]; rfl
  | none => rw [taskPipe_of_rejected p r m d found, rejection_bank]; rfl

/-- A run of messages is a run of the bank. -/
theorem runTaskPipe_bank (inputs : List (Input p)) (d : Data p N) :
    (runTaskPipe p inputs d).state.bank = d.bank.run (inputs.map fun i => bankOp p N i.buffer) := by
  induction inputs generalizing d with
  | nil => rfl
  | cons i inputs ih =>
    have later := ih (taskPipe p i.replies i.buffer d).state
    rw [taskPipe_bank] at later
    exact later

/-- A tick adds one to the count of every blinker that is on. -/
theorem tick_count {i : Input p} (tick : parse p N i.buffer = some .blink) (d : Data p N)
    (k : Fin N) :
    (taskPipe p i.replies i.buffer d).state.blinkerCounts.get k =
      if d.bank.enabled k then d.blinkerCounts.get k + 1 else d.blinkerCounts.get k := by
  show (taskPipe p i.replies i.buffer d).state.bank.count k = _
  rw [taskPipe_bank, bankOp, tick]
  rfl

theorem parse_blink : parse p N (bareMessage p (blinkCmdMid p)) = some .blink := if_pos rfl

theorem UInt16.add_one_ne (c : UInt16) : c + 1 ≠ c := by
  simp

theorem initState_bank : (initState p a : Data p N).bank = Bank.fresh := by
  apply Bank.ext <;> funext k <;> simp [Data.bank, Bank.fresh]

/-! ## The values of the switches -/

/-- Every status is 0 or 1. -/
def Data.Binary {p : Platform} (d : Data p N) : Prop :=
  ∀ k : Fin N, d.blinkerStatuses.get k = 0 ∨ d.blinkerStatuses.get k = 1

theorem Data.Binary.status_eq {p : Platform} {d : Data p N} (binary : d.Binary) (k : Fin N) :
    d.blinkerStatuses.get k = if d.bank.enabled k then 1 else 0 := by
  show _ = if decide (d.blinkerStatuses.get k ≠ 0) = true then 1 else 0
  rcases binary k with off | on
  · rw [off]
    rfl
  · rw [on]
    rfl

theorem Data.Binary.on_iff {p : Platform} {d : Data p N} (binary : d.Binary) (k : Fin N) :
    d.bank.enabled k = true ↔ d.blinkerStatuses.get k = 1 := by
  rw [binary.status_eq k]
  cases d.bank.enabled k <;> decide

theorem Data.Binary.status_eq_iff {p : Platform} {d : Data p N} (binary : d.Binary) (j k : Fin N) :
    d.bank.enabled j = d.bank.enabled k ↔ d.blinkerStatuses.get j = d.blinkerStatuses.get k := by
  rw [binary.status_eq j, binary.status_eq k]
  cases d.bank.enabled j <;> cases d.bank.enabled k <;> decide

theorem effect_binary {p : Platform} (r : CfeReplies p) {d : Data p N} (req : Request N)
    (binary : d.Binary) : (effect r d req).Binary := by
  intro k
  cases req with
  | enableAll | disableAll =>
    simp only [effect, get_changeBelow]
    split
    · decide
    · exact binary k
  | enableSpec j | disableSpec j =>
    simp only [effect, get_set]
    split
    · decide
    · exact binary k
  | _ => exact binary k

theorem taskPipe_binary (r : CfeReplies p) (m : SbBuffer) {d : Data p N} (binary : d.Binary) :
    (taskPipe p r m d).state.Binary := by
  apply taskPipe_state_cases p r m d
  · exact fun req _ => effect_binary r req binary
  · exact fun _ _ => binary

theorem initState_binary : (initState p a : Data p N).Binary := by
  intro k
  simp

theorem runTaskPipe_binary (inputs : List (Input p)) {d : Data p N} (binary : d.Binary) :
    (runTaskPipe p inputs d).state.Binary :=
  each_invariant (fun i _ _ => taskPipe_binary p i.replies i.buffer) binary

/-- Every status is 0 or 1 in every reachable state. -/
theorem runTaskPipe_init_binary (d₀ : Data p N) (inputs : List (Input p)) :
    (runTaskPipe p inputs (init p a d₀).state).state.Binary := by
  apply runTaskPipe_binary p inputs
  rw [init_apply]
  exact initState_binary p a

/-- The counters and switches of the app are those of its bank. -/
theorem sameBlinkers_iff {p : Platform} {d d' : Data p N} (binary : d.Binary)
    (binary' : d'.Binary) : SameBlinkers d d' ↔ d.bank = d'.bank := by
  constructor
  · rintro ⟨counts, statuses⟩
    unfold Data.bank
    rw [counts, statuses]
  · intro same
    constructor
    · apply Vector.ext
      intro k below
      exact congrFun (congrArg Bank.count same) ⟨k, below⟩
    · apply Vector.ext
      intro k below
      have status := binary.status_eq ⟨k, below⟩
      rw [same, ← binary'.status_eq ⟨k, below⟩] at status
      exact status

end BlinkerApp
