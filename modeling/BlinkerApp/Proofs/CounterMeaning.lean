import BlinkerApp.Proofs.Blinkers

/-!
# The meaning of the counters over a whole run
-/

namespace BlinkerApp

open Traced

variable {N : Nat} (p : Platform)

/-- The operations of a sequence of messages. -/
abbrev bankOps (N : Nat) (inputs : List (Input p)) : List (BankOp (Fin N)) :=
  inputs.map fun i => bankOp p N i.buffer

/-- No message asks for all blinkers. -/
def NoAll (N : Nat) (inputs : List (Input p)) : Prop :=
  ∀ i ∈ inputs, (parse p N i.buffer).any Request.isAll = false

instance (inputs : List (Input p)) : Decidable (NoAll p N inputs) :=
  inferInstanceAs (Decidable (∀ i ∈ inputs, _ = false))

/-! ## One message -/

theorem backThrough_eq (i : Input p) (ops : List (BankOp (Fin N))) (k : Fin N) :
    Bank.carryBack (bankOp p N i.buffer :: ops) k = backThrough p i (Bank.carryBack ops k) := by
  unfold bankOp backThrough
  cases parse p N i.buffer with
  | none => rfl
  | some req => cases req <;> rfl

theorem setting_eq {i : Input p} {k : Fin N}
    (notAll : (parse p N i.buffer).any Request.isAll = false) :
    Bank.setting k (bankOp p N i.buffer) =
      ((parse p N i.buffer).bind (Request.specStatus k)).map (· == 1) := by
  unfold bankOp
  cases found : parse p N i.buffer with
  | none => rfl
  | some req =>
    rw [found] at notAll
    cases req with
    | resetAll | enableAll | disableAll => cases notAll
    | enableSpec j | disableSpec j =>
      by_cases same : j = k
      · simp [Request.bankOp, Request.specStatus, Bank.setting, same]
      · simp [Request.bankOp, Request.specStatus, Bank.setting, same, Ne.symm same]
    | _ => rfl

theorem tick_iff (m : SbBuffer) : bankOp p N m = .tick ↔ parse p N m = some .blink := by
  unfold bankOp
  cases parse p N m with
  | none => simp
  | some req => cases req <;> simp [Request.bankOp]

theorem reset_iff {m : SbBuffer} (notAll : (parse p N m).any Request.isAll = false)
    (cells : Set (Fin N)) :
    bankOp p N m = .reset cells ↔ ∃ k, parse p N m = some (.resetSpec k) ∧ cells = {k} := by
  unfold bankOp
  cases found : parse p N m with
  | none => simp
  | some req =>
    rw [found] at notAll
    cases req with
    | resetAll | enableAll | disableAll => cases notAll
    | resetSpec k => simp [Request.bankOp, eq_comm]
    | _ => simp [Request.bankOp]

/-! ## Sequences of messages -/

theorem carryBack_eq (inputs : List (Input p)) (k : Fin N) :
    Bank.carryBack (bankOps p N inputs) k = carryBack p inputs k := by
  induction inputs with
  | nil => rfl
  | cons i inputs ih =>
    show Bank.carryBack (bankOp p N i.buffer :: bankOps p N inputs) k = _
    rw [backThrough_eq, ih]
    rfl

theorem lastSetting_eq {inputs : List (Input p)} (noAll : NoAll p N inputs) (k : Fin N) :
    ((bankOps p N inputs).reverse.findSome? (Bank.setting k)).getD false =
      (lastStatus p inputs k == 1) := by
  unfold lastStatus
  induction inputs using List.reverseRecOn with
  | nil => rfl
  | append_singleton inputs i ih =>
    have single := noAll i (by simp)
    have before := ih fun j member => noAll j (List.mem_append_left _ member)
    simp only [List.map_append, List.map_cons, List.map_nil, List.reverse_append,
      List.reverse_singleton, List.singleton_append, List.findSome?_cons, setting_eq p single]
    cases (parse p N i.buffer).bind (Request.specStatus k) with
    | none => exact before
    | some status => rfl

theorem lastStatus_binary (inputs : List (Input p)) (k : Fin N) :
    lastStatus p inputs k = 0 ∨ lastStatus p inputs k = 1 := by
  unfold lastStatus
  induction inputs using List.reverseRecOn with
  | nil => exact .inl rfl
  | append_singleton inputs i ih =>
    simp only [List.reverse_append, List.reverse_singleton, List.singleton_append,
      List.findSome?_cons]
    cases parse p N i.buffer with
    | none => exact ih
    | some req =>
      cases req with
      | enableSpec j | disableSpec j =>
        by_cases same : j = k
        · simp [Request.specStatus, same]
        · simpa [Request.specStatus, same] using ih
      | _ => exact ih

theorem bankOps_getElem? (inputs : List (Input p)) (t : Nat) :
    (bankOps p N inputs)[t]? = inputs[t]?.map fun i => bankOp p N i.buffer :=
  List.getElem?_map

theorem survives_iff {inputs : List (Input p)} (noAll : NoAll p N inputs) (k : Fin N) (t : Nat) :
    Bank.Survives ((bankOps p N inputs).drop (t + 1)) k ↔
      ∀ r < inputs.length, t < r →
        requestAt p N inputs r ≠ some (.resetSpec (carryBack p (inputs.drop (r + 1)) k)) := by
  constructor
  · intro survives r below later reset
    obtain ⟨i, found, parsed⟩ := Option.bind_eq_some_iff.mp reset
    have at_ : ((bankOps p N inputs).drop (t + 1))[r - (t + 1)]? =
        some (.reset {carryBack p (inputs.drop (r + 1)) k}) := by
      rw [List.getElem?_drop, Nat.add_sub_cancel' later, bankOps_getElem?, found, Option.map_some,
        bankOp, parsed]
      rfl
    have missed := survives _ _ at_
    rw [List.drop_drop, ← List.map_drop, carryBack_eq,
      show t + 1 + (r - (t + 1) + 1) = r + 1 by omega] at missed
    exact missed rfl
  · intro missed r cells reset hit
    rw [List.getElem?_drop, bankOps_getElem?] at reset
    obtain ⟨i, found, op⟩ := Option.map_eq_some_iff.mp reset
    obtain ⟨j, parsed, rfl⟩ := (reset_iff p (noAll i (List.mem_of_getElem? found)) cells).mp op
    have same : Bank.carryBack (((bankOps p N inputs).drop (t + 1)).drop (r + 1)) k = j := hit
    rw [List.drop_drop, ← List.map_drop, carryBack_eq] at same
    apply missed (t + 1 + r) (List.getElem?_eq_some_iff.mp found).1 (by omega)
    rw [requestAt, found, Option.bind_some, parsed, ← same]
    rfl

/-- A tick counts for the counter in the bank exactly when it does in the messages. -/
theorem counted_iff {inputs : List (Input p)} (noAll : NoAll p N inputs) {s : Bank (Fin N) UInt16}
    (off : ∀ j, s.enabled j = false) (k : Fin N) (t : Nat) :
    Bank.Counted s (bankOps p N inputs) k t ↔ TickCounts p inputs k t := by
  have noAllBefore : NoAll p N (inputs.take t) := fun i member =>
    noAll i (List.mem_of_mem_take member)
  have tick : (bankOps p N inputs)[t]? = some .tick ↔ requestAt p N inputs t = some .blink := by
    rw [bankOps_getElem?, requestAt]
    cases inputs[t]? with
    | none => simp
    | some i => simpa using tick_iff p i.buffer
  have enabled : (s.run ((bankOps p N inputs).take t)).enabled
        (Bank.carryBack ((bankOps p N inputs).drop (t + 1)) k) = true ↔
      lastStatus p (inputs.take t) (carryBack p (inputs.drop (t + 1)) k) = 1 := by
    rw [Bank.run_enabled, off, ← List.map_take, ← List.map_drop, carryBack_eq,
      lastSetting_eq p noAllBefore, beq_iff_eq]
  rw [Bank.Counted, TickCounts, tick, enabled, survives_iff p noAll]

/-! ## The closed form -/

/-- A counter that wraps at 16 bits counts modulo `2 ^ 16`. -/
theorem toNat_iterate_succ (n : Nat) : ((· + 1)^[n] (0 : UInt16)).toNat = n % 2 ^ 16 := by
  induction n with
  | zero => rfl
  | succ n ih =>
    rw [Function.iterate_succ_apply', UInt16.toNat_add, ih]
    simp

/-- In a run from the state initialization leaves, a status is what the last request
naming the blinker gave it, and a counter shows the ticks that count for it, modulo
`2 ^ 16`. -/
theorem run_meaning (a : InitReplies p) (d₀ : Data p N) (inputs : List (Input p))
    (noAll : NoAll p N inputs) (k : Fin N) :
    let d := (runTaskPipe p inputs (init p a d₀).state).state
    d.blinkerStatuses.get k = lastStatus p inputs k ∧
    (d.blinkerCounts.get k).toNat = Nat.count (TickCounts p inputs k) inputs.length % 2 ^ 16 := by
  intro d
  have start : (init p a d₀).state = initState p a := by rw [init_apply]
  have bank : d.bank = (initState p a : Data p N).bank.run (bankOps p N inputs) := by
    rw [← runTaskPipe_bank, ← start]
  have binary : d.Binary := runTaskPipe_init_binary p a d₀ inputs
  constructor
  · rw [binary.status_eq k, bank, Bank.run_enabled, initState_bank,
      show Bank.fresh.enabled k = false from rfl, lastSetting_eq p noAll]
    rcases lastStatus_binary p inputs k with zero | one
    · rw [zero]
      rfl
    · rw [one]
      rfl
  · show (d.bank.count k).toNat = _
    rw [bank, initState_bank, Bank.run_fresh_count,
      Bank.ticksShown_eq_count (counted_iff p noAll (fun _ => rfl) k), List.length_map,
      toNat_iterate_succ]

/-- Blinker 0 counts a tick, its counter moves to blinker 1, and blinker 0 counts on. -/
def swapRun (p : Platform) : List (Input p) :=
  [⟨default, groundCommand p enableSpecBlinkerCc [0, 0, 0, 0]⟩,
   ⟨default, bareMessage p (blinkCmdMid p)⟩,
   ⟨default, groundCommand p swapTwoBlinkersCc [0, 0, 1, 0]⟩,
   ⟨default, bareMessage p (blinkCmdMid p)⟩]

theorem run_meaning_swapRun :
    let p := defaultPlatform
    let d : Data p 2 := (runTaskPipe p (swapRun p) (init p default (zeroData p)).state).state
    NoAll p 2 (swapRun p) ∧ d.blinkerStatuses.get 1 = 0 ∧
      (d.blinkerCounts.get 1).toNat = 1 := by
  intro p d
  have noAll : NoAll p 2 (swapRun p) := by decide
  have meaning := run_meaning p default (zeroData p) (swapRun p) noAll 1
  exact ⟨noAll, meaning.1.trans (by decide), meaning.2.trans (by decide)⟩

end BlinkerApp
