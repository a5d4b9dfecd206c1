import Mathlib.Data.Nat.Count
import Mathlib.Data.Set.Insert
import Mathlib.Logic.Equiv.Basic
import Mathlib.Logic.Function.Iterate

/-!
# Banks of counting cells

A bank has one counter and one switch for each index. A tick adds one to every
counter whose switch is on; resets and switches act on a set of indices; a swap
exchanges two counters and leaves the switches where they are. The counters take
values in any type with a zero and a successor, so the same theory covers
unbounded and wrapping counters.

The three results are the closed form of a counter after any sequence of
operations (`run_count`), that of a switch (`run_enabled`), and the exact
condition under which two operations commute (`step_comm_iff`).
-/

/-- A counter and a switch for each index. -/
@[ext] structure Bank (ι M : Type) where
  count : ι → M
  enabled : ι → Bool

/-- The operations on a bank; `idle` leaves it alone. -/
inductive BankOp (ι : Type) where
  | idle
  | tick
  | reset (cells : Set ι)
  | switch (cells : Set ι) (on : Bool)
  | swap (a b : ι)

namespace Bank

variable {ι M : Type} [DecidableEq ι] [Zero M] [One M] [Add M]

open Classical in
/-- The effect of one operation. -/
noncomputable def step (s : Bank ι M) : BankOp ι → Bank ι M
  | .idle => s
  | .tick => { s with count := fun k => if s.enabled k then s.count k + 1 else s.count k }
  | .reset cells => { s with count := fun k => if k ∈ cells then 0 else s.count k }
  | .switch cells on => { s with enabled := fun k => if k ∈ cells then on else s.enabled k }
  | .swap a b => { s with count := fun k => s.count (Equiv.swap a b k) }

/-- The bank after a sequence of operations. -/
noncomputable def run (s : Bank ι M) (ops : List (BankOp ι)) : Bank ι M := ops.foldl step s

@[simp] theorem run_nil (s : Bank ι M) : run s [] = s := rfl

@[simp] theorem run_cons (s : Bank ι M) (op : BankOp ι) (ops : List (BankOp ι)) :
    run s (op :: ops) = run (step s op) ops := rfl

theorem run_concat (s : Bank ι M) (ops : List (BankOp ι)) (op : BankOp ι) :
    run s (ops ++ [op]) = step (run s ops) op := by
  simp [run]

/-! ## The closed form of the switches -/

open Classical in
/-- What an operation sets the switch at `k` to, if it names `k`. -/
noncomputable def setting (k : ι) : BankOp ι → Option Bool
  | .switch cells on => if k ∈ cells then some on else none
  | _ => none

theorem step_enabled (s : Bank ι M) (op : BankOp ι) (k : ι) :
    (step s op).enabled k = (setting k op).getD (s.enabled k) := by
  cases op with
  | switch cells on =>
    by_cases member : k ∈ cells <;> simp [step, setting, member]
  | _ => rfl

/-- A switch stands as the last operation that names it left it. -/
theorem run_enabled (s : Bank ι M) (ops : List (BankOp ι)) (k : ι) :
    (run s ops).enabled k = (ops.reverse.findSome? (setting k)).getD (s.enabled k) := by
  induction ops using List.reverseRecOn with
  | nil => rfl
  | append_singleton ops op ih =>
    rw [run_concat, step_enabled, ih, List.reverse_append, List.reverse_singleton,
      List.singleton_append, List.findSome?_cons]
    cases setting k op <;> rfl

/-- A switch that no operation turns the other way stays as it is. -/
theorem run_enabled_of_never {s : Bank ι M} {ops : List (BankOp ι)} {k : ι} {on : Bool}
    (never : ∀ op ∈ ops, setting k op ≠ some (!on)) (start : s.enabled k = on) :
    (run s ops).enabled k = on := by
  induction ops generalizing s with
  | nil => exact start
  | cons op ops ih =>
    apply ih (fun op' member => never op' (List.mem_cons_of_mem op member))
    have here := never op List.mem_cons_self
    rw [step_enabled, start]
    cases set : setting k op with
    | none => rfl
    | some value =>
      rw [set] at here
      cases on <;> cases value <;> first | rfl | exact absurd rfl here

/-! ## The closed form of the counters -/

/-- The index at which the counter now at `k` stood before `ops`: `k` carried
backwards through the swaps. -/
def carryBack (ops : List (BankOp ι)) (k : ι) : ι :=
  match ops with
  | [] => k
  | .swap a b :: ops => Equiv.swap a b (carryBack ops k)
  | _ :: ops => carryBack ops k

/-- No reset in `ops` hits the counter that ends at `k`. -/
def Survives (ops : List (BankOp ι)) (k : ι) : Prop :=
  ∀ r cells, ops[r]? = some (.reset cells) → carryBack (ops.drop (r + 1)) k ∉ cells

/-- Operation `t` is a tick that the counter ending at `k` still shows: its switch
was on at that moment and no later reset hit it. -/
def Counted (s : Bank ι M) (ops : List (BankOp ι)) (k : ι) (t : ℕ) : Prop :=
  ops[t]? = some .tick ∧
    (run s (ops.take t)).enabled (carryBack (ops.drop (t + 1)) k) = true ∧
    Survives (ops.drop (t + 1)) k

open Classical in
/-- The number of ticks that the counter ending at `k` still shows. -/
noncomputable def ticksShown (s : Bank ι M) (ops : List (BankOp ι)) (k : ι) : ℕ :=
  Nat.count (Counted s ops k) ops.length

theorem ticksShown_eq_count {s : Bank ι M} {ops : List (BankOp ι)} {k : ι} {p : ℕ → Prop}
    [DecidablePred p] (same : ∀ t, Counted s ops k t ↔ p t) :
    ticksShown s ops k = Nat.count p ops.length := by
  classical
  have : Counted s ops k = p := funext fun t => propext (same t)
  unfold ticksShown
  subst this
  congr

open Classical in
/-- The value the counter ending at `k` counts up from. -/
noncomputable def base (s : Bank ι M) (ops : List (BankOp ι)) (k : ι) : M :=
  if Survives ops k then s.count (carryBack ops k) else 0

theorem survives_nil (k : ι) : Survives [] k := by
  intro r cells found
  simp at found

theorem survives_cons (op : BankOp ι) (ops : List (BankOp ι)) (k : ι) :
    Survives (op :: ops) k ↔
      (∀ cells, op = .reset cells → carryBack ops k ∉ cells) ∧ Survives ops k := by
  constructor
  · intro survives
    exact ⟨fun cells equal => survives 0 cells (by simp [equal]),
      fun r cells found => survives (r + 1) cells (by simpa using found)⟩
  · rintro ⟨first, rest⟩ r cells found
    cases r with
    | zero => exact first cells (by simpa using found)
    | succ r => exact rest r cells (by simpa using found)

theorem counted_cons_zero (s : Bank ι M) (op : BankOp ι) (ops : List (BankOp ι)) (k : ι) :
    Counted s (op :: ops) k 0 ↔
      op = .tick ∧ s.enabled (carryBack ops k) = true ∧ Survives ops k := by
  simp [Counted]

theorem counted_cons_succ (s : Bank ι M) (op : BankOp ι) (ops : List (BankOp ι)) (k : ι) (t : ℕ) :
    Counted s (op :: ops) k (t + 1) ↔ Counted (step s op) ops k t := by
  simp [Counted]

open Classical in
/-- The first operation of a sequence moves the base of the rest by one exactly
when it is a tick that the counter still shows. -/
theorem base_cons (s : Bank ι M) (op : BankOp ι) (ops : List (BankOp ι)) (k : ι) :
    base (step s op) ops k =
      (· + 1)^[if Counted s (op :: ops) k 0 then 1 else 0] (base s (op :: ops) k) := by
  simp only [counted_cons_zero, base, survives_cons]
  by_cases survives : Survives ops k
  · cases op with
    | tick =>
      by_cases on : s.enabled (carryBack ops k) = true <;> simp [survives, on, step, carryBack]
    | reset cells =>
      by_cases hit : carryBack ops k ∈ cells <;> simp [survives, hit, step, carryBack]
    | _ => simp [survives, step, carryBack]
  · simp [survives]

open Classical in
theorem ticksShown_cons (s : Bank ι M) (op : BankOp ι) (ops : List (BankOp ι)) (k : ι) :
    ticksShown s (op :: ops) k =
      ticksShown (step s op) ops k + if Counted s (op :: ops) k 0 then 1 else 0 := by
  simp only [ticksShown, List.length_cons, Nat.count_succ', counted_cons_succ]

/-- The closed form of a counter: it counts the ticks it still shows, up from
where the swaps took it from, or from zero once a reset hit it. -/
theorem run_count (s : Bank ι M) (ops : List (BankOp ι)) (k : ι) :
    (run s ops).count k = (· + 1)^[ticksShown s ops k] (base s ops k) := by
  induction ops generalizing s with
  | nil => simp [ticksShown, base, survives_nil, carryBack]
  | cons op ops ih =>
    rw [run_cons, ih, base_cons, ticksShown_cons, Function.iterate_add_apply]

/-- The bank in which every counter is zero and every switch is off. -/
def fresh : Bank ι M := ⟨fun _ => 0, fun _ => false⟩

theorem run_fresh_count (ops : List (BankOp ι)) (k : ι) :
    (run fresh ops).count k = (· + 1)^[ticksShown (fresh : Bank ι M) ops k] (0 : M) := by
  have zero : base (fresh : Bank ι M) ops k = 0 := by
    unfold base
    split <;> rfl
  rw [run_count, zero]

/-! ## Counting ticks -/

/-- The operation is a tick. -/
def isTick : BankOp ι → Bool
  | .tick => true
  | _ => false

/-- A counter shows no more ticks than there were. -/
theorem ticksShown_le (s : Bank ι M) (ops : List (BankOp ι)) (k : ι) :
    ticksShown s ops k ≤ ops.countP isTick := by
  classical
  induction ops generalizing s with
  | nil => exact Nat.le_refl 0
  | cons op ops ih =>
    rw [ticksShown_cons, List.countP_cons]
    refine Nat.add_le_add (ih (step s op)) ?_
    by_cases counted : Counted s (op :: ops) k 0
    · obtain rfl := ((counted_cons_zero s op ops k).mp counted).1
      rw [if_pos counted]
      exact Nat.le_refl 1
    · rw [if_neg counted]
      exact Nat.zero_le _

/-- While a switch is on, its counter counts every tick. -/
theorem run_ticks {s : Bank ι M} {k : ι} (on : s.enabled k = true) (n : ℕ) :
    (run s (List.replicate n .tick)).count k = (· + 1)^[n] (s.count k) := by
  induction n generalizing s with
  | zero => rfl
  | succ n ih =>
    have next : (step s .tick).count k = s.count k + 1 := if_pos on
    have rest := ih (s := step s .tick) on
    rw [List.replicate_succ, run_cons, rest, next, Function.iterate_succ_apply]

/-! ## Which operations commute -/

/-- The exact condition under which the order of two operations shows. -/
def Conflict (s : Bank ι M) : BankOp ι → BankOp ι → Prop
  | .tick, .reset cells | .reset cells, .tick => ∃ k ∈ cells, s.enabled k = true
  | .tick, .switch cells on | .switch cells on, .tick => ∃ k ∈ cells, s.enabled k ≠ on
  | .tick, .swap a b | .swap a b, .tick => s.enabled a ≠ s.enabled b
  | .switch cells on, .switch cells' on' => on ≠ on' ∧ ∃ k, k ∈ cells ∧ k ∈ cells'
  | .reset cells, .swap a b | .swap a b, .reset cells =>
      (a ∈ cells ↔ b ∉ cells) ∧ ¬ (s.count a = 0 ∧ s.count b = 0)
  | .swap a b, .swap c d =>
      a ≠ b ∧ c ≠ d ∧ ((a = c ∨ a = d) ↔ ¬ (b = c ∨ b = d)) ∧
        ¬ (s.count a = s.count b ∧ s.count c = s.count d)
  | _, _ => False

omit [DecidableEq ι] [One M] [Add M] in
theorem conflict_comm (s : Bank ι M) (op op' : BankOp ι) :
    Conflict s op op' ↔ Conflict s op' op := by
  cases op <;> cases op' <;> simp only [Conflict] <;> grind

/-- Both orders of two operations lead to the same bank. -/
def Commutes (s : Bank ι M) (op op' : BankOp ι) : Prop :=
  step (step s op) op' = step (step s op') op

theorem commutes_comm {s : Bank ι M} {op op' : BankOp ι} :
    Commutes s op op' ↔ Commutes s op' op := eq_comm

theorem commutes_iff {s : Bank ι M} {op op' : BankOp ι} :
    Commutes s op op' ↔
      (∀ k, (step (step s op) op').count k = (step (step s op') op).count k) ∧
      (∀ k, (step (step s op) op').enabled k = (step (step s op') op).enabled k) := by
  rw [Commutes, Bank.ext_iff, funext_iff, funext_iff]

theorem switch_switch_commutes (s : Bank ι M) (cells cells' : Set ι) (on on' : Bool) :
    Commutes s (.switch cells on) (.switch cells' on') ↔
      ¬ (on ≠ on' ∧ ∃ k, k ∈ cells ∧ k ∈ cells') := by
  rw [commutes_iff]
  simp only [step]
  grind

theorem reset_swap_commutes (s : Bank ι M) (cells : Set ι) (a b : ι) :
    Commutes s (.reset cells) (.swap a b) ↔
      ¬ ((a ∈ cells ↔ b ∉ cells) ∧ ¬ (s.count a = 0 ∧ s.count b = 0)) := by
  rw [commutes_iff]
  simp only [step, implies_true, and_true]
  constructor
  · rintro same ⟨one, nonzero⟩
    have atA := same a
    have atB := same b
    rw [Equiv.swap_apply_left] at atA
    rw [Equiv.swap_apply_right] at atB
    grind
  · intro calm k
    by_cases isA : k = a
    · subst isA
      rw [Equiv.swap_apply_left]
      grind
    by_cases isB : k = b
    · subst isB
      rw [Equiv.swap_apply_right]
      grind
    rw [Equiv.swap_apply_of_ne_of_ne isA isB]

/-- A swap of equal counters changes nothing. -/
theorem swap_of_count_eq {s : Bank ι M} {a b : ι} (same : s.count a = s.count b) :
    step s (.swap a b) = s := by
  apply Bank.ext
  · funext k
    simp only [step]
    by_cases isA : k = a
    · rw [isA, Equiv.swap_apply_left, same]
    by_cases isB : k = b
    · rw [isB, Equiv.swap_apply_right, same]
    rw [Equiv.swap_apply_of_ne_of_ne isA isB]
  · rfl

/-- The order of two swaps with one index in common shows unless the three
counters are equal. -/
theorem swap_swap_shared (s : Bank ι M) {a b c : ι} (ab : a ≠ b) (ac : a ≠ c) (bc : b ≠ c) :
    Commutes s (.swap a b) (.swap a c) ↔ s.count a = s.count b ∧ s.count a = s.count c := by
  constructor
  · intro same
    have atA := (commutes_iff.mp same).1 a
    have atB := (commutes_iff.mp same).1 b
    simp only [step, Equiv.swap_apply_left, Equiv.swap_apply_right,
      Equiv.swap_apply_of_ne_of_ne ac.symm bc.symm, Equiv.swap_apply_of_ne_of_ne ab.symm bc]
      at atA atB
    exact ⟨by rw [atB, atA], by rw [atB]⟩
  · rintro ⟨equalB, equalC⟩
    rw [Commutes, swap_of_count_eq equalB, swap_of_count_eq equalC, swap_of_count_eq equalB]

theorem swap_swap_disjoint (s : Bank ι M) {a b c d : ι} (ac : a ≠ c) (ad : a ≠ d) (bc : b ≠ c)
    (bd : b ≠ d) : Commutes s (.swap a b) (.swap c d) := by
  refine commutes_iff.mpr ⟨fun k => ?_, fun _ => rfl⟩
  simp only [step]
  congr 1
  simp only [Equiv.swap_apply_def]
  grind

theorem swap_comm (s : Bank ι M) (a b : ι) : step s (.swap a b) = step s (.swap b a) := by
  simp only [step, Equiv.swap_comm a b]

theorem swap_self (s : Bank ι M) (a : ι) : step s (.swap a a) = s :=
  swap_of_count_eq rfl

theorem swap_swap_commutes (s : Bank ι M) (a b c d : ι) :
    Commutes s (.swap a b) (.swap c d) ↔
      ¬ (a ≠ b ∧ c ≠ d ∧ ((a = c ∨ a = d) ↔ ¬ (b = c ∨ b = d)) ∧
        ¬ (s.count a = s.count b ∧ s.count c = s.count d)) := by
  -- The shared index can stand at either place of either swap; turning the swaps
  -- round brings it to the front of both.
  by_cases ab : a = b
  · subst ab
    simp [Commutes, swap_self]
  by_cases cd : c = d
  · subst cd
    simp [Commutes, swap_self]
  by_cases ac : a = c
  · subst ac
    by_cases bd : b = d
    · subst bd
      simp [Commutes]
    · rw [swap_swap_shared s ab cd bd]
      grind
  by_cases ad : a = d
  · subst ad
    rw [Commutes, swap_comm s c, swap_comm _ c, ← Commutes]
    by_cases bc : b = c
    · subst bc
      simp [Commutes]
    · rw [swap_swap_shared s ab (Ne.symm cd) bc]
      grind
  by_cases bc : b = c
  · subst bc
    rw [Commutes, swap_comm s a, swap_comm _ a, ← Commutes,
      swap_swap_shared s (Ne.symm ab) cd ad]
    grind
  by_cases bd : b = d
  · subst bd
    rw [Commutes, swap_comm s a, swap_comm _ a, swap_comm s c, swap_comm _ c, ← Commutes,
      swap_swap_shared s (Ne.symm ab) (Ne.symm cd) ac]
    grind
  · have := swap_swap_disjoint s ac ad bc bd
    grind

section Successor

variable (moves : ∀ c : M, c + 1 ≠ c)

include moves

theorem tick_reset_commutes (s : Bank ι M) (cells : Set ι) :
    Commutes s .tick (.reset cells) ↔ ¬ ∃ k ∈ cells, s.enabled k = true := by
  have one := moves 0
  rw [commutes_iff]
  simp only [step]
  grind

theorem tick_switch_commutes (s : Bank ι M) (cells : Set ι) (on : Bool) :
    Commutes s .tick (.switch cells on) ↔ ¬ ∃ k ∈ cells, s.enabled k ≠ on := by
  rw [commutes_iff]
  simp only [step]
  constructor
  · rintro ⟨same, -⟩ ⟨k, member, other⟩
    have atK := same k
    have := moves (s.count k)
    grind
  · intro calm
    grind

theorem tick_swap_commutes (s : Bank ι M) (a b : ι) :
    Commutes s .tick (.swap a b) ↔ ¬ s.enabled a ≠ s.enabled b := by
  rw [commutes_iff]
  simp only [step, implies_true, and_true]
  constructor
  · intro same
    have atA := same a
    have := moves (s.count b)
    rw [Equiv.swap_apply_left] at atA
    grind
  · intro calm k
    have : s.enabled (Equiv.swap a b k) = s.enabled k := by
      rw [Equiv.swap_apply_def]
      grind
    rw [this]
    rfl

/-- Two operations commute exactly when they are not in conflict. -/
theorem step_comm_iff (s : Bank ι M) (op op' : BankOp ι) :
    step (step s op) op' = step (step s op') op ↔ ¬ Conflict s op op' := by
  change Commutes s op op' ↔ _
  cases op with
  | idle => cases op' <;> exact iff_of_true rfl id
  | tick =>
    cases op' with
    | reset cells => exact tick_reset_commutes moves s cells
    | switch cells on => exact tick_switch_commutes moves s cells on
    | swap a b => exact tick_swap_commutes moves s a b
    | _ => exact iff_of_true rfl id
  | reset cells =>
    cases op' with
    | tick => rw [commutes_comm]; exact tick_reset_commutes moves s cells
    | swap a b => exact reset_swap_commutes s cells a b
    | reset cells' => simp only [commutes_iff, step, Conflict]; grind
    | _ => exact iff_of_true rfl id
  | switch cells on =>
    cases op' with
    | tick => rw [commutes_comm]; exact tick_switch_commutes moves s cells on
    | switch cells' on' => exact switch_switch_commutes s cells cells' on on'
    | _ => exact iff_of_true rfl id
  | swap a b =>
    cases op' with
    | tick => rw [commutes_comm]; exact tick_swap_commutes moves s a b
    | reset cells => rw [commutes_comm]; exact reset_swap_commutes s cells a b
    | swap c d => exact swap_swap_commutes s a b c d
    | _ => exact iff_of_true rfl id

end Successor

end Bank
