import BlinkerApp.Misc.CellBank

/-!
# Operations of a bank that clash

Whether two operations ever fail to commute, and which counters an operation can change,
as far as the operations alone tell. Ticks among other operations only ever count.
-/

namespace Bank

variable {ι : Type}

/-- The order of two operations shows in some bank. -/
def Clash : BankOp ι → BankOp ι → Prop
  | .tick, .reset cells | .reset cells, .tick => cells.Nonempty
  | .tick, .switch cells _ | .switch cells _, .tick => cells.Nonempty
  | .tick, .swap a b | .swap a b, .tick => a ≠ b
  | .switch cells on, .switch cells' on' => on ≠ on' ∧ ∃ k, k ∈ cells ∧ k ∈ cells'
  | .reset cells, .swap a b | .swap a b, .reset cells => a ∈ cells ↔ b ∉ cells
  | .swap a b, .swap c d => a ≠ b ∧ c ≠ d ∧ ((a = c ∨ a = d) ↔ ¬ (b = c ∨ b = d))
  | _, _ => False

/-- The counters that an operation changes in some bank. -/
def changes : BankOp ι → Set ι
  | .tick => Set.univ
  | .reset cells => cells
  | .swap a b => {k | a ≠ b ∧ (k = a ∨ k = b)}
  | _ => ∅

theorem Clash.symm {op op' : BankOp ι} (clash : Clash op op') : Clash op' op := by
  cases op <;> cases op' <;> simp only [Clash] at clash ⊢ <;> grind

variable {M : Type} [Zero M]

theorem Conflict.clash {s : Bank ι M} {op op' : BankOp ι} (conflict : Conflict s op op') :
    Clash op op' := by
  cases op with
  | idle => exact absurd conflict (by cases op' <;> exact id)
  | tick =>
    cases op' with
    | reset cells | switch cells on => exact conflict.imp fun _ shown => shown.1
    | swap a b => exact fun same => conflict (congrArg s.enabled same)
    | _ => exact absurd conflict id
  | reset cells =>
    cases op' with
    | tick => exact conflict.imp fun _ shown => shown.1
    | swap a b => exact conflict.1
    | _ => exact absurd conflict id
  | switch cells on =>
    cases op' with
    | tick => exact conflict.imp fun _ shown => shown.1
    | switch cells' on' => exact conflict
    | _ => exact absurd conflict id
  | swap a b =>
    cases op' with
    | tick => exact fun same => conflict (congrArg s.enabled same)
    | reset cells => exact conflict.1
    | swap c d => exact ⟨conflict.1, conflict.2.1, conflict.2.2.1⟩
    | _ => exact absurd conflict id

/-- Two operations that do not clash give a switch the same setting. -/
theorem setting_eq_of_not_clash {op op' : BankOp ι} (calm : ¬ Clash op op') {k : ι} {on on' : Bool}
    (first : setting k op = some on) (second : setting k op' = some on') : on = on' := by
  cases op with
  | switch cells value =>
    cases op' with
    | switch cells' value' =>
      simp only [setting, Option.ite_none_right_eq_some, Option.some.injEq] at first second
      by_contra apart
      refine calm ⟨?_, k, first.1, second.1⟩
      rw [first.2, second.2]
      exact apart
    | _ => cases second
  | _ => cases first

variable [DecidableEq ι] [One M] [Add M]

/-- What an operation leaves alone. -/
theorem step_count_of_not_changes {op : BankOp ι} {k : ι} (kept : k ∉ changes op)
    (s : Bank ι M) : (step s op).count k = s.count k := by
  cases op with
  | tick => exact absurd (Set.mem_univ k) kept
  | reset cells => exact if_neg kept
  | swap a b =>
    by_cases same : a = b
    · rw [same, swap_self]
    · have away : ¬ (k = a ∨ k = b) := fun isOne => kept ⟨same, isOne⟩
      obtain ⟨notA, notB⟩ := not_or.mp away
      exact congrArg s.count (Equiv.swap_apply_of_ne_of_ne notA notB)
  | _ => rfl

section Successor

variable (moves : ∀ c : M, c + 1 ≠ c)

include moves

/-- Operations that clash conflict in some bank. -/
theorem exists_conflict {op op' : BankOp ι} (clash : Clash op op') :
    ∃ s : Bank ι M, Conflict s op op' := by
  have one := moves 0
  -- the banks that show the clashes
  let all (on : Bool) : Bank ι M := ⟨fun _ => 0 + 1, fun _ => on⟩
  let only (a : ι) : Bank ι M := ⟨fun k => if k = a then 0 + 1 else 0, fun k => k = a⟩
  have count {a b : ι} (ab : a ≠ b) : (only a).count a ≠ (only a).count b := by
    simpa [only, Ne.symm ab] using one
  have enabled {a b : ι} (ab : a ≠ b) : (only a).enabled a ≠ (only a).enabled b := by
    simpa [only] using Ne.symm ab
  cases op with
  | idle => exact absurd clash (by cases op' <;> exact id)
  | tick =>
    cases op' with
    | reset cells => exact ⟨all true, clash.imp fun _ member => ⟨member, rfl⟩⟩
    | switch cells on =>
      exact ⟨all !on, clash.imp fun _ member => ⟨member, Bool.not_ne_self on⟩⟩
    | swap a b => exact ⟨only a, enabled clash⟩
    | _ => exact absurd clash id
  | reset cells =>
    cases op' with
    | tick => exact ⟨all true, clash.imp fun _ member => ⟨member, rfl⟩⟩
    | swap a b => exact ⟨all true, clash, fun zero => one zero.1⟩
    | _ => exact absurd clash id
  | switch cells on =>
    cases op' with
    | tick => exact ⟨all !on, clash.imp fun _ member => ⟨member, Bool.not_ne_self on⟩⟩
    | switch cells' on' => exact ⟨all true, clash⟩
    | _ => exact absurd clash id
  | swap a b =>
    cases op' with
    | tick => exact ⟨only a, enabled clash⟩
    | reset cells => exact ⟨all true, clash, fun zero => one zero.1⟩
    | swap c d =>
      exact ⟨only a, clash.1, clash.2.1, clash.2.2, fun same => count clash.1 same.1⟩
    | _ => exact absurd clash id

/-- Two operations commute in every bank exactly when they do not clash. -/
theorem forall_commutes_iff {op op' : BankOp ι} :
    (∀ s : Bank ι M, Commutes s op op') ↔ ¬ Clash op op' := by
  constructor
  · intro commutes clash
    obtain ⟨s, conflict⟩ := exists_conflict moves clash
    exact (step_comm_iff moves s op op').mp (commutes s) conflict
  · exact fun calm s => (step_comm_iff moves s op op').mpr fun conflict => calm conflict.clash

/-- An operation changes each of its counters in some bank. -/
theorem exists_change {op : BankOp ι} {k : ι} (changed : k ∈ changes op) :
    ∃ s : Bank ι M, (step s op).count k ≠ s.count k := by
  have one := moves 0
  cases op with
  | tick => exact ⟨⟨fun _ => 0, fun _ => true⟩, one⟩
  | reset cells =>
    refine ⟨⟨fun _ => 0 + 1, fun _ => true⟩, fun same => one ?_⟩
    exact same.symm.trans (if_pos changed)
  | swap a b =>
    obtain ⟨ab, isOne⟩ := changed
    refine ⟨⟨fun j => if j = k then 0 + 1 else 0, fun _ => true⟩, ?_⟩
    have moved : Equiv.swap a b k ≠ k := by
      rcases isOne with rfl | rfl
      · rw [Equiv.swap_apply_left]
        exact Ne.symm ab
      · rw [Equiv.swap_apply_right]
        exact ab
    simpa [step, moved] using one.symm
  | _ => cases changed

end Successor

/-! ## The operations without the ticks -/

/-- A counter is ahead of the same operations without the ticks by some of the ticks. -/
theorem run_count_without_ticks (s : Bank ι M) (ops : List (BankOp ι)) (k : ι) :
    ∃ n ≤ ops.countP isTick,
      (run s ops).count k = (· + 1)^[n] ((run s (ops.filter (!isTick ·))).count k) := by
  induction ops using List.reverseRecOn generalizing k with
  | nil => exact ⟨0, Nat.le_refl 0, rfl⟩
  | append_singleton ops op ih =>
    obtain ⟨n, few, ahead⟩ := ih k
    have kept (other : isTick op = false) :
        run s ((ops ++ [op]).filter (!isTick ·)) = step (run s (ops.filter (!isTick ·))) op := by
      rw [List.filter_append, List.filter_cons_of_pos (by rw [other]; rfl), List.filter_nil,
        run_concat]
    rw [run_concat, List.countP_append]
    cases op with
    | tick =>
      have dropped : (ops ++ [BankOp.tick]).filter (!isTick ·) = ops.filter (!isTick ·) := by
        rw [List.filter_append]
        exact List.append_nil _
      rw [dropped]
      by_cases on : (run s ops).enabled k = true
      · refine ⟨n + 1, Nat.succ_le_succ few, ?_⟩
        rw [Function.iterate_succ_apply', ← ahead]
        exact if_pos on
      · refine ⟨n, Nat.le_succ_of_le few, ?_⟩
        rw [← ahead]
        exact if_neg on
    | reset cells =>
      rw [kept rfl]
      by_cases hit : k ∈ cells
      · exact ⟨0, Nat.zero_le _, (if_pos hit).trans (if_pos hit).symm⟩
      · refine ⟨n, few, ?_⟩
        simp only [step, if_neg hit]
        exact ahead
    | swap a b =>
      rw [kept rfl]
      exact ih (Equiv.swap a b k)
    | idle | switch =>
      rw [kept rfl]
      exact ⟨n, few, ahead⟩

end Bank
