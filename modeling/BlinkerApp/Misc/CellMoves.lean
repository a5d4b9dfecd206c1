import Mathlib.Algebra.BigOperators.Group.List.Basic
import Mathlib.Algebra.Group.End
import BlinkerApp.Misc.CellBank

/-!
# Banks whose counters are only moved

A sequence of swaps applies one permutation to the counters: the product of its
transpositions, in order. So no counter is lost or doubled, and the same sequence
backwards undoes it.
-/

/-- The operation moves counters about, or does nothing. -/
def BankOp.Moves {ι : Type} : BankOp ι → Prop
  | .idle | .swap _ _ => True
  | _ => False

/-- The permutation an operation applies to the counters. -/
def BankOp.perm {ι : Type} [DecidableEq ι] : BankOp ι → Equiv.Perm ι
  | .swap a b => Equiv.swap a b
  | _ => 1

namespace Bank

variable {ι M : Type} [DecidableEq ι]

theorem perm_inv (op : BankOp ι) : op.perm⁻¹ = op.perm := by
  cases op with
  | swap a b => exact Equiv.swap_inv a b
  | _ => exact inv_one

/-- The permutation of a sequence, backwards. -/
theorem prod_perm_reverse (ops : List (BankOp ι)) :
    (ops.reverse.map BankOp.perm).prod = ((ops.map BankOp.perm).prod)⁻¹ := by
  rw [List.prod_inv_reverse, List.map_map, List.map_reverse]
  congr 2
  exact List.map_congr_left fun op _ => (perm_inv op).symm

section Run

variable [Zero M] [One M] [Add M]

theorem step_of_moves {op : BankOp ι} (moves : op.Moves) (s : Bank ι M) :
    step s op = ⟨s.count ∘ op.perm, s.enabled⟩ := by
  cases op with
  | idle | swap => rfl
  | _ => exact absurd moves id

/-- A sequence that only moves counters applies the product of its permutations. -/
theorem run_of_moves {ops : List (BankOp ι)} (moves : ∀ op ∈ ops, op.Moves) (s : Bank ι M) :
    run s ops = ⟨s.count ∘ (ops.map BankOp.perm).prod, s.enabled⟩ := by
  induction ops generalizing s with
  | nil => rfl
  | cons op ops ih =>
    rw [run_cons, step_of_moves (moves op List.mem_cons_self),
      ih fun op' member => moves op' (List.mem_cons_of_mem op member), List.map_cons,
      List.prod_cons]
    rfl

/-- The same sequence backwards undoes it. -/
theorem run_undo {ops : List (BankOp ι)} (moves : ∀ op ∈ ops, op.Moves) (s : Bank ι M) :
    run (run s ops) ops.reverse = s := by
  have backwards : ∀ op ∈ ops.reverse, op.Moves := fun op member =>
    moves op (List.mem_reverse.mp member)
  rw [run_of_moves moves, run_of_moves backwards, prod_perm_reverse]
  apply Bank.ext
  · funext k
    simp
  · rfl

end Run

end Bank
