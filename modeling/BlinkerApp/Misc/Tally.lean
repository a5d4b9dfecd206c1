import Mathlib.Data.UInt
import Mathlib.Logic.Function.Iterate
import BlinkerApp.Misc.Traced

/-!
# Counters with a reset

A counter that some inputs set to zero and others advance by one shows, after any run, how many
of the latter there were since the last of the former.
-/

namespace Traced

variable {σ ε ι M : Type}

/-- The entries since the last one that resets, latest first. -/
def sinceLast (reset : ι → Bool) (is : List ι) : List ι := is.reverse.takeWhile fun i => !reset i

/-- How many entries count since the last one that resets. -/
def tally (reset counts : ι → Bool) (is : List ι) : Nat := (sinceLast reset is).countP counts

theorem sinceLast_concat (reset : ι → Bool) (is : List ι) (i : ι) :
    sinceLast reset (is ++ [i]) = if reset i then [] else i :: sinceLast reset is := by
  unfold sinceLast
  rw [List.reverse_append, List.reverse_singleton, List.singleton_append, List.takeWhile_cons]
  cases reset i <;> rfl

theorem tally_concat (reset counts : ι → Bool) (is : List ι) (i : ι) :
    tally reset counts (is ++ [i]) =
      if reset i then 0 else tally reset counts is + if counts i then 1 else 0 := by
  unfold tally
  rw [sinceLast_concat]
  cases reset i with
  | true => rfl
  | false => exact List.countP_cons

/-- A counter that each step resets, advances or leaves alone. -/
theorem each_tally [Zero M] [One M] [Add M] {f : ι → Traced σ ε Unit} {counter : σ → M}
    {reset counts : ι → Bool}
    (moves : ∀ i s, counter (f i s).state =
      if reset i then 0 else if counts i then counter s + 1 else counter s)
    {s : σ} (start : counter s = 0) (is : List ι) :
    counter (each f is s).state = (· + 1)^[tally reset counts is] (0 : M) := by
  induction is using List.reverseRecOn with
  | nil => exact start
  | append_singleton is i ih =>
    rw [each_concat_state, moves, tally_concat, ih]
    cases reset i with
    | true => rfl
    | false =>
      cases counts i with
      | true =>
        simp only [Bool.false_eq_true, if_false, if_true]
        exact (Function.iterate_succ_apply' (· + 1) _ 0).symm
      | false => rfl

/-- How often a run shows what each step of a kind shows once. -/
theorem each_countP {ω : Type} {f : ι → Traced σ ε Unit} {g : ε → Option ω} {counts : ι → Bool}
    (shows : ∀ i s, ((f i s).trace.filterMap g).length = if counts i then 1 else 0)
    (is : List ι) (s : σ) : ((each f is s).trace.filterMap g).length = is.countP counts := by
  induction is generalizing s with
  | nil => rfl
  | cons i is ih =>
    rw [each_cons, Outcome.prepend_trace, List.filterMap_append, List.length_append, shows, ih,
      List.countP_cons, Nat.add_comm]

end Traced

/-- A counter of one byte. -/
theorem UInt8.iterate_succ (n : Nat) : (· + 1)^[n] (0 : UInt8) = UInt8.ofNat n := by
  induction n with
  | zero => rfl
  | succ n ih =>
    rw [Function.iterate_succ_apply', ih, UInt8.ofNat_add]
    rfl
