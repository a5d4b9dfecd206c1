import BlinkerApp.Misc.CellMoves
import BlinkerApp.Proofs.Blinkers

/-!
# Sequences of swaps

A sequence of `SWAP` commands permutes the counts and touches nothing else of the
blinkers. The commands with a number out of range are part of the sequence and move
nothing.
-/

namespace BlinkerApp

open Traced Cells

variable {N : Nat} (p : Platform)

/-! ## Commands -/

/-- Every message is a `SWAP` of the right length, with any two numbers. -/
def AllSwaps (inputs : List (Input p)) : Prop :=
  ∀ i ∈ inputs, WellSized p i.buffer .swapCounts

/-- The transposition a `SWAP` asks for: the identity with a number out of range. -/
def swapPerm (N : Nat) (m : SbBuffer) : Equiv.Perm (Fin N) :=
  match blinkerOf N (blinkerNumber1 p m), blinkerOf N (blinkerNumber2 p m) with
  | some a, some b => Equiv.swap a b
  | _, _ => 1

/-- The permutation of a sequence of `SWAP` commands. -/
def swapsPerm (N : Nat) (inputs : List (Input p)) : Equiv.Perm (Fin N) :=
  (inputs.map fun i => swapPerm p N i.buffer).prod

/-- The second message has the numbers of the first, in this or the other order. -/
def SameOrTurned (i i' : Input p) : Prop :=
  (blinkerNumber1 p i'.buffer = blinkerNumber1 p i.buffer ∧
      blinkerNumber2 p i'.buffer = blinkerNumber2 p i.buffer) ∨
    (blinkerNumber1 p i'.buffer = blinkerNumber2 p i.buffer ∧
      blinkerNumber2 p i'.buffer = blinkerNumber1 p i.buffer)

theorem swapPerm_turned {i i' : Input p} (turned : SameOrTurned p i i') :
    swapPerm p N i'.buffer = swapPerm p N i.buffer := by
  unfold swapPerm
  rcases turned with ⟨first, second⟩ | ⟨first, second⟩
  · rw [first, second]
  · rw [first, second]
    cases blinkerOf N (blinkerNumber1 p i.buffer) <;>
      cases blinkerOf N (blinkerNumber2 p i.buffer) <;> first | rfl | exact Equiv.swap_comm _ _

theorem swapsPerm_turned {inputs inputs' : List (Input p)}
    (turned : List.Forall₂ (SameOrTurned p) inputs inputs') :
    swapsPerm p N inputs' = swapsPerm p N inputs := by
  unfold swapsPerm
  induction turned with
  | nil => rfl
  | cons here _ ih => rw [List.map_cons, List.map_cons, List.prod_cons, List.prod_cons, ih,
      swapPerm_turned p here]

/-! ## One command -/

theorem parse_swap {m : SbBuffer} (sized : WellSized p m .swapCounts) :
    parse p N m = requestOf p N m .swapCounts := by
  obtain ⟨isCmd, code, fits⟩ := sized
  rw [parse_of_cmdMid p m isCmd, code, Option.bind_some, if_pos fits]

/-- A `SWAP` moves the counts of its bank by its transposition. -/
theorem bankOp_swap {m : SbBuffer} (sized : WellSized p m .swapCounts) :
    (bankOp p N m).Moves ∧ (bankOp p N m).perm = swapPerm p N m := by
  unfold bankOp swapPerm
  rw [parse_swap p sized, requestOf]
  cases blinkerOf N (blinkerNumber1 p m) with
  | none => exact ⟨trivial, rfl⟩
  | some a =>
    cases blinkerOf N (blinkerNumber2 p m) with
    | none => exact ⟨trivial, rfl⟩
    | some b => exact ⟨trivial, rfl⟩

theorem swap_statuses {m : SbBuffer} (sized : WellSized p m .swapCounts) (r : CfeReplies p)
    (d : Data p N) : (taskPipe p r m d).state.blinkerStatuses = d.blinkerStatuses := by
  apply taskPipe_state_cases p r m d (motive := fun s => s.blinkerStatuses = d.blinkerStatuses)
  · intro req found
    rw [parse_swap p sized, requestOf] at found
    obtain ⟨a, -, rest⟩ := Option.bind_eq_some_iff.mp found
    obtain ⟨b, -, rfl⟩ := Option.map_eq_some_iff.mp rest
    rfl
  · exact fun _ _ => rfl

/-! ## Sequences of commands -/

theorem moves_of_allSwaps {inputs : List (Input p)} (swaps : AllSwaps p inputs) :
    ∀ op ∈ inputs.map (fun i => bankOp p N i.buffer), op.Moves := by
  intro op member
  obtain ⟨i, inside, rfl⟩ := List.mem_map.mp member
  exact (bankOp_swap p (swaps i inside)).1

theorem runSwaps_statuses {inputs : List (Input p)} (swaps : AllSwaps p inputs) (d : Data p N) :
    (runTaskPipe p inputs d).state.blinkerStatuses = d.blinkerStatuses := by
  have keeps (i : Input p) (member : i ∈ inputs) (s : Data p N)
      (same : s.blinkerStatuses = d.blinkerStatuses) :
      (taskPipe p i.replies i.buffer s).state.blinkerStatuses = d.blinkerStatuses :=
    (swap_statuses p (swaps i member) i.replies s).trans same
  exact each_invariant keeps rfl

/-- The counts after a sequence of swaps are those before it, permuted. -/
theorem runSwaps_count {inputs : List (Input p)} (swaps : AllSwaps p inputs) (d : Data p N)
    (k : Fin N) :
    (runTaskPipe p inputs d).state.blinkerCounts.get k =
      d.blinkerCounts.get (swapsPerm p N inputs k) := by
  have perms : (inputs.map fun i => bankOp p N i.buffer).map BankOp.perm =
      inputs.map fun i => swapPerm p N i.buffer := by
    rw [List.map_map]
    exact List.map_congr_left fun i inside => (bankOp_swap p (swaps i inside)).2
  show (runTaskPipe p inputs d).state.bank.count k = _
  rw [runTaskPipe_bank, Bank.run_of_moves (moves_of_allSwaps p swaps), perms]
  rfl

/-- The same commands in reverse order restore the counts. -/
theorem runSwaps_undo {inputs undo : List (Input p)} (swaps : AllSwaps p inputs)
    (reversed : undo.map (·.buffer) = (inputs.map (·.buffer)).reverse) (d : Data p N) :
    (runTaskPipe p undo (runTaskPipe p inputs d).state).state.blinkerCounts =
      d.blinkerCounts := by
  have backwards : (undo.map fun i => bankOp p N i.buffer) =
      (inputs.map fun i => bankOp p N i.buffer).reverse := by
    have ops := congrArg (List.map (bankOp p N)) reversed
    rwa [List.map_map, List.map_reverse, List.map_map] at ops
  apply ext_get
  intro k
  show (runTaskPipe p undo _).state.bank.count k = d.bank.count k
  rw [runTaskPipe_bank, runTaskPipe_bank, backwards,
    Bank.run_undo (moves_of_allSwaps p swaps)]

/-- A sequence of `SWAP` commands permutes the counts by the product of the transpositions
of those in range, whichever way round their numbers stand, and leaves the statuses alone;
in reverse order it undoes itself, and no count is lost or doubled. -/
theorem swaps_permute {inputs : List (Input p)} (swaps : AllSwaps p inputs) (d : Data p N) :
    let after := (runTaskPipe p inputs d).state
    (∀ k, after.blinkerCounts.get k = d.blinkerCounts.get (swapsPerm p N inputs k)) ∧
    after.blinkerStatuses = d.blinkerStatuses ∧
    (∀ inputs', AllSwaps p inputs' → List.Forall₂ (SameOrTurned p) inputs inputs' →
      (runTaskPipe p inputs' d).state.blinkerCounts = after.blinkerCounts) ∧
    (∀ undo : List (Input p), undo.map (·.buffer) = (inputs.map (·.buffer)).reverse →
      (runTaskPipe p undo after).state.blinkerCounts = d.blinkerCounts) ∧
    after.blinkerCounts.toList.Perm d.blinkerCounts.toList := by
  intro after
  have permuted := runSwaps_count p swaps d
  refine ⟨permuted, runSwaps_statuses p swaps d, ?_, ?_, toList_perm _ permuted⟩
  · intro inputs' swaps' turned
    apply ext_get
    intro k
    rw [runSwaps_count p swaps' d k, swapsPerm_turned p turned]
    exact (permuted k).symm
  · intro undo reversed
    exact runSwaps_undo p swaps reversed d

/-- A swap, one with a number out of range, and one of a blinker with itself. -/
def threeSwaps (p : Platform) : List (Input p) :=
  [⟨default, groundCommand p swapTwoBlinkersCc [0, 0, 1, 0]⟩,
   ⟨default, groundCommand p swapTwoBlinkersCc [0, 0, 2, 0]⟩,
   ⟨default, groundCommand p swapTwoBlinkersCc [1, 0, 1, 0]⟩]

theorem swaps_permute_three :
    let p := defaultPlatform
    let d : Data p 2 := { zeroData p with blinkerCounts := #v[5, 7] }
    AllSwaps p (threeSwaps p) ∧ (runTaskPipe p (threeSwaps p) d).state.blinkerCounts.get 0 = 7 := by
  intro p d
  have swaps : AllSwaps p (threeSwaps p) := by
    simp only [AllSwaps, threeSwaps, List.forall_mem_cons]
    exact ⟨⟨by decide, by decide, by decide⟩, ⟨by decide, by decide, by decide⟩,
      ⟨by decide, by decide, by decide⟩, List.forall_mem_nil _⟩
  exact ⟨swaps, ((swaps_permute p swaps d).1 0).trans (by decide)⟩

end BlinkerApp
