import Mathlib.Data.List.FinRange
import Mathlib.Logic.Equiv.Basic

/-!
# Arrays written cell by cell

What an array holds once a loop has written its first cells, and once two cells
have been exchanged through a temporary. A cell is named by a `Fin`.
-/

namespace Cells

variable {α : Type} {N : Nat}

theorem ext_get {cells cells' : Vector α N} (same : ∀ k : Fin N, cells.get k = cells'.get k) :
    cells = cells' :=
  Vector.ext fun k below => same ⟨k, below⟩

theorem getD_fin (cells : Vector α N) (k : Fin N) (fallback : α) :
    cells.getD k fallback = cells.get k := by
  unfold Vector.getD Array.getD
  exact dif_pos (by rw [cells.size_toArray]; exact k.isLt)

theorem setIfInBounds_fin (cells : Vector α N) (k : Fin N) (value : α) :
    cells.setIfInBounds k value = cells.set k value k.isLt := by
  apply Vector.ext
  intro i below
  rw [Vector.getElem_setIfInBounds below, Vector.getElem_set k.isLt below]

theorem get_set (cells : Vector α N) (j k : Fin N) (value : α) :
    (cells.set j value j.isLt).get k = if j = k then value else cells.get k :=
  (Vector.getElem_set j.isLt k.isLt).trans (if_congr Fin.ext_iff.symm rfl rfl)

@[simp] theorem get_set_self (cells : Vector α N) (k : Fin N) (value : α) :
    (cells.set k value k.isLt).get k = value :=
  Vector.getElem_set_self k.isLt

@[simp] theorem get_replicate (v : α) (k : Fin N) : (Vector.replicate N v).get k = v :=
  Vector.getElem_replicate k.isLt

/-- The array in which a loop has reached cell `n`, changing each cell `k` by `f k`. -/
def changeBelow (cells : Vector α N) (n : Nat) (f : Fin N → α → α) : Vector α N :=
  Vector.ofFn fun k => if k.val < n then f k (cells.get k) else cells.get k

theorem get_changeBelow (cells : Vector α N) (n : Nat) (f : Fin N → α → α) (k : Fin N) :
    (changeBelow cells n f).get k = if k.val < n then f k (cells.get k) else cells.get k :=
  Vector.getElem_ofFn k.isLt

theorem changeBelow_zero (cells : Vector α N) (f : Fin N → α → α) :
    changeBelow cells 0 f = cells :=
  ext_get fun k => (get_changeBelow cells 0 f k).trans (if_neg (Nat.not_lt_zero k))

/-- The loop writes its next cell. -/
theorem changeBelow_succ (cells : Vector α N) (f : Fin N → α → α) (n : Fin N) :
    (changeBelow cells n f).setIfInBounds n (f n (cells.get n)) = changeBelow cells (n + 1) f := by
  apply ext_get
  intro k
  rw [setIfInBounds_fin, get_set, get_changeBelow, get_changeBelow]
  by_cases same : n = k
  · subst same
    rw [if_pos rfl, if_pos (Nat.lt_succ_self _)]
  · have next : k.val < n.val + 1 ↔ k.val < n.val := by omega
    rw [if_neg same, if_congr next rfl rfl]

/-- The loop leaves the next cell alone. -/
theorem changeBelow_succ_of_eq (cells : Vector α N) (f : Fin N → α → α) (n : Fin N)
    (same : f n (cells.get n) = cells.get n) :
    changeBelow cells n f = changeBelow cells (n + 1) f := by
  rw [← changeBelow_succ, same]
  apply ext_get
  intro k
  rw [setIfInBounds_fin, get_set]
  by_cases equal : n = k
  · subst equal
    rw [if_pos rfl, get_changeBelow, if_neg (Nat.lt_irrefl _)]
  · rw [if_neg equal]

/-- A loop that writes one value reaches every cell that does not hold it yet. -/
theorem changeBelow_const_eq_replicate (cells : Vector α N) (n : Nat) (v : α) :
    changeBelow cells n (fun _ _ => v) = .replicate N v ↔
      ∀ k : Fin N, n ≤ k → cells.get k = v := by
  constructor
  · intro filled k beyond
    have here : (changeBelow cells n fun _ _ => v).get k = v := by rw [filled, get_replicate]
    rwa [get_changeBelow, if_neg (Nat.not_lt.mpr beyond)] at here
  · intro rest
    apply ext_get
    intro k
    rw [get_changeBelow, get_replicate]
    split
    · rfl
    · exact rest k (by omega)

/-- Write one value to the cells of a list, one after the other. -/
def setEach (ks : List (Fin N)) (v : α) (cells : Vector α N) : Vector α N :=
  ks.foldl (fun cells (k : Fin N) => cells.set k v k.isLt) cells

theorem get_setEach {ks : List (Fin N)} (v : α) (cells : Vector α N) {k : Fin N}
    (written : k ∈ ks ∨ cells.get k = v) : (setEach ks v cells).get k = v := by
  induction ks generalizing cells with
  | nil => exact written.elim nofun id
  | cons j ks ih =>
    apply ih (cells.set j v j.isLt)
    rw [get_set]
    rcases written with member | already
    · rcases List.mem_cons.mp member with rfl | rest
      · exact .inr (if_pos rfl)
      · exact .inl rest
    · exact .inr (by rw [already, ite_self])

/-- Writing to every cell, in any order and any number of times. -/
theorem setEach_of_forall_mem {ks : List (Fin N)} (every : ∀ k, k ∈ ks) (v : α)
    (cells : Vector α N) : setEach ks v cells = .replicate N v :=
  ext_get fun k => (get_setEach v cells (.inl (every k))).trans (get_replicate v k).symm

theorem get_swap (cells : Vector α N) (i j k : Fin N) :
    (cells.swap i j i.isLt j.isLt).get k = cells.get (Equiv.swap i j k) := by
  apply (Vector.getElem_swap i.isLt j.isLt k.isLt).trans
  rw [Equiv.swap_apply_def, if_congr Fin.ext_iff.symm rfl rfl, if_congr Fin.ext_iff.symm rfl rfl]
  split
  · rfl
  · split <;> rfl

/-- Two cells exchanged through a temporary. -/
theorem exchange_eq_swap (cells : Vector α N) (i j : Fin N) :
    (cells.setIfInBounds i (cells.get j)).setIfInBounds j (cells.get i) =
      cells.swap i j i.isLt j.isLt := by
  apply ext_get
  intro k
  rw [setIfInBounds_fin, setIfInBounds_fin, get_set, get_set, get_swap, Equiv.swap_apply_def]
  by_cases first : k = i
  · by_cases second : j = k
    · rw [if_pos second, if_pos first, second, first]
    · rw [if_neg second, if_pos first.symm, if_pos first]
  · by_cases second : j = k
    · rw [if_pos second, if_neg first, if_pos second.symm]
    · rw [if_neg second, if_neg (Ne.symm first), if_neg first, if_neg (Ne.symm second)]

/-- An array read through a permutation of its indices holds the same cells. -/
theorem toList_perm {cells cells' : Vector α N}
    (σ : Equiv.Perm (Fin N)) (same : ∀ k, cells'.get k = cells.get (σ k)) :
    cells'.toList.Perm cells.toList := by
  have listed (cells : Vector α N) : cells.toList = List.ofFn cells.get := by
    refine List.ext_getElem (by simp) fun i _ _ => ?_
    rw [List.getElem_ofFn, Vector.getElem_toList]
    rfl
  rw [listed, listed, show cells'.get = cells.get ∘ σ from funext same]
  exact σ.ofFn_comp_perm cells.get

end Cells
