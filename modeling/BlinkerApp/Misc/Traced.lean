import Mathlib.Data.List.Infix

/-!
# Programs that change a state and leave a trace

`Traced σ ε α` is a deterministic program over a state `σ` that returns a value
and records the observations `ε` it makes on the way. A call is described by its
own trace only, so that what a procedure does is stated without naming what was
recorded before it. `each` runs one procedure over a list of inputs; it is both
the `for` loop of a procedure body and the run of a reactive program over the
inputs it receives. The rules below carry facts about one step to whole runs.
-/

/-- What a program leaves behind: its value, the state after it, and its trace. -/
structure Outcome (σ ε α : Type) where
  value : α
  state : σ
  trace : List ε

/-- A program over the state `σ` with observations in `ε`. -/
def Traced (σ ε α : Type) := σ → Outcome σ ε α

namespace Outcome

variable {σ ε α : Type}

/-- The outcome of a program that had already recorded `t`. -/
def prepend (t : List ε) (o : Outcome σ ε α) : Outcome σ ε α :=
  ⟨o.value, o.state, t ++ o.trace⟩

@[simp] theorem prepend_mk (t t' : List ε) (a : α) (s : σ) :
    prepend t (⟨a, s, t'⟩ : Outcome σ ε α) = ⟨a, s, t ++ t'⟩ := rfl

@[simp] theorem prepend_nil (o : Outcome σ ε α) : prepend [] o = o := rfl

@[simp] theorem prepend_value (t : List ε) (o : Outcome σ ε α) :
    (prepend t o).value = o.value := rfl

@[simp] theorem prepend_state (t : List ε) (o : Outcome σ ε α) :
    (prepend t o).state = o.state := rfl

@[simp] theorem prepend_trace (t : List ε) (o : Outcome σ ε α) :
    (prepend t o).trace = t ++ o.trace := rfl

end Outcome

namespace Traced

variable {σ ε α β ι κ ω : Type}

instance : Monad (Traced σ ε) where
  pure a := fun s => ⟨a, s, []⟩
  bind x f := fun s => (f (x s).value (x s).state).prepend (x s).trace

/-- Record one observation. -/
def emit (e : ε) : Traced σ ε Unit := fun s => ⟨(), s, [e]⟩

/-- Read the state. -/
def gets (f : σ → α) : Traced σ ε α := fun s => ⟨f s, s, []⟩

/-- Write the state. -/
def modify (f : σ → σ) : Traced σ ε Unit := fun s => ⟨(), f s, []⟩

@[simp] theorem pure_apply (a : α) (s : σ) :
    (pure a : Traced σ ε α) s = ⟨a, s, []⟩ := rfl

@[simp] theorem bind_apply (x : Traced σ ε α) (f : α → Traced σ ε β) (s : σ) :
    (x >>= f) s = (f (x s).value (x s).state).prepend (x s).trace := rfl

@[simp] theorem map_apply (f : α → β) (x : Traced σ ε α) (s : σ) :
    (f <$> x) s = ⟨f (x s).value, (x s).state, (x s).trace⟩ := by
  show Outcome.prepend (x s).trace ⟨f (x s).value, (x s).state, []⟩ = _
  rw [Outcome.prepend_mk, List.append_nil]

theorem map_of_eq {f : α → β} {x : Traced σ ε α} {s : σ} {o : Outcome σ ε α} (eq : x s = o) :
    (f <$> x) s = ⟨f o.value, o.state, o.trace⟩ := by
  rw [map_apply, eq]

@[simp] theorem emit_apply (e : ε) (s : σ) : (emit e : Traced σ ε Unit) s = ⟨(), s, [e]⟩ := rfl

@[simp] theorem gets_apply (f : σ → α) (s : σ) :
    (gets f : Traced σ ε α) s = ⟨f s, s, []⟩ := rfl

@[simp] theorem modify_apply (f : σ → σ) (s : σ) :
    (modify f : Traced σ ε Unit) s = ⟨(), f s, []⟩ := rfl

@[simp] theorem ite_apply (c : Prop) [Decidable c] (x y : Traced σ ε α) (s : σ) :
    (if c then x else y) s = if c then x s else y s := by
  split <;> rfl

/-! ## Running a procedure over a list of inputs -/

/-- Run `f` on every input of the list, in order. -/
def each (f : ι → Traced σ ε Unit) : List ι → Traced σ ε Unit
  | [] => pure ()
  | i :: is => do
    f i
    each f is

@[simp] theorem each_nil (f : ι → Traced σ ε Unit) (s : σ) : each f [] s = ⟨(), s, []⟩ := rfl

@[simp] theorem each_cons (f : ι → Traced σ ε Unit) (i : ι) (is : List ι) (s : σ) :
    each f (i :: is) s = (each f is (f i s).state).prepend (f i s).trace := rfl

theorem each_append (f : ι → Traced σ ε Unit) (is js : List ι) (s : σ) :
    each f (is ++ js) s = (each f js (each f is s).state).prepend (each f is s).trace := by
  induction is generalizing s with
  | nil => rfl
  | cons i is ih => simp [ih, Outcome.prepend]

theorem each_concat_state (f : ι → Traced σ ε Unit) (is : List ι) (i : ι) (s : σ) :
    (each f (is ++ [i]) s).state = (f i (each f is s).state).state := by
  simp [each_append]

/-- A property kept by the step on every input of the list is kept by the run. -/
theorem each_invariant {f : ι → Traced σ ε Unit} {Inv : σ → Prop} {is : List ι} {s : σ}
    (step : ∀ i ∈ is, ∀ s, Inv s → Inv (f i s).state) (start : Inv s) :
    Inv (each f is s).state := by
  induction is generalizing s with
  | nil => exact start
  | cons i is ih =>
    exact ih (fun j member => step j (List.mem_cons_of_mem i member))
      (step i List.mem_cons_self s start)

/-- A loop over `0, .., n - 1` that passes through the states `states`. -/
theorem each_range (f : Nat → Traced σ ε Unit) (states : Nat → σ) (traces : Nat → List ε) {n : Nat}
    (step : ∀ i < n, f i (states i) = ⟨(), states (i + 1), traces i⟩) :
    each f (List.range n) (states 0) = ⟨(), states n, (List.range n).flatMap traces⟩ := by
  induction n with
  | zero => rfl
  | succ n ih =>
    have before := ih fun i below => step i (Nat.lt_succ_of_lt below)
    rw [List.range_succ, each_append, before, each_cons, step n (Nat.lt_succ_self n)]
    simp

/-! ## The steps of a run -/

/-- Every input of the list, with the inputs before it. -/
def positions : List ι → List (List ι × ι)
  | [] => []
  | i :: is => ([], i) :: (positions is).map fun e => (i :: e.1, e.2)

/-- A facet of a run is made of that of its steps, each in the state the steps before it leave. -/
theorem each_facet (g : ε → Option ω) (f : ι → Traced σ ε Unit) (is : List ι) (s : σ) :
    (each f is s).trace.filterMap g =
      (positions is).flatMap fun e => (f e.2 (each f e.1 s).state).trace.filterMap g := by
  induction is generalizing s with
  | nil => rfl
  | cons i is ih =>
    rw [each_cons, Outcome.prepend_trace, List.filterMap_append, ih, positions, List.flatMap_cons,
      List.flatMap_map]
    rfl

/-! ## Simulation -/

/-- States whose steps show the same and lead to such states again show the same in every run. -/
theorem each_simulation {f : ι → Traced σ ε Unit} {R : σ → σ → Prop} {g : ε → Option ω}
    (shows : ∀ i s s', R s s' → (f i s).trace.filterMap g = (f i s').trace.filterMap g)
    (keeps : ∀ i s s', R s s' → R (f i s).state (f i s').state) (is : List ι) {s s' : σ}
    (start : R s s') : (each f is s).trace.filterMap g = (each f is s').trace.filterMap g := by
  induction is generalizing s s' with
  | nil => rfl
  | cons i is ih =>
    simp only [each_cons, Outcome.prepend_trace, List.filterMap_append]
    rw [shows i s s' start, ih (keeps i s s' start)]

/-! ## Views of a run

A view of the state that each step either leaves alone or changes as a function
of the view and of a class of its input is, over a run, a function of the classes
met on the way. Two runs that meet the same classes cannot be told apart. -/

/-- The values a local machine puts out over a list of classes. -/
def localOutputs (move : β → κ → β) (out : β → κ → List ω) : β → List κ → List ω
  | _, [] => []
  | b, c :: cs => out b c ++ localOutputs move out (move b c) cs

theorem localOutputs_append (move : β → κ → β) (out : β → κ → List ω) (b : β) (cs cs' : List κ) :
    localOutputs move out b (cs ++ cs') =
      localOutputs move out b cs ++ localOutputs move out (cs.foldl move b) cs' := by
  induction cs generalizing b with
  | nil => rfl
  | cons c cs ih => simp only [List.cons_append, localOutputs, ih, List.append_assoc, List.foldl_cons]

section View

variable {f : ι → Traced σ ε Unit} {view : σ → β} {classify : ι → Option κ} {move : β → κ → β}

theorem each_view {is : List ι}
    (moves : ∀ i ∈ is, ∀ s, view (f i s).state = (classify i).elim (view s) (move (view s)))
    (s : σ) : view (each f is s).state = (is.filterMap classify).foldl move (view s) := by
  induction is generalizing s with
  | nil => rfl
  | cons i is ih =>
    have rest := ih (fun j member => moves j (List.mem_cons_of_mem i member)) (f i s).state
    simp only [each_cons, Outcome.prepend_state, rest, moves i List.mem_cons_self,
      List.filterMap_cons]
    cases classify i <;> rfl

theorem each_view_outputs {g : ε → Option ω} {out : β → κ → List ω} {is : List ι}
    (moves : ∀ i ∈ is, ∀ s, view (f i s).state = (classify i).elim (view s) (move (view s)))
    (outputs : ∀ i ∈ is, ∀ s,
      (f i s).trace.filterMap g = (classify i).elim [] (out (view s)))
    (s : σ) :
    (each f is s).trace.filterMap g = localOutputs move out (view s) (is.filterMap classify) := by
  induction is generalizing s with
  | nil => rfl
  | cons i is ih =>
    have rest := ih (fun j member => moves j (List.mem_cons_of_mem i member))
      (fun j member => outputs j (List.mem_cons_of_mem i member)) (f i s).state
    simp only [each_cons, Outcome.prepend_trace, List.filterMap_append, rest,
      moves i List.mem_cons_self, outputs i List.mem_cons_self, List.filterMap_cons]
    cases classify i <;> rfl

end View

end Traced

/-! ## Places in a trace -/

/-- What stands before the first occurrence of an entry stands before every one. -/
theorem prefix_of_append_eq {α : Type} {l₁ l₂ before after : List α} {e : α}
    (same : l₁ ++ l₂ = before ++ e :: after) (absent : e ∉ l₁) : l₁ <+: before := by
  rcases List.append_eq_append_iff.mp same with ⟨rest, rfl, -⟩ | ⟨rest, rfl, tail⟩
  · exact List.prefix_append l₁ rest
  · cases rest with
    | nil => simp
    | cons x rest =>
      obtain rfl : e = x := (List.cons_eq_cons.mp tail).1
      exact absurd (by simp) absent

/-! ## Properties of every prefix of a run -/

/-- A property of runs that a step restores exactly on good inputs holds of every
prefix of a run exactly when all its inputs are good. -/
theorem forall_prefix_iff {ι : Type} {P : List ι → Prop} {good : ι → Prop} (start : P [])
    (step : ∀ is i, P is → (P (is ++ [i]) ↔ good i)) (is : List ι) :
    (∀ js, js <+: is → P js) ↔ ∀ i ∈ is, good i := by
  constructor
  · intro every i member
    obtain ⟨before, after, rfl⟩ := List.append_of_mem member
    have shorter : P before := every before (List.prefix_append _ _)
    have longer : P (before ++ [i]) := every (before ++ [i]) ⟨after, by simp⟩
    exact (step before i shorter).mp longer
  · intro all js
    induction js using List.reverseRecOn with
    | nil => exact fun _ => start
    | append_singleton js j ih =>
      intro isPrefix
      have shorter : js <+: is := (List.prefix_append js [j]).trans isPrefix
      exact (step js j (ih shorter)).mpr (all j (isPrefix.subset (by simp)))
