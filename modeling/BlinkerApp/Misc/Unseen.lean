import BlinkerApp.Misc.Traced

/-!
# Inputs that do not show

Inputs of a class are unseen when they leave a view of the state alone and show nothing, and
what the other inputs do to the view and show depends on the view only. A run with them and the
run without them cannot be told apart.
-/

namespace Traced

variable {σ ε ι ω β : Type}

/-- As far as the view and `g` go, the inputs of the class `purged` do nothing. -/
structure Unseen (f : ι → Traced σ ε Unit) (view : σ → β) (g : ε → Option ω)
    (purged : ι → Bool) : Prop where
  moves : ∀ i s s', view s = view s' → view (f i s).state = view (f i s').state
  shows : ∀ i s s', view s = view s' →
    (f i s).trace.filterMap g = (f i s').trace.filterMap g
  still : ∀ i, purged i = true → ∀ s, view (f i s).state = view s
  silent : ∀ i, purged i = true → ∀ s, (f i s).trace.filterMap g = []

/-- Unseen inputs can be left out of a run. -/
theorem Unseen.run {f : ι → Traced σ ε Unit} {view : σ → β} {g : ε → Option ω}
    {purged : ι → Bool} (unseen : Unseen f view g purged) (is : List ι) {s s' : σ}
    (same : view s = view s') :
    view (each f is s).state = view (each f (is.filter (!purged ·)) s').state ∧
      (each f is s).trace.filterMap g = (each f (is.filter (!purged ·)) s').trace.filterMap g := by
  induction is generalizing s s' with
  | nil => exact ⟨same, rfl⟩
  | cons i is ih =>
    rw [each_cons, Outcome.prepend_state, Outcome.prepend_trace, List.filterMap_append,
      List.filter_cons]
    cases out : purged i with
    | true =>
      rw [unseen.silent i out s]
      exact ih ((unseen.still i out s).trans same)
    | false =>
      obtain ⟨later, seen⟩ := ih (unseen.moves i s s' same)
      refine ⟨later, ?_⟩
      show _ = (each f (i :: is.filter (!purged ·)) s').trace.filterMap g
      rw [each_cons, Outcome.prepend_trace, List.filterMap_append, unseen.shows i s s' same, seen]

end Traced
