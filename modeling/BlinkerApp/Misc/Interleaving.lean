import BlinkerApp.Misc.Traced

/-!
# Interleavings

Several senders feed one program, and their inputs arrive in one order or another. Two inputs
are independent when their order never shows, neither in the state after both nor in what is
seen of either. Two orders of the same inputs that agree on every two dependent ones lead to
the same state, and every observer of inputs whose own order is the same sees the same of them.
-/

namespace Traced

variable {σ ε ι ω : Type} (f : ι → Traced σ ε Unit) (g : ε → Option ω)

/-- What is seen of one input. -/
def answer (i : ι) (s : σ) : List ω := (f i s).trace.filterMap g

/-- What is seen of each input of a class, in a run. -/
def answers (A : ι → Bool) : List ι → σ → List (List ω)
  | [], _ => []
  | i :: is, s => (if A i then [answer f g i s] else []) ++ answers A is (f i s).state

/-- The order of two inputs never shows. -/
structure Independent (i j : ι) : Prop where
  state : ∀ s, (f j (f i s).state).state = (f i (f j s).state).state
  first : ∀ s, answer f g i (f j s).state = answer f g i s
  second : ∀ s, answer f g j (f i s).state = answer f g j s

theorem Independent.symm {f : ι → Traced σ ε Unit} {g : ε → Option ω} {i j : ι}
    (independent : Independent f g i j) : Independent f g j i :=
  ⟨fun s => (independent.state s).symm, independent.second, independent.first⟩

open Classical in
/-- Every input occurs as often in both lists, and two dependent ones in the same order. -/
def SameOrder (dep : ι → ι → Prop) (is js : List ι) : Prop :=
  ∀ a b, a = b ∨ dep a b →
    is.filter (fun i => i = a ∨ i = b) = js.filter fun i => i = a ∨ i = b

/-! ## Orders -/

theorem eq_nil_of_cons_eq {i : ι} {is before after : List ι} (same : i :: is = before ++ i :: after)
    (absent : i ∉ before) : before = [] := by
  cases before with
  | nil => rfl
  | cons j before =>
    obtain rfl : i = j := (List.cons_eq_cons.mp same).1
    exact absurd List.mem_cons_self absent

section Order

variable {dep : ι → ι → Prop} {is js ks : List ι}

theorem SameOrder.trans (first : SameOrder dep is js) (second : SameOrder dep js ks) :
    SameOrder dep is ks :=
  fun a b related => (first a b related).trans (second a b related)

/-- Two neighbours that do not depend on each other change places. -/
theorem sameOrder_swap (symm : ∀ i j, dep i j → dep j i) {i j : ι} (apart : ¬ dep i j)
    (before after : List ι) :
    SameOrder dep (before ++ i :: j :: after) (before ++ j :: i :: after) := by
  classical
  intro a b related
  by_cases same : i = j
  · rw [same]
  have one : ¬ ((i = a ∨ i = b) ∧ (j = a ∨ j = b)) := by
    rintro ⟨rfl | rfl, rfl | rfl⟩
    · exact same rfl
    · exact related.elim same apart
    · exact related.elim (Ne.symm same) fun ba => apart (symm _ _ ba)
    · exact same rfl
  simp only [List.filter_append, List.filter_cons]
  congr 1
  by_cases left : i = a ∨ i = b
  · have right : ¬ (j = a ∨ j = b) := fun right => one ⟨left, right⟩
    simp [left, right]
  · simp [left]

theorem SameOrder.mem (same : SameOrder dep is js) {i : ι} (member : i ∈ is) : i ∈ js := by
  classical
  have kept : i ∈ is.filter fun k => decide (k = i ∨ k = i) := by simpa using member
  rw [same i i (.inl rfl)] at kept
  exact List.mem_of_mem_filter kept

/-- In the other order, the first input of the one comes after inputs that are independent of
it. -/
theorem SameOrder.cons_split {i : ι} (same : SameOrder dep (i :: is) js) :
    ∃ before after, js = before ++ i :: after ∧ i ∉ before ∧ (∀ j ∈ before, ¬ dep i j) ∧
      SameOrder dep is (before ++ after) := by
  classical
  obtain ⟨before, after, rfl, absent⟩ :=
    List.eq_append_cons_of_mem (same.mem List.mem_cons_self)
  -- the two orders, as seen by a pair that contains `i`
  have led {a b : ι} (related : a = b ∨ dep a b) (isOne : i = a ∨ i = b) :
      i :: is.filter (fun k => decide (k = a ∨ k = b)) =
        before.filter (fun k => decide (k = a ∨ k = b)) ++
          i :: after.filter (fun k => decide (k = a ∨ k = b)) := by
    have seen := same a b related
    rwa [List.filter_append, List.filter_cons_of_pos (by simpa using isOne),
      List.filter_cons_of_pos (by simpa using isOne)] at seen
  have none {a b : ι} (related : a = b ∨ dep a b) (isOne : i = a ∨ i = b) :
      before.filter (fun k => decide (k = a ∨ k = b)) = [] :=
    eq_nil_of_cons_eq (led related isOne) fun kept => absent (List.mem_of_mem_filter kept)
  refine ⟨before, after, rfl, absent, fun j member depends => ?_, fun a b related => ?_⟩
  · have kept : j ∈ before.filter (fun k => decide (k = i ∨ k = j)) := by simpa using member
    rw [none (.inr depends) (.inl rfl)] at kept
    cases kept
  · by_cases isOne : i = a ∨ i = b
    · have seen := led related isOne
      rw [none related isOne] at seen
      rw [List.filter_append, none related isOne]
      exact (List.cons_eq_cons.mp seen).2
    · have seen := same a b related
      rwa [List.filter_append, List.filter_cons_of_neg (by simpa using isOne),
        List.filter_cons_of_neg (by simpa using isOne), ← List.filter_append] at seen

end Order

/-! ## Moving an input to the front -/

section Front

variable {f g} {i : ι} {before : List ι} (apart : ∀ j ∈ before, Independent f g i j)

include apart

theorem each_front (s : σ) :
    (f i (each f before s).state).state = (each f before (f i s).state).state := by
  induction before generalizing s with
  | nil => rfl
  | cons j before ih =>
    have later := ih (fun k member => apart k (List.mem_cons_of_mem j member)) (f j s).state
    show (f i (each f before (f j s).state).state).state = _
    rw [later, ← (apart j List.mem_cons_self).state s]
    rfl

theorem answer_front (s : σ) : answer f g i (each f before s).state = answer f g i s := by
  induction before generalizing s with
  | nil => rfl
  | cons j before ih =>
    have later := ih (fun k member => apart k (List.mem_cons_of_mem j member)) (f j s).state
    exact later.trans ((apart j List.mem_cons_self).first s)

theorem answers_front (A : ι → Bool) (s : σ) :
    answers f g A before (f i s).state = answers f g A before s := by
  induction before generalizing s with
  | nil => rfl
  | cons j before ih =>
    have later := ih (fun k member => apart k (List.mem_cons_of_mem j member)) (f j s).state
    have here := apart j List.mem_cons_self
    simp only [answers, here.second s, here.state s, later]

end Front

theorem answers_append (A : ι → Bool) (is js : List ι) (s : σ) :
    answers f g A (is ++ js) s = answers f g A is s ++ answers f g A js (each f is s).state := by
  induction is generalizing s with
  | nil => rfl
  | cons i is ih =>
    simp only [List.cons_append, answers, ih, each_cons, Outcome.prepend_state, List.append_assoc]

/-- Nothing is seen of inputs that do not occur. -/
theorem answers_of_filter_eq_nil {A : ι → Bool} {is : List ι} (none : is.filter A = []) (s : σ) :
    answers f g A is s = [] := by
  induction is generalizing s with
  | nil => rfl
  | cons i is ih =>
    obtain ⟨other, later⟩ := List.forall_mem_cons.mp (List.filter_eq_nil_iff.mp none)
    rw [answers, if_neg other, ih (List.filter_eq_nil_iff.mpr later)]
    rfl

/-! ## Two interleavings -/

/-- Orders that agree on all dependent inputs lead to the same state, and whoever observes
inputs that come in the same order sees the same of them. -/
theorem interleavings {f : ι → Traced σ ε Unit} {g : ε → Option ω} {dep : ι → ι → Prop}
    (independent : ∀ i j, ¬ dep i j → Independent f g i j) {is js : List ι}
    (same : SameOrder dep is js) (s : σ) :
    (each f is s).state = (each f js s).state ∧ ∀ A : ι → Bool, is.filter A = js.filter A →
      answers f g A is s = answers f g A js s := by
  induction is generalizing js s with
  | nil =>
    cases js with
    | nil => exact ⟨rfl, fun _ _ => rfl⟩
    | cons j js =>
      have back : SameOrder dep (j :: js) [] := fun a b related => (same a b related).symm
      cases back.mem List.mem_cons_self
  | cons i is ih =>
    obtain ⟨before, after, rfl, absent, calm, ordered⟩ := same.cons_split
    have apart (j : ι) (member : j ∈ before) : Independent f g i j :=
      independent i j (calm j member)
    obtain ⟨state, seen⟩ := ih ordered (f i s).state
    refine ⟨?_, fun A sameClass => ?_⟩
    · rw [each_append] at state ⊢
      show _ = (each f after (f i (each f before s).state).state).state
      rw [each_front apart]
      exact state
    · rw [answers_append, answers, answers, answer_front apart, each_front apart,
        ← answers_front apart]
      by_cases isOne : A i = true
      · rw [List.filter_cons_of_pos isOne, List.filter_append, List.filter_cons_of_pos isOne]
          at sameClass
        have none := eq_nil_of_cons_eq sameClass fun kept => absent (List.mem_of_mem_filter kept)
        rw [none] at sameClass
        have rest : is.filter A = (before ++ after).filter A := by
          rw [List.filter_append, none]
          exact (List.cons_eq_cons.mp sameClass).2
        have later := seen A rest
        rw [answers_append, answers_of_filter_eq_nil f g none, List.nil_append] at later
        rw [answers_of_filter_eq_nil f g none, later, List.nil_append]
      · rw [List.filter_cons_of_neg isOne, List.filter_append, List.filter_cons_of_neg isOne,
          ← List.filter_append] at sameClass
        rw [if_neg isOne, seen A sameClass, answers_append]
        rfl

end Traced
