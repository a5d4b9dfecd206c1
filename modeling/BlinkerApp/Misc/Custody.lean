import BlinkerApp.Misc.Traced

/-!
# Things taken and given back

The trace of a program that takes things from its surroundings, each under a key, and
gives them back. From what each observation transfers follow the keys held at every
place of the trace, and a rule on the observations can speak about the keys held when
they are made.
-/

/-- What an observation takes or gives back. -/
inductive Transfer (κ : Type) where
  | take (key : κ)
  | giveBack (key : κ)

namespace Custody

variable {σ ε ι κ : Type} [DecidableEq κ] (transfer : ε → Option (Transfer κ))
variable (rule : List κ → ε → Prop)

/-- The keys held after a transfer, if there is one. -/
def hold (held : List κ) : Option (Transfer κ) → List κ
  | none => held
  | some (.take key) => key :: held
  | some (.giveBack key) => held.erase key

/-- The keys held after a trace. -/
def heldAfter (held : List κ) (trace : List ε) : List κ :=
  trace.foldl (fun held e => hold held (transfer e)) held

@[simp] theorem heldAfter_nil (held : List κ) : heldAfter transfer held [] = held := rfl

@[simp] theorem heldAfter_cons (held : List κ) (e : ε) (trace : List ε) :
    heldAfter transfer held (e :: trace) = heldAfter transfer (hold held (transfer e)) trace := rfl

theorem heldAfter_append (held : List κ) (t₁ t₂ : List ε) :
    heldAfter transfer held (t₁ ++ t₂) = heldAfter transfer (heldAfter transfer held t₁) t₂ :=
  List.foldl_append

/-- Every observation obeys the rule on the keys held when it is made. -/
def Obeys (held : List κ) (trace : List ε) : Prop :=
  ∀ before e after, trace = before ++ e :: after → rule (heldAfter transfer held before) e

theorem obeys_nil (held : List κ) : Obeys transfer rule held [] := by
  intro before e after place
  simp at place

theorem obeys_cons (held : List κ) (e : ε) (trace : List ε) :
    Obeys transfer rule held (e :: trace) ↔
      rule held e ∧ Obeys transfer rule (hold held (transfer e)) trace := by
  constructor
  · intro obeys
    refine ⟨obeys [] e trace rfl, ?_⟩
    intro before e' after place
    exact obeys (e :: before) e' after (by rw [place, List.cons_append])
  · rintro ⟨first, rest⟩ before e' after place
    cases before with
    | nil =>
      obtain ⟨rfl, -⟩ := List.cons_eq_cons.mp place
      exact first
    | cons x before =>
      obtain ⟨rfl, tail⟩ := List.cons_eq_cons.mp place
      exact rest before e' after tail

theorem obeys_append (held : List κ) (t₁ t₂ : List ε) :
    Obeys transfer rule held (t₁ ++ t₂) ↔
      Obeys transfer rule held t₁ ∧ Obeys transfer rule (heldAfter transfer held t₁) t₂ := by
  induction t₁ generalizing held with
  | nil => exact (and_iff_right (obeys_nil transfer rule held)).symm
  | cons e t₁ ih => rw [List.cons_append, obeys_cons, obeys_cons, ih, heldAfter_cons, and_assoc]

/-! ## Settled traces -/

/-- The trace obeys the rule and gives back what it took, and no more. -/
structure Settled (held : List κ) (trace : List ε) : Prop where
  balanced : heldAfter transfer held trace = held
  obeys : Obeys transfer rule held trace

theorem settled_nil (held : List κ) : Settled transfer rule held [] :=
  ⟨rfl, obeys_nil transfer rule held⟩

variable {transfer rule}

theorem Settled.append {held : List κ} {t₁ t₂ : List ε} (first : Settled transfer rule held t₁)
    (second : Settled transfer rule held t₂) : Settled transfer rule held (t₁ ++ t₂) := by
  constructor
  · rw [heldAfter_append, first.balanced, second.balanced]
  · rw [obeys_append, first.balanced]
    exact ⟨first.obeys, second.obeys⟩

/-- A trace without transfers is settled when each of its observations obeys the rule. -/
theorem settled_of_still {held : List κ} {trace : List ε}
    (still : ∀ e ∈ trace, transfer e = none ∧ rule held e) :
    Settled transfer rule held trace := by
  induction trace with
  | nil => exact settled_nil transfer rule held
  | cons e trace ih =>
    have rest := ih fun e' member => still e' (List.mem_cons_of_mem e member)
    obtain ⟨none, allowed⟩ := still e List.mem_cons_self
    have same : hold held (transfer e) = held := by rw [none, hold]
    constructor
    · rw [heldAfter_cons, same, rest.balanced]
    · rw [obeys_cons, same]
      exact ⟨allowed, rest.obeys⟩

/-- What is taken, used and given back is settled when its use is settled with it held. -/
theorem settled_bracket {held : List κ} {key : κ} {get put : ε} {use : List ε}
    (gets : transfer get = some (.take key)) (puts : transfer put = some (.giveBack key))
    (mayGet : rule held get) (mayPut : rule (key :: held) put)
    (used : Settled transfer rule (key :: held) use) :
    Settled transfer rule held (get :: (use ++ [put])) := by
  have taken : hold held (transfer get) = key :: held := by rw [gets, hold]
  have returned : hold (key :: held) (transfer put) = held := by
    rw [puts, hold, List.erase_cons_head]
  constructor
  · rw [heldAfter_cons, taken, heldAfter_append, used.balanced, heldAfter_cons, returned,
      heldAfter_nil]
  · rw [obeys_cons, taken, obeys_append, used.balanced, obeys_cons]
    exact ⟨mayGet, used.obeys, mayPut, obeys_nil transfer rule _⟩

/-- A run whose steps are settled is settled. -/
theorem settled_each {f : ι → Traced σ ε Unit} {held : List κ} {is : List ι}
    (step : ∀ i ∈ is, ∀ s, Settled transfer rule held (f i s).trace) (s : σ) :
    Settled transfer rule held (Traced.each f is s).trace := by
  induction is generalizing s with
  | nil => exact settled_nil transfer rule held
  | cons i is ih =>
    rw [Traced.each_cons, Outcome.prepend_trace]
    exact (step i List.mem_cons_self s).append
      (ih (fun j member => step j (List.mem_cons_of_mem i member)) (f i s).state)

end Custody
