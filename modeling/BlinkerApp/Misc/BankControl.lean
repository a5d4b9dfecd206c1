import BlinkerApp.Misc.CellBank

/-!
# Banks can be steered

Ticks and operations on single indices lead from any bank to any other, as long as the
successor reaches every counter value from zero: switch everything off, count the counters up
one at a time, and set the switches.
-/

namespace Bank

variable {ι M : Type} [DecidableEq ι] [Zero M] [One M] [Add M]

/-- The operation is a tick or names a single index. -/
inductive Basic : BankOp ι → Prop
  | tick : Basic .tick
  | reset (k : ι) : Basic (.reset {k})
  | switch (k : ι) (on : Bool) : Basic (.switch {k} on)

/-- A sequence of basic operations leads from one bank to the other. -/
def Leads (s t : Bank ι M) : Prop := ∃ ops, (∀ op ∈ ops, Basic op) ∧ run s ops = t

theorem Leads.refl (s : Bank ι M) : Leads s s := ⟨[], by simp, rfl⟩

theorem Leads.trans {s t u : Bank ι M} (first : Leads s t) (second : Leads t u) : Leads s u := by
  obtain ⟨ops, basic, rfl⟩ := first
  obtain ⟨ops', basic', rfl⟩ := second
  refine ⟨ops ++ ops', ?_, List.foldl_append⟩
  intro op member
  rcases List.mem_append.mp member with here | there
  · exact basic op here
  · exact basic' op there

theorem Leads.step {s : Bank ι M} {op : BankOp ι} (basic : Basic op) : Leads s (s.step op) :=
  ⟨[op], by simpa using basic, rfl⟩

theorem Leads.congr {s t u : Bank ι M} (leads : Leads s t) (same : t = u) : Leads s u :=
  same ▸ leads

/-- One switch after the other, the switches of a list are set. -/
theorem leads_switches (ks : List ι) (on : ι → Bool) (s : Bank ι M) :
    Leads s { s with enabled := fun k => if k ∈ ks then on k else s.enabled k } := by
  induction ks generalizing s with
  | nil =>
    simp only [List.not_mem_nil, if_false]
    exact .refl s
  | cons j ks ih =>
    refine ((Leads.step (.switch j (on j))).trans (ih _)).congr ?_
    refine Bank.ext rfl (funext fun k => ?_)
    by_cases same : k = j
    · subst same
      by_cases later : k ∈ ks <;> simp [Bank.step, later]
    · simp [Bank.step, same]

/-- A counter is counted up from zero while every other switch is off. -/
theorem leads_count (k : ι) (n : ℕ) {s : Bank ι M} (off : s.enabled = fun _ => false) :
    Leads s { s with count := Function.update s.count k ((· + 1)^[n] 0) } := by
  -- the bank after the reset, the switch and `n` ticks
  let counting (n : ℕ) : Bank ι M :=
    { count := Function.update s.count k ((· + 1)^[n] 0), enabled := fun j => j = k }
  have start : Leads s (counting 0) := by
    refine ((Leads.step (.reset k)).trans (Leads.step (.switch k true))).congr ?_
    refine Bank.ext (funext fun j => ?_) (funext fun j => ?_)
    · by_cases same : j = k
      · subst same
        simp [counting, Bank.step]
      · simp [counting, Bank.step, same]
    · simp [counting, Bank.step, off]
  have tick (n : ℕ) : (counting n).step .tick = counting (n + 1) := by
    refine Bank.ext (funext fun j => ?_) rfl
    by_cases same : j = k
    · subst same
      simp [counting, Bank.step, Function.iterate_succ_apply']
    · simp [counting, Bank.step, same]
  have counted : Leads s (counting n) := by
    induction n with
    | zero => exact start
    | succ n ih => exact tick n ▸ ih.trans (.step .tick)
  refine (counted.trans (Leads.step (.switch k false))).congr ?_
  refine Bank.ext rfl (funext fun j => ?_)
  simp [counting, Bank.step, off]

/-- The counters of a list are counted up, one after the other. -/
theorem leads_counts (every : ∀ m : M, ∃ n : ℕ, (· + 1)^[n] 0 = m) (count : ι → M) (ks : List ι)
    {s : Bank ι M} (off : s.enabled = fun _ => false) :
    Leads s { s with count := fun k => if k ∈ ks then count k else s.count k } := by
  induction ks generalizing s with
  | nil =>
    simp only [List.not_mem_nil, if_false]
    exact .refl s
  | cons j ks ih =>
    obtain ⟨n, reaches⟩ := every (count j)
    refine ((leads_count j n off).trans (ih off)).congr ?_
    refine Bank.ext (funext fun k => ?_) rfl
    by_cases same : k = j
    · subst same
      by_cases later : k ∈ ks <;> simp [later, reaches]
    · simp [same]

/-- From every bank to every other. -/
theorem leads_any (every : ∀ m : M, ∃ n : ℕ, (· + 1)^[n] 0 = m) {ks : List ι}
    (all : ∀ k, k ∈ ks) (s t : Bank ι M) : Leads s t := by
  have off := leads_switches ks (fun _ => false) s
  simp only [all, if_true] at off
  have counted := leads_counts every t.count ks (s := ⟨s.count, fun _ => false⟩) rfl
  simp only [all, if_true] at counted
  have on := leads_switches ks t.enabled ⟨t.count, fun _ => false⟩
  simp only [all, if_true] at on
  exact (off.trans counted).trans on

end Bank
