import BlinkerApp.Misc.Unseen
import BlinkerApp.Proofs.CountingForward
import BlinkerApp.Proofs.Dependence

/-!
# What the ticks can influence

The ticks come from the scheduler and meet the other messages at arbitrary moments. All that
their number and their timing can change are the counts, each of which is ahead of the run
without the ticks by at most the number of ticks, and the counts that are reported.
-/

namespace BlinkerApp

open Traced Cells

variable {N : Nat} (p : Platform)

/-- The data without the counts. -/
def Data.uncounted {p : Platform} (d : Data p N) : Data p N :=
  { d with blinkerCounts := .replicate N 0 }

/-- An event without the counts it reports. -/
def Event.uncounted (event : Event) : Event :=
  if event.spec = "BLINKER_APP: Blinker #%d = %d counts" then
    { event with args := event.args.take 1 }
  else if event.spec = "BLINKER_APP: Blinker #%d and #%d swapped values (%d <-> %d)" then
    { event with args := event.args.take 2 }
  else event

def Obs.uncounted {p : Platform} : Obs p N → Obs p N
  | .evsSendEvent event => .evsSendEvent event.uncounted
  | e => e

/-- A call to the cFE, without the counts it reports. -/
def Obs.uncounted? {p : Platform} (e : Obs p N) : Option (Obs p N) := e.shown?.map Obs.uncounted

/-! ## One message -/

/-- The counts aside, a message treats states alike that agree but for the counts. -/
theorem handle_uncounted (i : Input p) (d : Data p N) :
    (handle N p i d).state.uncounted = (handle N p i d.uncounted).state.uncounted := by
  apply Data.ext_aside
  · exact fun _ => rfl
  · intro k
    show (handle N p i d).state.blinkerStatuses.get k =
      (handle N p i d.uncounted).state.blinkerStatuses.get k
    rw [handle_status, handle_status]
    rfl
  · show (handle N p i d).state.aside = (handle N p i d.uncounted).state.aside
    rw [aside_handle, aside_handle]
    rfl

theorem handle_tick_uncounted {i : Input p} (tick : isTick p i = true) (d : Data p N) :
    (handle N p i d).state.uncounted = d.uncounted := by
  rw [handle_of_accepted p (parse_tick p tick)]
  rfl

/-- What is seen of a message, the counts it reports apart. -/
theorem handle_shows_uncounted (i : Input p) (d : Data p N) :
    (handle N p i d).trace.filterMap Obs.uncounted? =
      (handle N p i d.uncounted).trace.filterMap Obs.uncounted? := by
  cases found : parse p N i.buffer with
  | none => rw [handle_of_rejected p found, handle_of_rejected p found]
  | some req =>
    rw [handle_of_accepted p found, handle_of_accepted p found]
    cases req <;> rfl

theorem handle_tick_shows {i : Input p} (tick : isTick p i = true) (d : Data p N) :
    (handle N p i d).trace.filterMap Obs.uncounted? = [] := by
  rw [handle_of_accepted p (parse_tick p tick)]
  show (requestTrace p i.replies i.buffer d .blink).filterMap
    (fun e => e.shown?.map Obs.uncounted) = []
  rw [← List.map_filterMap, shown_tick]
  rfl

/-! ## Runs -/

/-- The counts apart, the ticks do nothing. -/
theorem ticks_unseen :
    Unseen (handle N p) Data.uncounted Obs.uncounted? (isTick p) where
  moves i d d' same := by rw [handle_uncounted, same, ← handle_uncounted]
  shows i d d' same := by rw [handle_shows_uncounted, same, ← handle_shows_uncounted]
  still _ tick d := handle_tick_uncounted p tick d
  silent _ tick d := handle_tick_shows p tick d

theorem isTick_bankOp (i : Input p) : Bank.isTick (bankOp p N i.buffer) = isTick p i := by
  have same := countP_isTick (N := N) p [i]
  simp only [bankOps, List.map_cons, List.map_nil, List.countP_singleton] at same
  cases tick : isTick p i <;> simp_all

theorem UInt16.iterate_succ (n : Nat) (c : UInt16) : (· + 1)^[n] c = c + UInt16.ofNat n := by
  induction n with
  | zero => simp
  | succ n ih => rw [Function.iterate_succ_apply', ih, UInt16.ofNat_add, UInt16.add_assoc]; rfl

/-- A run and the same messages without the ticks leave the same data and make the same calls,
the counts apart, and each count is ahead by at most the number of ticks. -/
theorem ticks_only_count (inputs : List (Input p)) (d : Data p N) :
    let o := runTaskPipe p inputs d
    let quiet := runTaskPipe p (inputs.filter (!isTick p ·)) d
    o.state.uncounted = quiet.state.uncounted ∧
      o.trace.filterMap Obs.uncounted? = quiet.trace.filterMap Obs.uncounted? ∧
      ∀ k : Fin N, ∃ n ≤ inputs.countP (isTick p),
        o.state.blinkerCounts.get k = quiet.state.blinkerCounts.get k + UInt16.ofNat n := by
  intro o quiet
  obtain ⟨state, calls⟩ := (ticks_unseen p).run inputs (rfl : d.uncounted = d.uncounted)
  refine ⟨state, calls, fun k => ?_⟩
  have ticks : (inputs.map fun i => bankOp p N i.buffer).filter (!Bank.isTick ·) =
      (inputs.filter (!isTick p ·)).map fun i => bankOp p N i.buffer := by
    rw [List.filter_map]
    simp only [Function.comp_def, isTick_bankOp]
  obtain ⟨n, few, ahead⟩ := Bank.run_count_without_ticks d.bank (bankOps p N inputs) k
  refine ⟨n, countP_isTick (N := N) p inputs ▸ few, ?_⟩
  rw [← UInt16.iterate_succ]
  show o.state.bank.count k = (· + 1)^[n] (quiet.state.bank.count k)
  rw [runTaskPipe_bank, runTaskPipe_bank, ← ticks]
  exact ahead

end BlinkerApp
