import BlinkerApp.Proofs.Blinkers

/-!
# The commands for all blinkers

Their loops stop one blinker short, so they agree with the commands for single
blinkers exactly in the states where the last blinker needs no change.
-/

namespace BlinkerApp

open Traced Cells

variable {N : Nat} (p : Platform)

/-- The commands for all blinkers. -/
inductive AllCommand where
  | reset
  | enable
  | disable

namespace AllCommand

/-- The command for all blinkers. -/
def request : AllCommand → Request N
  | .reset => .resetAll
  | .enable => .enableAll
  | .disable => .disableAll

/-- The command for one blinker that does the same. -/
def specRequest (k : Fin N) : AllCommand → Request N
  | .reset => .resetSpec k
  | .enable => .enableSpec k
  | .disable => .disableSpec k

/-- Blinker `k` is as the command is to leave it. -/
def DoneAt {p : Platform} (d : Data p N) (k : Fin N) : AllCommand → Prop
  | .reset => d.blinkerCounts.get k = 0
  | .enable => d.blinkerStatuses.get k = 1
  | .disable => d.blinkerStatuses.get k = 0

/-- The state after the command for one blinker has been carried out for a list of
blinkers. -/
def setEach {p : Platform} (order : List (Fin N)) (d : Data p N) : AllCommand → Data p N
  | .reset => { d with blinkerCounts := Cells.setEach order 0 d.blinkerCounts }
  | .enable => { d with blinkerStatuses := Cells.setEach order 1 d.blinkerStatuses }
  | .disable => { d with blinkerStatuses := Cells.setEach order 0 d.blinkerStatuses }

/-- Commands for single blinkers, one for each number, in any order. -/
def OnceEach (N : Nat) (c : AllCommand) (specs : List (Input p)) : Prop :=
  ∃ order : List (Fin N), order.Perm (List.finRange N) ∧
    specs.map (fun i => parse p N i.buffer) = order.map fun k => some (c.specRequest k)

end AllCommand

/-- The last blinker. -/
def lastBlinker (positive : 0 < N) : Fin N := ⟨N - 1, by omega⟩

/-! ## Agreement -/

theorem run_specs (c : AllCommand) (order : List (Fin N)) (specs : List (Input p)) (d : Data p N)
    (parsed : specs.map (fun i => parse p N i.buffer) =
      order.map fun k => some (c.specRequest k)) :
    (runTaskPipe p specs d).state = c.setEach order d := by
  induction specs generalizing order d with
  | nil =>
    obtain rfl : order = [] := by simpa using parsed.symm
    cases c <;> rfl
  | cons i specs ih =>
    cases order with
    | nil => cases parsed
    | cons k order =>
      rw [List.map_cons, List.map_cons] at parsed
      obtain ⟨here, later⟩ := List.cons_eq_cons.mp parsed
      have rest := ih order (effect i.replies d (c.specRequest k)) later
      rw [runTaskPipe_cons, Outcome.prepend_state, taskPipe_of_accepted p _ _ d here]
      exact rest.trans (by cases c <;> rfl)

theorem loopBound_le_iff (positive : 0 < N) (k : Fin N) :
    loopBound N ≤ k ↔ k = lastBlinker positive := by
  have := k.isLt
  unfold loopBound lastBlinker
  rw [Fin.ext_iff]
  simp only
  omega

/-- A loop over all blinkers does its work exactly when the last cell needs none. -/
theorem changeBelow_loopBound_iff {α : Type} (positive : 0 < N) (cells : Vector α N) (v : α) :
    changeBelow cells (loopBound N) (fun _ _ => v) = .replicate N v ↔
      cells.get (lastBlinker positive) = v := by
  rw [changeBelow_const_eq_replicate]
  constructor
  · intro rest
    exact rest _ ((loopBound_le_iff positive _).mpr rfl)
  · intro same k beyond
    rw [(loopBound_le_iff positive k).mp beyond, same]

theorem agree_iff (positive : 0 < N) (c : AllCommand) (r : CfeReplies p) (m : SbBuffer)
    (d : Data p N) (specs : List (Input p)) (found : parse p N m = some c.request)
    (onceEach : c.OnceEach p N specs) :
    SameBlinkers (taskPipe p r m d).state (runTaskPipe p specs d).state ↔
      c.DoneAt d (lastBlinker positive) := by
  obtain ⟨order, perm, parsed⟩ := onceEach
  have every : ∀ k, k ∈ order := fun k => perm.mem_iff.mpr (List.mem_finRange k)
  rw [taskPipe_of_accepted p r m d found, run_specs p c order specs d parsed]
  unfold SameBlinkers
  cases c <;>
    simp only [AllCommand.setEach, AllCommand.request, AllCommand.DoneAt, effect,
      setEach_of_forall_mem every, changeBelow_loopBound_iff positive, and_true, true_and]

/-! ## What follows in later runs -/

/-- The requests that turn blinkers on or off. -/
def Request.turns : Request N → Option Bool
  | .enableAll | .enableSpec _ => some true
  | .disableAll | .disableSpec _ => some false
  | _ => none

/-- No message turns a blinker the given way. -/
def NeverTurns (N : Nat) (on : Bool) (inputs : List (Input p)) : Prop :=
  ∀ i ∈ inputs, (parse p N i.buffer).bind Request.turns ≠ some on

/-- What holds from the state `d` on, once the command has been carried out: all counts
are zero, or every tick counts for all blinkers until one is disabled, or no tick counts
until one is enabled. -/
def AllCommand.Settles (d : Data p N) : AllCommand → Prop
  | .reset => ∀ k : Fin N, d.blinkerCounts.get k = 0
  | .enable => ∀ later, NeverTurns p N false later →
      ∀ i : Input p, parse p N i.buffer = some .blink →
      let d' := (runTaskPipe p later d).state
      ∀ k : Fin N, (taskPipe p i.replies i.buffer d').state.blinkerCounts.get k =
        d'.blinkerCounts.get k + 1
  | .disable => ∀ later, NeverTurns p N true later →
      ∀ i : Input p, parse p N i.buffer = some .blink →
      let d' := (runTaskPipe p later d).state
      ∀ k : Fin N, (taskPipe p i.replies i.buffer d').state.blinkerCounts.get k =
        d'.blinkerCounts.get k

theorem setting_of_turns {m : SbBuffer} {k : Fin N} {on : Bool}
    (never : (parse p N m).bind Request.turns ≠ some on) :
    Bank.setting k (bankOp p N m) ≠ some on := by
  unfold bankOp
  cases found : parse p N m with
  | none =>
    intro same
    cases same
  | some req =>
    rw [found] at never
    cases req with
    | enableAll | disableAll | enableSpec | disableSpec =>
      simp only [Option.map_some, Option.getD_some, Request.bankOp, Bank.setting]
      split
      · exact never
      · intro same
        cases same
    | _ =>
      intro same
      cases same

/-- Switches that all stand one way stay so in a run that never turns one the other way. -/
theorem enabled_of_neverTurns {later : List (Input p)} {on : Bool} {d : Data p N} {k : Fin N}
    (never : NeverTurns p N (!on) later) (start : d.bank.enabled k = on) :
    (runTaskPipe p later d).state.bank.enabled k = on := by
  rw [runTaskPipe_bank]
  refine Bank.run_enabled_of_never (fun op member => ?_) start
  obtain ⟨i, inLater, rfl⟩ := List.mem_map.mp member
  exact setting_of_turns p (never i inLater)

theorem counted_eq_iff (on on' : Bool) (count : UInt16) :
    (if on then count + 1 else count) = (if on' then count + 1 else count) ↔ on = on' := by
  have other := UInt16.add_one_ne count
  cases on <;> cases on' <;> simp [other, other.symm]

/-- Every tick treats all blinkers alike, until a switch is turned the other way, exactly when all
switches stand one way. -/
theorem settles_turn_iff (on : Bool) (d : Data p N) :
    (∀ later, NeverTurns p N (!on) later → ∀ i : Input p, parse p N i.buffer = some .blink →
      let d' := (runTaskPipe p later d).state
      ∀ k : Fin N, (taskPipe p i.replies i.buffer d').state.blinkerCounts.get k =
        if on then d'.blinkerCounts.get k + 1 else d'.blinkerCounts.get k) ↔
      ∀ k, d.bank.enabled k = on := by
  constructor
  · intro settles k
    have counts := settles [] nofun ⟨default, bareMessage p (blinkCmdMid p)⟩ (parse_blink p) k
    rw [tick_count p (parse_blink p)] at counts
    exact (counted_eq_iff _ _ _).mp counts
  · intro all later never i tick d' k
    rw [tick_count p tick, enabled_of_neverTurns p never (all k)]

/-- After one of the commands all switches stand as it turns them exactly when the last
one stood so before. -/
theorem enabled_after_iff {p : Platform} (positive : 0 < N) (d : Data p N) (on : Bool) :
    (∀ k, (d.bank.step (.switch {k | k.val < loopBound N} on)).enabled k = on) ↔
      d.bank.enabled (lastBlinker positive) = on := by
  have reached (k : Fin N) : k.val < loopBound N ↔ k ≠ lastBlinker positive := by
    rw [← not_le, loopBound_le_iff positive k]
  constructor
  · intro all
    have last := all (lastBlinker positive)
    simpa [Bank.step, reached] using last
  · intro last k
    by_cases isLast : k = lastBlinker positive
    · simp [Bank.step, reached, isLast, last]
    · simp [Bank.step, reached, isLast]

theorem settles_iff (positive : 0 < N) (c : AllCommand) (r : CfeReplies p) (m : SbBuffer)
    {d : Data p N} (binary : d.Binary) (found : parse p N m = some c.request) :
    c.Settles p (taskPipe p r m d).state ↔ c.DoneAt d (lastBlinker positive) := by
  have status := binary.status_eq (lastBlinker positive)
  cases c with
  | reset =>
    have filled := changeBelow_loopBound_iff positive d.blinkerCounts 0
    rw [taskPipe_of_accepted p r m d found, AllCommand.DoneAt, ← filled]
    constructor
    · intro zero
      exact ext_get fun k => (zero k).trans (get_replicate 0 k).symm
    · intro zero k
      simp [AllCommand.request, effect, zero]
  | enable =>
    refine (settles_turn_iff p true _).trans ?_
    rw [taskPipe_bank, bankOp, found]
    refine (enabled_after_iff positive d true).trans ?_
    rw [AllCommand.DoneAt, status]
    cases d.bank.enabled (lastBlinker positive) <;> decide
  | disable =>
    refine (settles_turn_iff p false _).trans ?_
    rw [taskPipe_bank, bankOp, found]
    refine (enabled_after_iff positive d false).trans ?_
    rw [AllCommand.DoneAt, status]
    cases d.bank.enabled (lastBlinker positive) <;> decide

/-- A command for all blinkers does what the commands for single blinkers do, and what
users rely on in later runs, exactly when the last blinker was left as it should be
before. -/
theorem allCommands_iff (positive : 0 < N) :
    (∀ (c : AllCommand) (r : CfeReplies p) (m : SbBuffer) (d : Data p N) (specs : List (Input p)),
      parse p N m = some c.request → c.OnceEach p N specs →
      (SameBlinkers (taskPipe p r m d).state (runTaskPipe p specs d).state ↔
        c.DoneAt d (lastBlinker positive))) ∧
    ∀ (c : AllCommand) (r : CfeReplies p) (m : SbBuffer) (a : InitReplies p) (d₀ : Data p N)
      (before : List (Input p)), parse p N m = some c.request →
      let d := (runTaskPipe p before (init p a d₀).state).state
      (c.Settles p (taskPipe p r m d).state ↔ c.DoneAt d (lastBlinker positive)) := by
  refine ⟨fun c r m d specs => agree_iff p positive c r m d specs, ?_⟩
  intro c r m a d₀ before found d
  have binary : d.Binary := runTaskPipe_init_binary p a d₀ before
  exact settles_iff p positive c r m binary found

/-- Commands for blinkers 0 and 1, in this order. -/
def pairOf (p : Platform) (code : UInt16) : List (Input p) :=
  [⟨default, groundCommand p code [0, 0, 0, 0]⟩, ⟨default, groundCommand p code [1, 0, 0, 0]⟩]

/-- Both blinkers are enabled and count, and then the second one is disabled. -/
def countedRun (p : Platform) : List (Input p) :=
  pairOf p enableSpecBlinkerCc ++
    [⟨default, bareMessage p (blinkCmdMid p)⟩, ⟨default, bareMessage p (blinkCmdMid p)⟩,
      ⟨default, groundCommand p disableSpecBlinkerCc [1, 0, 0, 0]⟩]

theorem allCommands_iff_disable :
    let p := defaultPlatform
    let d : Data p 2 := (runTaskPipe p (countedRun p) (init p default (zeroData p)).state).state
    let m := groundCommand p disableAllBlinkersCc []
    SameBlinkers (taskPipe p default m d).state
        (runTaskPipe p (pairOf p disableSpecBlinkerCc) d).state ∧
      AllCommand.disable.Settles p (taskPipe p default m d).state := by
  intro p d m
  have onceEach : AllCommand.disable.OnceEach p 2 (pairOf p disableSpecBlinkerCc) :=
    ⟨[0, 1], List.Perm.refl _, by decide⟩
  have parsed : parse p 2 m = some AllCommand.disable.request := by decide
  have lastOff : d.blinkerStatuses.get (lastBlinker (by decide)) = 0 := by decide
  have rules := allCommands_iff (N := 2) p (by decide)
  exact ⟨(rules.1 .disable default m d _ parsed onceEach).mpr lastOff,
    (rules.2 .disable default m default (zeroData p) (countedRun p) parsed).mpr lastOff⟩

/-- Two blinkers, both off: after `ENABLE_ALL` the second one is still off. -/
theorem not_allCommands_agree :
    ¬ ∀ (N : Nat), 1 ≤ N → N ≤ 2 ^ 16 → ∀ (p : Platform) (c : AllCommand) (r : CfeReplies p)
      (m : SbBuffer) (d : Data p N) (specs : List (Input p)), parse p N m = some c.request →
      c.OnceEach p N specs →
      SameBlinkers (taskPipe p r m d).state (runTaskPipe p specs d).state := by
  intro claim
  let p := defaultPlatform
  have onceEach : AllCommand.enable.OnceEach p 2 (pairOf p enableSpecBlinkerCc) :=
    ⟨[0, 1], List.Perm.refl _, by decide⟩
  have agree := claim 2 (by decide) (by decide) p .enable default
    (groundCommand p enableAllBlinkersCc []) (zeroData p) _ (by decide) onceEach
  have atLast := congrArg (·[1]) agree.2
  exact absurd atLast (by decide)

end BlinkerApp
