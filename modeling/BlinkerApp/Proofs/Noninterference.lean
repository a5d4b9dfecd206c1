import BlinkerApp.Proofs.StartUp

/-!
# Noninterference between blinkers

What a run does to one blinker depends on the requests that concern it and on nothing
else: its count and status and what is reported of it are those of a machine that sees
only these requests.
-/

namespace BlinkerApp

open Traced Cells

variable {N : Nat} (p : Platform) (k : Fin N)

/-- The requests that concern blinker `k`, swaps apart. -/
def Request.concerns : Request N → Bool
  | .blink | .resetAll | .enableAll | .disableAll => true
  | .resetSpec j | .reportSpec j | .enableSpec j | .disableSpec j => j = k
  | _ => false

/-- The requests that swap the counter of blinker `k`. -/
def Request.swaps : Request N → Bool
  | .swapCounts a b => a = k ∨ b = k
  | _ => false

/-- The request of a message, if it concerns blinker `k`. -/
def relevantRequest (i : Input p) : Option (Request N) :=
  (parse p N i.buffer).filter (Request.concerns k)

/-- The requests of a run that concern blinker `k`, in order. -/
def relevantRequests (inputs : List (Input p)) : List (Request N) :=
  inputs.filterMap (relevantRequest p k)

/-- No accepted swap names blinker `k`. -/
def NoSwapOf (inputs : List (Input p)) : Prop :=
  ∀ i ∈ inputs, (parse p N i.buffer).any (Request.swaps k) = false

/-- The count and the status of one blinker. -/
def Data.blinker {p : Platform} (d : Data p N) : UInt16 × UInt8 :=
  (d.blinkerCounts.get k, d.blinkerStatuses.get k)

/-- The value that an event reports for blinker `k`. -/
def Event.report? : Event → Option Int
  | ⟨_, .information, spec, [.int n, .int count]⟩ =>
      if spec = "BLINKER_APP: Blinker #%d = %d counts" ∧ n = k then some count else none
  | _ => none

/-- The value that is reported for blinker `k`. -/
def Obs.report? {p : Platform} (e : Obs p N) : Option Int := e.event?.bind (Event.report? k)

/-! ## The machine of one blinker -/

/-- What a request that concerns blinker `k` does to it. -/
def blinkerMove : UInt16 × UInt8 → Request N → UInt16 × UInt8
  | (count, status), .blink => (if status ≠ 0 then count + 1 else count, status)
  | (count, status), .resetAll => (if k.val < loopBound N then 0 else count, status)
  | (count, status), .enableAll => (count, if k.val < loopBound N then 1 else status)
  | (count, status), .disableAll => (count, if k.val < loopBound N then 0 else status)
  | (_, status), .resetSpec _ => (0, status)
  | (count, _), .enableSpec _ => (count, 1)
  | (count, _), .disableSpec _ => (count, 0)
  | blinker, _ => blinker

/-- What a request that concerns blinker `k` reports of it. -/
def blinkerReport : UInt16 × UInt8 → Request N → List Int
  | (count, _), .reportSpec _ => [count.toNat]
  | _, _ => []

theorem effect_blinker_of_concerns {p : Platform} (r : CfeReplies p) (d : Data p N)
    {req : Request N} (concerns : req.concerns k = true) :
    (effect r d req).blinker k = blinkerMove k (d.blinker k) req := by
  have bound := k.isLt
  cases req with
  | blink =>
    simp only [effect, Data.blinker, blinkerMove, get_changeBelow, if_pos bound]
    congr
  | resetAll | enableAll | disableAll =>
    simp only [effect, Data.blinker, blinkerMove, get_changeBelow]
  | resetSpec j | enableSpec j | disableSpec j =>
    obtain rfl : j = k := of_decide_eq_true concerns
    simp [effect, Data.blinker, blinkerMove]
  | reportSpec j => rfl
  | _ => cases concerns

theorem effect_blinker_of_not_concerns {p : Platform} (r : CfeReplies p) (d : Data p N)
    {req : Request N} (other : req.concerns k = false) (noSwap : req.swaps k = false) :
    (effect r d req).blinker k = d.blinker k := by
  cases req with
  | blink | resetAll | enableAll | disableAll => cases other
  | resetSpec j | enableSpec j | disableSpec j =>
    have apart : j ≠ k := of_decide_eq_false other
    simp only [effect, Data.blinker, get_set, if_neg apart]
  | swapCounts a b =>
    obtain ⟨notA, notB⟩ := not_or.mp (of_decide_eq_false noSwap)
    have away := Equiv.swap_apply_of_ne_of_ne (Ne.symm notA) (Ne.symm notB)
    simp only [effect, Data.blinker, get_swap, away]
  | _ => rfl

theorem rejection_blinker {p : Platform} (d : Data p N) (why : Rejection) :
    (why.effect d).blinker k = d.blinker k := by
  cases why <;> rfl

/-- A message acts on blinker `k` through the request it makes of it. -/
theorem taskPipe_blinker (i : Input p)
    (noSwap : (parse p N i.buffer).any (Request.swaps k) = false) (d : Data p N) :
    (taskPipe p i.replies i.buffer d).state.blinker k =
      (relevantRequest p k i).elim (d.blinker k) (blinkerMove k (d.blinker k)) := by
  unfold relevantRequest
  cases found : parse p N i.buffer with
  | none =>
    rw [taskPipe_of_rejected p _ _ d found, rejection_blinker]
    rfl
  | some req =>
    rw [found] at noSwap
    rw [taskPipe_of_accepted p _ _ d found]
    cases concerns : req.concerns k with
    | true =>
      rw [effect_blinker_of_concerns k i.replies d concerns, Option.filter_some, if_pos concerns]
      rfl
    | false =>
      rw [effect_blinker_of_not_concerns k i.replies d concerns noSwap, Option.filter_some,
        if_neg (by rw [concerns]; exact nofun)]
      rfl

/-! ## Reports -/

theorem reports_eq {p : Platform} (trace : List (Obs p N)) :
    trace.filterMap (Obs.report? k) = (trace.filterMap Obs.event?).filterMap (Event.report? k) := by
  rw [List.filterMap_filterMap]
  rfl

/-- Only a report has the form of a report. -/
theorem report_requestEvent (m : SbBuffer) (d : Data p N) (req : Request N) :
    (requestEvent p m d req).toList.filterMap (Event.report? k) =
      if req.concerns k then blinkerReport (d.blinker k) req else [] := by
  cases req with
  | reportSpec j =>
    have number : (j.val : Int) = k.val ↔ j = k := by
      rw [Fin.ext_iff]
      omega
    by_cases same : j = k
    · subst same
      simp [requestEvent, Event.report?, blinkerEvent, Request.concerns, blinkerReport,
        Data.blinker]
    · simp [requestEvent, Event.report?, blinkerEvent, Request.concerns, number, same]
  | resetSpec j | enableSpec j | disableSpec j =>
    show [] = if decide (j = k) = true then [] else []
    split <;> rfl
  | _ => rfl

theorem report_rejection (m : SbBuffer) (why : Rejection) :
    Event.report? k (why.event p N m) = none := by
  cases why with
  | outOfRange h => cases h <;> rfl
  | _ => rfl

theorem taskPipe_report (i : Input p) (d : Data p N) :
    (taskPipe p i.replies i.buffer d).trace.filterMap (Obs.report? k) =
      (relevantRequest p k i).elim [] (blinkerReport (d.blinker k)) := by
  unfold relevantRequest
  cases found : parse p N i.buffer with
  | none =>
    rw [taskPipe_of_rejected p _ _ d found, reports_eq, events_rejection, List.filterMap_cons,
      report_rejection]
    rfl
  | some req =>
    rw [taskPipe_of_accepted p _ _ d found, reports_eq, events_requestTrace, report_requestEvent,
      Option.filter_some]
    split <;> rfl

/-! ## Two runs -/

/-- Two runs that no swap of blinker `k` is part of, and whose requests that concern it
are the same, treat it the same. -/
theorem blinker_noninterference {d₁ d₂ : Data p N} {inputs₁ inputs₂ : List (Input p)}
    (sameCount : d₁.blinkerCounts.get k = d₂.blinkerCounts.get k)
    (sameStatus : d₁.blinkerStatuses.get k = d₂.blinkerStatuses.get k)
    (noSwap₁ : NoSwapOf p k inputs₁) (noSwap₂ : NoSwapOf p k inputs₂)
    (sameRequests : relevantRequests p k inputs₁ = relevantRequests p k inputs₂) :
    let o₁ := runTaskPipe p inputs₁ d₁
    let o₂ := runTaskPipe p inputs₂ d₂
    o₁.state.blinkerCounts.get k = o₂.state.blinkerCounts.get k ∧
      o₁.state.blinkerStatuses.get k = o₂.state.blinkerStatuses.get k ∧
      o₁.trace.filterMap (Obs.report? k) = o₂.trace.filterMap (Obs.report? k) := by
  intro o₁ o₂
  have same : d₁.blinker k = d₂.blinker k := Prod.ext sameCount sameStatus
  have final : o₁.state.blinker k = o₂.state.blinker k := by
    have run₁ := each_view (fun i member => taskPipe_blinker p k i (noSwap₁ i member)) d₁
    have run₂ := each_view (fun i member => taskPipe_blinker p k i (noSwap₂ i member)) d₂
    exact run₁.trans ((congrArg₂ (List.foldl (blinkerMove k)) same sameRequests).trans run₂.symm)
  have reports : o₁.trace.filterMap (Obs.report? k) = o₂.trace.filterMap (Obs.report? k) := by
    have run₁ := each_view_outputs (fun i member => taskPipe_blinker p k i (noSwap₁ i member))
      (fun i _ => taskPipe_report p k i) d₁
    have run₂ := each_view_outputs (fun i member => taskPipe_blinker p k i (noSwap₂ i member))
      (fun i _ => taskPipe_report p k i) d₂
    refine run₁.trans (Eq.trans ?_ run₂.symm)
    rw [same]
    exact congrArg _ sameRequests
  exact ⟨congrArg Prod.fst final, congrArg Prod.snd final, reports⟩

/-- A command to another blinker, a no-op and a message of an unknown kind, inserted into
a tick and a report. -/
theorem blinker_noninterference_insertion :
    let p := defaultPlatform
    let tick : Input p := ⟨default, bareMessage p (blinkCmdMid p)⟩
    let report : Input p := ⟨default, groundCommand p reportSpecBlinkerCc [0, 0, 0, 0]⟩
    let other : List (Input p) := [⟨default, groundCommand p enableSpecBlinkerCc [1, 0, 0, 0]⟩,
      ⟨default, groundCommand p noopCc []⟩, ⟨default, bareMessage p 0⟩]
    let d : Data p 2 := { zeroData p with blinkerStatuses := #v[1, 0] }
    (runTaskPipe p [tick, report] d).trace.filterMap (Obs.report? 0) =
      (runTaskPipe p (tick :: other ++ [report]) d).trace.filterMap (Obs.report? 0) := by
  intro p tick report other d
  have noSwap₁ : NoSwapOf p (0 : Fin 2) [tick, report] := by unfold NoSwapOf; decide
  have noSwap₂ : NoSwapOf p (0 : Fin 2) (tick :: other ++ [report]) := by unfold NoSwapOf; decide
  exact (blinker_noninterference p 0 rfl rfl noSwap₁ noSwap₂ (by decide)).2.2

end BlinkerApp
