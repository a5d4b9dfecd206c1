import BlinkerApp.Model.SystemTest
import BlinkerApp.Proofs.CommandFormat
import BlinkerApp.Proofs.CountingForward
import BlinkerApp.Proofs.Noninterference

/-!
# What the system test shows

The reports the script asks for, on a running system in which ticks come at any time and other
senders command other blinkers. They are the numbers of ticks while its blinkers were on, if and
only if neither of them is the last one.
-/

namespace BlinkerApp

open Traced Cells

variable {p : Platform} {N : Nat}

/-! ## Two blinkers -/

section Pair

variable (p : Platform) (a b : Fin N)

/-- The counts and the statuses of two blinkers. -/
abbrev BlinkerPair := (UInt16 × UInt8) × (UInt16 × UInt8)

/-- The request acts on blinker `k` or reports it. -/
def Request.touches (k : Fin N) (req : Request N) : Bool := req.concerns k || req.swaps k

/-- The request of a message, if it touches one of the two blinkers. -/
def pairRequest (i : Input p) : Option (Request N) :=
  (parse p N i.buffer).filter fun req => req.touches a || req.touches b

def Data.pair {p : Platform} (d : Data p N) : BlinkerPair := (d.blinker a, d.blinker b)

/-- What a request does to the two, if it swaps no other blinker with them. -/
def pairMove (pair : BlinkerPair) (req : Request N) : BlinkerPair :=
  if req = .swapCounts a b then ((pair.2.1, pair.1.2), (pair.1.1, pair.2.2))
  else (if req.concerns a then blinkerMove a pair.1 req else pair.1,
    if req.concerns b then blinkerMove b pair.2 req else pair.2)

/-- The message swaps the two with each other or neither with any. -/
def SwapsNoOther (i : Input p) : Prop :=
  ∀ req, parse p N i.buffer = some req →
    req = .swapCounts a b ∨ req.swaps a = false ∧ req.swaps b = false

variable {p a b}

theorem effect_blinker_of_no_swap {p : Platform} (r : CfeReplies p) (d : Data p N)
    {req : Request N} {k : Fin N} (noSwap : req.swaps k = false) :
    (effect r d req).blinker k =
      if req.concerns k then blinkerMove k (d.blinker k) req else d.blinker k := by
  split
  case isTrue concerns => exact effect_blinker_of_concerns k r d concerns
  case isFalse other =>
    exact effect_blinker_of_not_concerns k r d (Bool.eq_false_iff.mpr other) noSwap

theorem effect_pair {p : Platform} {r : CfeReplies p} {d : Data p N} {req : Request N}
    (own : req = .swapCounts a b ∨ req.swaps a = false ∧ req.swaps b = false) :
    (effect r d req).pair a b = pairMove a b (d.pair a b) req := by
  rcases own with rfl | ⟨noSwapA, noSwapB⟩
  · simp only [effect, Data.pair, Data.blinker, pairMove, get_swap, Equiv.swap_apply_left,
      Equiv.swap_apply_right, if_true]
  · have other : req ≠ .swapCounts a b := by
      rintro rfl
      simp [Request.swaps] at noSwapA
    rw [pairMove, if_neg other]
    exact Prod.ext (effect_blinker_of_no_swap r d noSwapA) (effect_blinker_of_no_swap r d noSwapB)

theorem pairMove_of_not_touches {pair : BlinkerPair} {req : Request N}
    (untouched : ¬ (req.touches a || req.touches b) = true) : pairMove a b pair req = pair := by
  simp only [Request.touches, Bool.or_eq_true, not_or, Bool.not_eq_true] at untouched
  obtain ⟨⟨first, noSwap⟩, second, -⟩ := untouched
  have other : req ≠ .swapCounts a b := by
    rintro rfl
    simp [Request.swaps] at noSwap
  simp only [pairMove, other, first, second, if_false, Bool.false_eq_true]

/-- A message acts on the two through its request, if it touches them. -/
theorem taskPipe_pair {i : Input p} (ownSwap : SwapsNoOther p a b i) (d : Data p N) :
    (taskPipe p i.replies i.buffer d).state.pair a b =
      (pairRequest p a b i).elim (d.pair a b) (pairMove a b (d.pair a b)) := by
  unfold pairRequest
  cases found : parse p N i.buffer with
  | none =>
    rw [taskPipe_of_rejected p _ _ d found]
    exact Prod.ext (rejection_blinker a d _) (rejection_blinker b d _)
  | some req =>
    rw [taskPipe_of_accepted p _ _ d found, Option.filter_some]
    show (effect i.replies d req).pair a b = _
    rw [effect_pair (ownSwap req found)]
    split
    case isTrue => rfl
    case isFalse untouched => exact pairMove_of_not_touches untouched

/-- What is reported of blinker `k`, one of the two, as it stands. -/
theorem taskPipe_pair_report {i : Input p} {k : Fin N} (own : k = a ∨ k = b) (d : Data p N) :
    (taskPipe p i.replies i.buffer d).trace.filterMap (Obs.report? k) =
      (pairRequest p a b i).elim [] fun req =>
        if req.concerns k then blinkerReport (d.blinker k) req else [] := by
  rw [taskPipe_report]
  unfold relevantRequest pairRequest
  cases parse p N i.buffer with
  | none => rfl
  | some req =>
    rw [Option.filter_some, Option.filter_some]
    cases concerns : req.concerns k with
    | true =>
      have touched : (req.touches a || req.touches b) = true := by
        rcases own with rfl | rfl <;> simp [Request.touches, concerns]
      rw [if_pos rfl, if_pos touched, Option.elim_some, Option.elim_some, if_pos concerns]
    | false =>
      rw [if_neg Bool.false_ne_true]
      split
      · rw [Option.elim_some, concerns]
        rfl
      · rfl

end Pair

/-! ## Ticks and the messages of others -/

section Ticks

variable (p : Platform) (a b : Fin N)

/-- A blinker after some ticks. -/
def ticked (n : Nat) (blinker : UInt16 × UInt8) : UInt16 × UInt8 :=
  (if blinker.2 ≠ 0 then blinker.1 + UInt16.ofNat n else blinker.1, blinker.2)

/-- A message that is no part of the test: a tick, or one that touches neither blinker. -/
def Bystander (i : Input p) : Prop :=
  ∀ req, parse p N i.buffer = some req →
    req = .blink ∨ req.touches a = false ∧ req.touches b = false

variable {p a b}

theorem foldl_ticks (n : Nat) (pair : BlinkerPair) :
    (List.replicate n (.blink : Request N)).foldl (pairMove a b) pair =
      (ticked n pair.1, ticked n pair.2) := by
  induction n generalizing pair with
  | zero => simp [ticked]
  | succ n ih =>
    have one (c : UInt16) : c + 1 + UInt16.ofNat n = c + UInt16.ofNat (n + 1) := by
      rw [UInt16.ofNat_add, UInt16.add_assoc, UInt16.add_comm 1]
      rfl
    rw [List.replicate_succ, List.foldl_cons, ih]
    by_cases first : pair.1.2 = 0 <;> by_cases second : pair.2.2 = 0 <;>
      simp [pairMove, ticked, blinkerMove, Request.concerns, first, second, one]

theorem pairRequest_tick {i : Input p} (tick : isTick p i = true) :
    pairRequest p a b i = some .blink := by
  rw [pairRequest, parse_tick p tick]
  rfl

theorem Bystander.pairRequest {i : Input p} (bystander : Bystander p a b i)
    (other : isTick p i = false) : pairRequest p a b i = none := by
  unfold BlinkerApp.pairRequest
  cases found : parse p N i.buffer with
  | none => rfl
  | some req =>
    rcases bystander req found with rfl | ⟨first, second⟩
    · exact absurd (decide_eq_true (msgId_of_parse_blink p found)) (Bool.eq_false_iff.mp other)
    · rw [Option.filter_some, first, second]
      rfl

/-- Only the ticks count. -/
theorem pairRequests_of_bystanders {others : List (Input p)}
    (bystanders : ∀ i ∈ others, Bystander p a b i) :
    others.filterMap (pairRequest p a b) = List.replicate (others.countP (isTick p)) .blink := by
  induction others with
  | nil => rfl
  | cons i others ih =>
    obtain ⟨here, later⟩ := List.forall_mem_cons.mp bystanders
    rw [List.filterMap_cons, List.countP_cons, ih later]
    cases tick : isTick p i with
    | true => rw [pairRequest_tick tick]; rfl
    | false => rw [here.pairRequest tick]; rfl

theorem Bystander.swapsNoOther {i : Input p} (bystander : Bystander p a b i) :
    SwapsNoOther p a b i := by
  intro req found
  rcases bystander req found with rfl | ⟨first, second⟩
  · exact .inr ⟨rfl, rfl⟩
  · exact .inr ⟨(Bool.or_eq_false_iff.mp first).2, (Bool.or_eq_false_iff.mp second).2⟩

end Ticks

/-! ## The commands of the script -/

section Script

variable (p : Platform) {a b : Fin N}

variable (a b) in
/-- What the commands of the script ask for. -/
def testRequests : List (Request N) :=
  [.noop, .disableAll, .resetAll, .reportSpec a, .enableSpec a, .disableSpec a, .reportSpec a,
   .enableSpec b, .disableSpec b, .reportSpec b, .swapCounts a b, .reportSpec a, .reportSpec b]

theorem parse_testBlinker (small : N ≤ 2 ^ 16) (s : Sender p) :
    (testBlinker s (.ofNat a) (.ofNat b)).map (parse p N) = (testRequests a b).map some := by
  have number (k : Fin N) : numberField k = some (UInt16.ofNat k) :=
    if_pos (Nat.lt_of_lt_of_le k.isLt small)
  have plain (req : Request N) (m : SbBuffer) (encoded : req.command s 99 anyParam = some m) :
      parse p N m = some req := (parse_command encoded).2
  have spec (req : Request N) (k : Fin N) (code : UInt16)
      (encoded : req.command s 99 anyParam =
        (numberField k).map fun n => sendBlinkSpecblinker s code n) :
      parse p N (sendBlinkSpecblinker s code (.ofNat k)) = some req :=
    plain _ _ (encoded.trans (congrArg (Option.map _) (number k)))
  have swap : parse p N (sendBlinkSwapblinkers s (.ofNat a) (.ofNat b)) =
      some (.swapCounts a b) :=
    plain _ _
      ((congrArg (Option.bind · _) (number a)).trans (congrArg (Option.map _) (number b)))
  simp only [testBlinker, testRequests, List.map_cons, List.map_nil, swap,
    plain .noop (sendBlinkNoargs s 0) rfl, plain .disableAll (sendBlinkNoargs s 10) rfl,
    plain .resetAll (sendBlinkNoargs s 4) rfl,
    fun k => spec (.reportSpec k) k 6 rfl, fun k => spec (.enableSpec k) k 7 rfl,
    fun k => spec (.disableSpec k) k 8 rfl]

variable (a b) in
/-- The requests that touch the two, among ticks, `ticks n` of them between request `n` and the
next one. -/
def amongTicks (ticks : Nat → Nat) (reqs : List (Request N)) : List (Request N) :=
  reqs.zipIdx.flatMap fun (req, n) =>
    [req].filter (fun req => req.touches a || req.touches b) ++ List.replicate (ticks n) .blink

variable {p}

/-- What the two blinkers are asked during a script. -/
theorem pairRequests_underWay {commands : List SbBuffer} {reqs : List (Request N)}
    (parsed : commands.map (parse p N) = reqs.map some) {replies : Nat → CfeReplies p}
    {others : Nat → List (Input p)} (bystanders : ∀ n, ∀ i ∈ others n, Bystander p a b i) :
    (underWay replies others commands).filterMap (pairRequest p a b) =
      amongTicks a b (fun n => (others n).countP (isTick p)) reqs := by
  unfold underWay amongTicks
  generalize 0 = start
  induction commands generalizing reqs start with
  | nil =>
    obtain rfl := List.map_eq_nil_iff.mp parsed.symm
    rfl
  | cons m commands ih =>
    cases reqs with
    | nil => cases parsed
    | cons req reqs =>
      obtain ⟨here, later⟩ := List.cons_eq_cons.mp parsed
      have asked : pairRequest p a b ⟨replies start, m⟩ =
          (some req).filter fun req => req.touches a || req.touches b :=
        congrArg (Option.filter _) here
      simp only [List.zipIdx_cons, List.flatMap_cons, List.filterMap_append, ih later,
        List.filterMap_cons, asked, pairRequests_of_bystanders (bystanders start),
        Option.filter_some, List.filter_cons, List.filter_nil]
      by_cases touched : (req.touches a || req.touches b) = true
      · simp only [if_pos touched]
        rfl
      · simp only [if_neg touched]
        rfl

theorem swapsNoOther_of_parse {i : Input p} {req : Request N}
    (found : parse p N i.buffer = some req)
    (own : req = .swapCounts a b ∨ req.swaps a = false ∧ req.swaps b = false) :
    SwapsNoOther p a b i := by
  intro req' found'
  obtain rfl := Option.some.inj (found.symm.trans found')
  exact own

theorem swapsNoOther_underWay {commands : List SbBuffer} {reqs : List (Request N)}
    (parsed : commands.map (parse p N) = reqs.map some)
    (own : ∀ req ∈ reqs, req = .swapCounts a b ∨ req.swaps a = false ∧ req.swaps b = false)
    {replies : Nat → CfeReplies p} {others : Nat → List (Input p)}
    (bystanders : ∀ n, ∀ i ∈ others n, Bystander p a b i) :
    ∀ i ∈ underWay replies others commands, SwapsNoOther p a b i := by
  intro i member
  obtain ⟨⟨m, n⟩, listed, member⟩ := List.mem_flatMap.mp member
  rcases List.mem_cons.mp member with rfl | other
  · have made : parse p N m ∈ reqs.map some := by
      rw [← parsed]
      exact List.mem_map_of_mem (List.fst_mem_of_mem_zipIdx listed)
    obtain ⟨req, asked, found⟩ := List.mem_map.mp made
    exact swapsNoOther_of_parse found.symm (own req asked)
  · exact (bystanders n i other).swapsNoOther

end Script

/-! ## The reports -/

section Reports

variable {p : Platform} {a b : Fin N}

/-- What a request reports of blinker `k`, whose count and status `look` finds. -/
def pairReport (k : Fin N) (look : BlinkerPair → UInt16 × UInt8) (pair : BlinkerPair)
    (req : Request N) : List Int :=
  if req.concerns k then blinkerReport (look pair) req else []

/-- The reports of a run are those of the requests that touch the two. -/
theorem reports_run {inputs : List (Input p)} (ownSwaps : ∀ i ∈ inputs, SwapsNoOther p a b i)
    {k : Fin N} (own : k = a ∨ k = b) {look : BlinkerPair → UInt16 × UInt8}
    (looks : ∀ d : Data p N, look (d.pair a b) = d.blinker k) (d : Data p N) :
    (runTaskPipe p inputs d).trace.filterMap (Obs.report? k) =
      localOutputs (pairMove a b) (pairReport k look) (d.pair a b)
        (inputs.filterMap (pairRequest p a b)) :=
  each_view_outputs (fun i member => taskPipe_pair (ownSwaps i member))
    (fun i _ d => by
      rw [taskPipe_pair_report own, ← looks]
      rfl) d

section Outputs

variable (k : Fin N) (look : BlinkerPair → UInt16 × UInt8) (pair : BlinkerPair) (n : Nat)

/-- Ticks report nothing. -/
theorem localOutputs_ticks :
    localOutputs (pairMove a b) (pairReport k look) pair (List.replicate n .blink) = [] := by
  induction n generalizing pair with
  | zero => rfl
  | succ n ih => exact ih _

theorem localOutputs_after_ticks (reqs : List (Request N)) :
    localOutputs (pairMove a b) (pairReport k look) pair (List.replicate n .blink ++ reqs) =
      localOutputs (pairMove a b) (pairReport k look) (ticked n pair.1, ticked n pair.2) reqs := by
  rw [localOutputs_append, localOutputs_ticks, foldl_ticks, List.nil_append]

end Outputs

variable (a b) in
theorem own_testRequests : ∀ req ∈ testRequests a b,
    req = .swapCounts a b ∨ req.swaps a = false ∧ req.swaps b = false := by
  simp [testRequests, Request.swaps]

theorem reports_testBlinker (distinct : a ≠ b) (first : a.val < loopBound N)
    (second : b.val < loopBound N) (ticks : Nat → Nat) (pair : BlinkerPair) :
    localOutputs (pairMove a b) (pairReport a Prod.fst) pair
        (amongTicks a b ticks (testRequests a b)) =
      [0, (UInt16.ofNat (ticks 4)).toNat, (UInt16.ofNat (ticks 7)).toNat] ∧
    localOutputs (pairMove a b) (pairReport b Prod.snd) pair
        (amongTicks a b ticks (testRequests a b)) =
      [((UInt16.ofNat (ticks 7)).toNat : Int), (UInt16.ofNat (ticks 4)).toNat] := by
  refine ⟨?_, ?_⟩ <;>
    simp [amongTicks, testRequests, List.zipIdx_cons, Request.touches, Request.concerns,
      Request.swaps, localOutputs_ticks, localOutputs_after_ticks, localOutputs, pairMove,
      pairReport, blinkerMove, blinkerReport, ticked, first, second, distinct, distinct.symm]

/-- Without ticks, what is reported first of a blinker that is off and shows 1 is 1, unless the
commands to all blinkers reach it. -/
theorem first_reports_testBlinker (distinct : a ≠ b) :
    (localOutputs (pairMove a b) (pairReport a Prod.fst) ((1, 0), (1, 0))
        (amongTicks a b (fun _ => 0) (testRequests a b))).head? =
      some (if a.val < loopBound N then 0 else 1) ∧
    (localOutputs (pairMove a b) (pairReport b Prod.snd) ((1, 0), (1, 0))
        (amongTicks a b (fun _ => 0) (testRequests a b))).head? =
      some (if b.val < loopBound N then 0 else 1) := by
  refine ⟨?_, ?_⟩ <;> by_cases first : a.val < loopBound N <;>
    by_cases second : b.val < loopBound N <;>
    simp [amongTicks, testRequests, List.zipIdx_cons, Request.touches, Request.concerns,
      Request.swaps, localOutputs, pairMove, pairReport, blinkerMove, blinkerReport, first, second,
      distinct, distinct.symm]

end Reports

variable {p : Platform}

/-- Whatever else the running system does, and from every state, the reports of the script are
the numbers of ticks while its blinkers were on (after its commands 4 and 7), exactly when the
commands to all blinkers reach both of them. -/
theorem testBlinker_iff (small : N ≤ 2 ^ 16) {a b : Fin N} (distinct : a ≠ b) (s : Sender p) :
    (∀ (d : Data p N) (replies : Nat → CfeReplies p) (others : Nat → List (Input p)),
      (∀ n, ∀ i ∈ others n, Bystander p a b i) →
      let inputs := underWay replies others (testBlinker s (.ofNat a) (.ofNat b))
      let trace := (runTaskPipe p inputs d).trace
      let ticks (n : Nat) : Int := ((others n).countP (isTick p) % 2 ^ 16 : Nat)
      trace.filterMap (Obs.report? a) = [0, ticks 4, ticks 7] ∧
        trace.filterMap (Obs.report? b) = [ticks 7, ticks 4]) ↔
    a.val < loopBound N ∧ b.val < loopBound N := by
  have parsed := parse_testBlinker p (a := a) (b := b) small s
  have runs (d : Data p N) (replies : Nat → CfeReplies p) (others : Nat → List (Input p))
      (bystanders : ∀ n, ∀ i ∈ others n, Bystander p a b i) :
      let inputs := underWay replies others (testBlinker s (.ofNat a) (.ofNat b))
      let asked := amongTicks a b (fun n => (others n).countP (isTick p)) (testRequests a b)
      (runTaskPipe p inputs d).trace.filterMap (Obs.report? a) =
          localOutputs (pairMove a b) (pairReport a Prod.fst) (d.pair a b) asked ∧
        (runTaskPipe p inputs d).trace.filterMap (Obs.report? b) =
          localOutputs (pairMove a b) (pairReport b Prod.snd) (d.pair a b) asked := by
    intro inputs asked
    have ownSwaps : ∀ i ∈ inputs, SwapsNoOther p a b i :=
      swapsNoOther_underWay parsed (own_testRequests a b) bystanders
    have touching : inputs.filterMap (pairRequest p a b) = asked :=
      pairRequests_underWay parsed bystanders
    exact ⟨(reports_run ownSwaps (.inl rfl) (fun _ => rfl) d).trans (by rw [touching]),
      (reports_run ownSwaps (.inr rfl) (fun _ => rfl) d).trans (by rw [touching])⟩
  constructor
  · intro right
    -- all blinkers are off and show 1, and nothing else happens
    let d : Data p N := { zeroData p with blinkerCounts := .replicate N 1 }
    have start : d.pair a b = ((1, 0), (1, 0)) := by simp [d, Data.pair, Data.blinker, zeroData]
    have quiet : ∀ n : Nat, ∀ i ∈ ([] : List (Input p)), Bystander p a b i :=
      fun _ _ member => absurd member List.not_mem_nil
    obtain ⟨shownA, shownB⟩ := right d default (fun _ => []) quiet
    obtain ⟨runA, runB⟩ := runs d default (fun _ => []) quiet
    obtain ⟨headA, headB⟩ := first_reports_testBlinker distinct
    have reportA := congrArg List.head? (runA.symm.trans shownA)
    have reportB := congrArg List.head? (runB.symm.trans shownB)
    rw [start] at reportA reportB
    have zeroA := headA.symm.trans reportA
    have zeroB := headB.symm.trans reportB
    refine ⟨?_, ?_⟩
    · by_contra last
      rw [if_neg last] at zeroA
      cases zeroA
    · by_contra last
      rw [if_neg last] at zeroB
      cases zeroB
  · rintro ⟨first, second⟩ d replies others bystanders inputs trace ticks
    obtain ⟨runA, runB⟩ := runs d replies others bystanders
    obtain ⟨reportsA, reportsB⟩ := reports_testBlinker distinct first second
      (fun n => (others n).countP (isTick p)) (d.pair a b)
    exact ⟨runA.trans reportsA, runB.trans reportsB⟩

/-- The script as it is, with two ticks while blinker 5 is on and one while blinker 3 is. -/
theorem testBlinker_iff_ticks :
    let p := defaultPlatform
    let tick : Input p := ⟨default, bareMessage p (blinkCmdMid p)⟩
    let others (n : Nat) : List (Input p) :=
      if n = 4 then [tick, tick] else if n = 7 then [tick] else []
    let inputs := underWay default others (testBlinker (anySender p) 5 3)
    (runTaskPipe p inputs (zeroData p : Data p 8)).trace.filterMap (Obs.report? 5) = [0, 2, 1] := by
  intro p tick others inputs
  have bystanders : ∀ n, ∀ i ∈ others n, Bystander p (5 : Fin 8) 3 i := by
    intro n i member req found
    have same : i = tick := by
      unfold others at member
      split at member
      case isTrue => simpa using member
      case isFalse =>
        split at member
        case isTrue => simpa using member
        case isFalse => cases member
    rw [same] at found
    exact .inl (Option.some.inj (found.symm.trans (parse_blink p)))
  have shown := (testBlinker_iff (N := 8) (by decide) (a := 5) (b := 3) (by decide)
    (anySender p)).mpr (by decide) (zeroData p) default others bystanders
  exact shown.1

end BlinkerApp
