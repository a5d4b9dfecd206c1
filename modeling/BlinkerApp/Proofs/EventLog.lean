import BlinkerApp.Model.Main
import BlinkerApp.Proofs.Grammar

/-!
# What the event log identifies

Every blinker command ends with the same event id, so a log of event ids shows how many
blinker commands were executed, and not which. It does tell them from rejections.
-/

namespace BlinkerApp

open Traced CLayout

variable {N : Nat} (p : Platform)

/-! ## Blinker commands and logs -/

/-- The function codes of the blinker commands. -/
def blinkerCodes : List UInt16 :=
  [resetAllBlinkersCc, resetSpecBlinkerCc, reportSpecBlinkerCc, enableSpecBlinkerCc,
   disableSpecBlinkerCc, enableAllBlinkersCc, disableAllBlinkersCc, swapTwoBlinkersCc]

/-- Every message is an accepted blinker command. -/
def BlinkerCommands (N : Nat) (inputs : List (Input p)) : Prop :=
  ∀ i ∈ inputs, AcceptedCommand p N i.buffer ∧ i.buffer.fcnCode ∈ blinkerCodes

/-- The function codes of a sequence of commands. -/
def codes {p : Platform} (inputs : List (Input p)) : List UInt16 := inputs.map (·.buffer.fcnCode)

/-- The ids of the events of a trace. -/
def eventIds {p : Platform} (trace : List (Obs p N)) : List UInt16 :=
  (trace.filterMap Obs.event?).map (·.id)

@[simp] theorem length_codes {p : Platform} (inputs : List (Input p)) :
    (codes inputs).length = inputs.length :=
  List.length_map _

@[simp] theorem eventIds_append {p : Platform} (t t' : List (Obs p N)) :
    eventIds (t ++ t') = eventIds t ++ eventIds t' := by
  unfold eventIds
  rw [List.filterMap_append, List.map_append]

/-! ## One command -/

/-- The handlers of the blinker commands. -/
def Handler.isBlinker : Handler → Bool
  | .resetAll | .enableAll | .disableAll | .resetSpec | .reportSpec | .enableSpec
  | .disableSpec | .swapCounts => true
  | _ => false

theorem isBlinker_of_code {code : UInt16} (known : code ∈ blinkerCodes) :
    (commandOf code).any Handler.isBlinker = true := by
  simp only [blinkerCodes, List.mem_cons, List.not_mem_nil, or_false] at known
  rcases known with rfl | rfl | rfl | rfl | rfl | rfl | rfl | rfl <;> decide

/-- A blinker command ends with the event id of a report. -/
theorem requestEvent_isBlinker {req : Request N} (blinker : req.handler.isBlinker = true)
    (m : SbBuffer) (d : Data p N) :
    (requestEvent p m d req).map (·.id) = some reportSpecBlinkerInfEid := by
  cases req <;> first | rfl | cases blinker

theorem eventIds_blinkerCommand {m : SbBuffer} (accepted : AcceptedCommand p N m)
    (known : m.fcnCode ∈ blinkerCodes) (r : CfeReplies p) (d : Data p N) :
    eventIds (taskPipe p r m d).trace = [reportSpecBlinkerInfEid] := by
  obtain ⟨req, found⟩ := exists_parse p m (.inr (.inr accepted))
  obtain ⟨h, ⟨isCmd, -⟩, -⟩ := accepted
  have blinker : req.handler.isBlinker = true := by
    have named := isBlinker_of_code known
    rwa [(wellSized_of_parse p m isCmd found).2.1] at named
  have ends := requestEvent_isBlinker p blinker m d
  rw [taskPipe_of_accepted p r m d found, eventIds, events_requestTrace]
  cases made : requestEvent p m d req with
  | none =>
    rw [made] at ends
    cases ends
  | some event =>
    rw [made] at ends
    exact congrArg (fun id => [id]) (Option.some.inj ends)

/-- The log of a sequence of blinker commands shows its length. -/
theorem eventIds_blinkerCommands {inputs : List (Input p)} (commands : BlinkerCommands p N inputs)
    (d : Data p N) :
    eventIds (runTaskPipe p inputs d).trace =
      List.replicate inputs.length reportSpecBlinkerInfEid := by
  induction inputs generalizing d with
  | nil => rfl
  | cons i inputs ih =>
    obtain ⟨accepted, known⟩ := commands i List.mem_cons_self
    have later := ih fun j member => commands j (List.mem_cons_of_mem i member)
    rw [runTaskPipe_cons, Outcome.prepend_trace, eventIds_append, later,
      eventIds_blinkerCommand p accepted known]
    rfl

/-! ## Accepted and rejected messages -/

theorem eventIds_accepted {m : SbBuffer} (accepted : Accepted p N m) (r : CfeReplies p)
    (d : Data p N) : ∀ id ∈ eventIds (taskPipe p r m d).trace,
      id ∈ [noopInfEid, resetInfEid, valueInfEid, reportSpecBlinkerInfEid] := by
  obtain ⟨req, found⟩ := exists_parse p m accepted
  rw [taskPipe_of_accepted p r m d found, eventIds, events_requestTrace]
  intro id member
  obtain ⟨event, made, rfl⟩ := List.mem_map.mp member
  exact requestEvent_id p m d (Option.mem_toList.mp made)

theorem eventIds_rejected {m : SbBuffer} (rejected : ¬ Accepted p N m) (r : CfeReplies p)
    (d : Data p N) : ∀ id ∈ eventIds (taskPipe p r m d).trace,
      id ∈ [midErrEid, ccErrEid, cmdLenErrEid] := by
  rw [taskPipe_of_rejected p r m d ((parse_eq_none p m).mpr rejected), eventIds, events_rejection]
  intro id member
  obtain rfl := List.mem_singleton.mp member
  exact rejectionEvent_id p m _

/-- No event id is that of an accepted and of a rejected message. -/
theorem eventIds_disjoint {m m' : SbBuffer} (accepted : Accepted p N m)
    (rejected : ¬ Accepted p N m') (r r' : CfeReplies p) (d d' : Data p N) :
    ∀ id ∈ eventIds (taskPipe p r m d).trace, id ∉ eventIds (taskPipe p r' m' d').trace := by
  intro id shown shown'
  have known := eventIds_accepted p accepted r d id shown
  have known' := eventIds_rejected p rejected r' d' id shown'
  simp only [List.mem_cons, List.not_mem_nil, or_false] at known known'
  rcases known with rfl | rfl | rfl | rfl <;> revert known' <;> decide

/-! ## Identification -/

/-- The log tells the two sequences apart, if their codes differ. -/
def Identifies (N : Nat) (inputs₁ inputs₂ : List (Input p)) : Prop :=
  ∀ d₁ d₂ : Data p N,
    eventIds (runTaskPipe p inputs₁ d₁).trace = eventIds (runTaskPipe p inputs₂ d₂).trace →
      codes inputs₁ = codes inputs₂

theorem sameLog_iff {inputs₁ inputs₂ : List (Input p)} (commands₁ : BlinkerCommands p N inputs₁)
    (commands₂ : BlinkerCommands p N inputs₂) (d₁ d₂ : Data p N) :
    eventIds (runTaskPipe p inputs₁ d₁).trace = eventIds (runTaskPipe p inputs₂ d₂).trace ↔
      inputs₁.length = inputs₂.length := by
  rw [eventIds_blinkerCommands p commands₁, eventIds_blinkerCommands p commands₂]
  exact List.replicate_left_inj

/-- A message with the function code of a blinker command, the length of its struct, and
zeros. -/
def zeroCommand (code : UInt16) : SbBuffer where
  msgId := cmdMid p
  fcnCode := code
  size := ((commandOf code).map fun h => (structOf p h).size).getD 0
  memory _ := 0

theorem zeroCommand_accepted (positive : 0 < N) {code : UInt16} (known : code ∈ blinkerCodes) :
    AcceptedCommand p N (zeroCommand p code) := by
  have named := isBlinker_of_code known
  cases found : commandOf code with
  | none =>
    rw [found] at named
    cases named
  | some h =>
    refine ⟨h, ⟨rfl, found, by simp [zeroCommand, found]⟩, ?_⟩
    have zero (offset : Nat) : uint16At p (zeroCommand p code) offset = 0 := by
      unfold uint16At
      rw [show load p.byteOrder (zeroCommand p code).memory offset 2 = 0 from load_zero _ _ _]
      rfl
    have numbers : ∀ n ∈ numbersOf p (zeroCommand p code) h, n = 0 := by
      cases h <;> simp [numbersOf, blinkerNumber, blinkerNumber1, blinkerNumber2, zero]
    intro n member
    rw [numbers n member]
    exact positive

/-- The log identifies two sequences exactly when they differ in length or agree. -/
theorem identifies_iff {inputs₁ inputs₂ : List (Input p)} (commands₁ : BlinkerCommands p N inputs₁)
    (commands₂ : BlinkerCommands p N inputs₂) :
    Identifies p N inputs₁ inputs₂ ↔
      inputs₁.length ≠ inputs₂.length ∨ codes inputs₁ = codes inputs₂ := by
  have same := sameLog_iff p commands₁ commands₂
  unfold Identifies
  constructor
  · intro identifies
    by_contra neither
    push Not at neither
    exact neither.2 (identifies (zeroData p) (zeroData p) ((same _ _).mpr neither.1))
  · intro condition d₁ d₂ log
    exact condition.resolve_left fun differ => differ ((same d₁ d₂).mp log)

/-- The sequence of one command with zeros is one of blinker commands. -/
theorem blinkerCommands_single (positive : 0 < N) {code : UInt16} (known : code ∈ blinkerCodes) :
    BlinkerCommands p N [⟨default, zeroCommand p code⟩] := by
  intro i member
  obtain rfl := List.mem_singleton.mp member
  exact ⟨zeroCommand_accepted p positive known, known⟩

/-- The log identifies all sequences over a set of codes exactly when there is at most one. -/
theorem identifies_over_iff (positive : 0 < N) {used : Set UInt16}
    (known : ∀ code ∈ used, code ∈ blinkerCodes) :
    (∀ inputs₁ inputs₂, BlinkerCommands p N inputs₁ → BlinkerCommands p N inputs₂ →
        (∀ code ∈ codes inputs₁, code ∈ used) → (∀ code ∈ codes inputs₂, code ∈ used) →
        Identifies p N inputs₁ inputs₂) ↔
      used.Subsingleton := by
  constructor
  · intro identifies c₁ used₁ c₂ used₂
    have single₁ := blinkerCommands_single p positive (known c₁ used₁)
    have single₂ := blinkerCommands_single p positive (known c₂ used₂)
    have told := identifies _ _ single₁ single₂ (by simpa [codes, zeroCommand] using used₁)
      (by simpa [codes, zeroCommand] using used₂)
    have agree := ((identifies_iff p single₁ single₂).mp told).resolve_left (absurd rfl)
    simpa [codes, zeroCommand] using agree
  · intro single inputs₁ inputs₂ commands₁ commands₂ used₁ used₂
    rw [identifies_iff p commands₁ commands₂]
    by_cases lengths : inputs₁.length = inputs₂.length
    · refine .inr (List.ext_getElem (by simpa using lengths) fun k below₁ below₂ => ?_)
      exact single (used₁ _ (List.getElem_mem below₁)) (used₂ _ (List.getElem_mem below₂))
    · exact .inl lengths

/-- The log identifies two sequences exactly when they differ in length or agree, so it
identifies all sequences over a set of codes exactly when there is at most one. It tells
every accepted message from every rejected one. -/
theorem eventLog_identifies_iff (N : Nat) :
    (∀ inputs₁ inputs₂, BlinkerCommands p N inputs₁ → BlinkerCommands p N inputs₂ →
      (Identifies p N inputs₁ inputs₂ ↔
        inputs₁.length ≠ inputs₂.length ∨ codes inputs₁ = codes inputs₂)) ∧
    (0 < N → ∀ used : Set UInt16, (∀ code ∈ used, code ∈ blinkerCodes) →
      ((∀ inputs₁ inputs₂, BlinkerCommands p N inputs₁ → BlinkerCommands p N inputs₂ →
          (∀ code ∈ codes inputs₁, code ∈ used) → (∀ code ∈ codes inputs₂, code ∈ used) →
          Identifies p N inputs₁ inputs₂) ↔
        used.Subsingleton)) ∧
    ∀ m m' : SbBuffer, Accepted p N m → ¬ Accepted p N m' →
      ∀ (r r' : CfeReplies p) (d d' : Data p N), ∀ id ∈ eventIds (taskPipe p r m d).trace,
        id ∉ eventIds (taskPipe p r' m' d').trace :=
  ⟨fun _ _ commands₁ commands₂ => identifies_iff p commands₁ commands₂,
   fun positive _ known => identifies_over_iff p positive known,
   fun _ _ accepted rejected r r' d d' => eventIds_disjoint p accepted rejected r r' d d'⟩

/-- `RESET_ALL` and `ENABLE_ALL` leave the same log. -/
theorem not_always_identifies :
    ¬ ∀ (N : Nat) (p : Platform) (inputs₁ inputs₂ : List (Input p)), BlinkerCommands p N inputs₁ →
      BlinkerCommands p N inputs₂ → Identifies p N inputs₁ inputs₂ := by
  intro claim
  let p := defaultPlatform
  have reset : BlinkerCommands p 1 [⟨default, zeroCommand p resetAllBlinkersCc⟩] :=
    blinkerCommands_single p (by decide) (by decide)
  have enable : BlinkerCommands p 1 [⟨default, zeroCommand p enableAllBlinkersCc⟩] :=
    blinkerCommands_single p (by decide) (by decide)
  have told := claim 1 p _ _ reset enable (zeroData p) (zeroData p)
  exact absurd (told (by decide)) (by decide)

end BlinkerApp
