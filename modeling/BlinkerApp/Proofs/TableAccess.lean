import BlinkerApp.Misc.Custody
import BlinkerApp.Proofs.Traces

/-!
# Table addresses

`BLINKER_APP_ProcessCmd` takes the address of the table and gives it back on every path
on which it got it, so that no address is held between two messages.
-/

namespace BlinkerApp

open Traced Custody

variable {p : Platform} {N : Nat} (r : CfeReplies p)

/-! ## Calls about addresses -/

/-- A request for an address that fails takes nothing; a release gives the address back
whatever its status. -/
def Obs.transfer? : Obs p N → Option (Transfer TblHandle)
  | .tblGetAddress handle status => if status < cfeSuccess then none else some (.take handle)
  | .tblReleaseAddress handle _ => some (.giveBack handle)
  | _ => none

def Obs.getAddress? : Obs p N → Option (TblHandle × CfeStatus)
  | .tblGetAddress handle status => some (handle, status)
  | _ => none

def Obs.releaseAddress? : Obs p N → Option (TblHandle × CfeStatus)
  | .tblReleaseAddress handle status => some (handle, status)
  | _ => none

def Obs.isTableRead : Obs p N → Bool
  | .tableRead .. => true
  | _ => false

/-- The table is read while its address is held and managed while none is, and only an
address that is held is released. -/
def TableRule (held : List TblHandle) : Obs p N → Prop
  | .tableRead .. => held ≠ []
  | .tblManage _ => held = []
  | .tblReleaseAddress handle _ => handle ∈ held
  | _ => True

/-- The processing of a message executes `BLINKER_APP_ProcessCmd`. -/
def ExecutesProcess (trace : List (Obs p N)) : Prop :=
  ∃ status, .handled .process status ∈ trace

/-- A process command on the table `handle`: one request for the address, and then either
nothing but its status, or a release of the same handle after the last read. -/
structure ProcessCall (handle : TblHandle) (trace : List (Obs p N)) : Prop where
  got : trace.filterMap Obs.getAddress? = [(handle, r.getAddress)]
  failed : r.getAddress < cfeSuccess →
    trace.filterMap Obs.releaseAddress? = [] ∧ (∀ e ∈ trace, e.isTableRead = false) ∧
      trace.filterMap Obs.handled? = [(.process, some r.getAddress)]
  released : cfeSuccess ≤ r.getAddress →
    trace.filterMap Obs.releaseAddress? = [(handle, r.releaseAddress)]
  bracketed : cfeSuccess ≤ r.getAddress → ∃ before between after,
    trace = before ++ .tblGetAddress handle r.getAddress ::
      (between ++ .tblReleaseAddress handle r.releaseAddress :: after) ∧
    ∀ e ∈ before ++ after, e.isTableRead = false
  status : cfeSuccess ≤ r.getAddress → ∃ status,
    trace.filterMap Obs.handled? = [(.process, some status)] ∧
      (status = cfeSuccess ↔ r.releaseAddress = cfeSuccess)

/-! ## The process command -/

/-- What the command does with the table while it holds its address. -/
def tableUse : List (Obs p N) :=
  [.tableRead r.tableInt1 r.tableInt2,
   .esWriteToSysLog "Blinker App: Example Table Value 1: %d  Value 2: %d"
     [.int r.tableInt1.toNat, .int r.tableInt2.toNat],
   .tblGetInfo "BLINKER_APP.ExampleTable" r.getInfo,
   if r.getInfo ≠ cfeSuccess then
     .esWriteToSysLog "Blinker App: Error Getting Example Table Info" []
   else
     .esWriteToSysLog "Blinker App: CRC: 0x%08lX\n\n" [.int r.crc.toNat]]

/-- What the command logs about the release. -/
def releaseReport : List (Obs p N) :=
  if r.releaseAddress ≠ cfeSuccess then
    [.esWriteToSysLog "Blinker App: Fail to release table address: 0x%08lx"
      [.ulong r.releaseAddress]]
  else []

theorem processTrace_failed (handle : TblHandle) (failed : r.getAddress < cfeSuccess) :
    (processTrace r handle : List (Obs p N)) =
      [.tblGetAddress handle r.getAddress,
       .esWriteToSysLog "Blinker App: Fail to get table address: 0x%08lx"
         [.ulong r.getAddress]] := by
  unfold processTrace
  rw [if_pos failed]

theorem processTrace_served (handle : TblHandle) (served : ¬ r.getAddress < cfeSuccess) :
    (processTrace r handle : List (Obs p N)) = .tblGetAddress handle r.getAddress ::
      (tableUse r ++ .tblReleaseAddress handle r.releaseAddress :: releaseReport r) := by
  unfold processTrace
  rw [if_neg served]
  rfl

/-- Neither the use nor the report is about an address. -/
theorem tableUse_still : ∀ e ∈ (tableUse r : List (Obs p N)),
    e.getAddress? = none ∧ e.releaseAddress? = none ∧ e.handled? = none ∧ e.transfer? = none := by
  intro e member
  simp only [tableUse, List.mem_cons, List.not_mem_nil, or_false] at member
  rcases member with rfl | rfl | rfl | rfl
  · exact ⟨rfl, rfl, rfl, rfl⟩
  · exact ⟨rfl, rfl, rfl, rfl⟩
  · exact ⟨rfl, rfl, rfl, rfl⟩
  · split <;> exact ⟨rfl, rfl, rfl, rfl⟩

theorem mem_releaseReport {e : Obs p N} (member : e ∈ releaseReport r) :
    ∃ spec args, e = .esWriteToSysLog spec args := by
  unfold releaseReport at member
  split at member
  · exact ⟨_, _, List.mem_singleton.mp member⟩
  · cases member

/-- A facet that neither the use nor the report has is that of the two calls. -/
theorem filterMap_served {α : Type} (facet : Obs p N → Option α) (handle : TblHandle)
    (last : Obs p N) (use : ∀ e ∈ tableUse r, facet e = none)
    (line : ∀ spec args, facet (.esWriteToSysLog spec args) = none) :
    (.tblGetAddress handle r.getAddress :: (tableUse r ++
        .tblReleaseAddress handle r.releaseAddress ::
          (releaseReport r ++ [last]))).filterMap facet =
      [.tblGetAddress handle r.getAddress, .tblReleaseAddress handle r.releaseAddress,
        last].filterMap facet := by
  have report : (releaseReport r).filterMap facet = [] := by
    apply List.filterMap_eq_nil_iff.mpr
    intro e member
    obtain ⟨spec, args, rfl⟩ := mem_releaseReport r member
    exact line spec args
  have used : (tableUse r).filterMap facet = [] := List.filterMap_eq_nil_iff.mpr use
  simp only [List.filterMap_cons, List.filterMap_append, used, report, List.nil_append]

theorem processCall_failed (handle : TblHandle) (failed : r.getAddress < cfeSuccess) :
    ProcessCall r handle
      (processTrace r handle ++ [.handled .process (some (processStatus r))] : List (Obs p N)) := by
  have status : processStatus r = r.getAddress := if_pos failed
  have absurdly {P : Prop} (served : cfeSuccess ≤ r.getAddress) : P :=
    absurd failed (Int32.not_lt.mpr served)
  rw [processTrace_failed r handle failed, status]
  constructor
  case got => rfl
  case failed =>
    intro _
    refine ⟨rfl, ?_, rfl⟩
    intro e member
    simp only [List.cons_append, List.nil_append, List.mem_cons, List.not_mem_nil,
      or_false] at member
    rcases member with rfl | rfl | rfl <;> rfl
  all_goals exact absurdly

theorem processCall_served (handle : TblHandle) (served : ¬ r.getAddress < cfeSuccess) :
    ProcessCall r handle
      (processTrace r handle ++ [.handled .process (some (processStatus r))] : List (Obs p N)) := by
  rw [processTrace_served r handle served, List.cons_append, List.append_assoc, List.cons_append]
  constructor
  case got =>
    rw [filterMap_served r _ handle _ (fun e member => (tableUse_still r e member).1)
      fun _ _ => rfl]
    rfl
  case failed => exact fun failed => absurd failed served
  case released =>
    intro _
    rw [filterMap_served r _ handle _ (fun e member => (tableUse_still r e member).2.1)
      fun _ _ => rfl]
    rfl
  case bracketed =>
    intro _
    refine ⟨[], tableUse r, releaseReport r ++ [.handled .process (some (processStatus r))],
      rfl, ?_⟩
    intro e member
    rw [List.nil_append] at member
    rcases List.mem_append.mp member with report | last
    · obtain ⟨spec, args, rfl⟩ := mem_releaseReport r report
      rfl
    · rw [List.mem_singleton.mp last]
      rfl
  case status =>
    intro _
    refine ⟨processStatus r, ?_, by rw [processStatus, if_neg served]⟩
    rw [filterMap_served r _ handle _ (fun e member => (tableUse_still r e member).2.2.1)
      fun _ _ => rfl]
    rfl

/-- The command on either path. -/
theorem processCall (m : SbBuffer) (d : Data p N) :
    ProcessCall r (d.tblHandles.get exampleTable) (requestTrace p r m d .process) := by
  have shape : requestTrace p r m d .process = processTrace r (d.tblHandles.get exampleTable) ++
      [.handled .process (some (processStatus r))] :=
    congrArg (· ++ _) (List.append_nil _)
  rw [shape]
  by_cases failed : r.getAddress < cfeSuccess
  · exact processCall_failed r _ failed
  · exact processCall_served r _ failed

theorem parse_process_iff (m : SbBuffer) :
    parse p N m = some .process ↔ WellSized p m .process := by
  constructor
  · intro found
    exact wellSized_of_parse p m (cmdMid_of_parse p m found ⟨nofun, nofun⟩) found
  · rintro ⟨isCmd, code, fits⟩
    rw [parse_of_cmdMid p m isCmd, code, Option.bind_some, if_pos fits]
    rfl

/-- The messages whose processing executes the command are the process requests. -/
theorem executesProcess_iff (m : SbBuffer) (d : Data p N) :
    ExecutesProcess (taskPipe p r m d).trace ↔ parse p N m = some .process := by
  have place (trace : List (Obs p N)) : ExecutesProcess trace ↔
      ∃ status, (.process, status) ∈ trace.filterMap Obs.handled? := by
    apply exists_congr
    intro status
    rw [List.mem_filterMap]
    constructor
    · intro member
      exact ⟨_, member, rfl⟩
    · rintro ⟨e, member, called⟩
      cases e <;> cases called
      exact member
  rw [place]
  cases found : parse p N m with
  | some req =>
    rw [taskPipe_of_accepted p r m d found, handled_requestTrace]
    cases req <;> simp [Request.handler]
  | none =>
    rw [taskPipe_of_rejected p r m d found, handled_rejection]
    cases why : rejectionOf p m with
    | outOfRange h =>
      have checked := rangeChecked_of_outOfRange p m found why
      cases h <;> simp [Handler.rangeChecked] at checked ⊢
    | _ => simp

/-! ## Custody -/

theorem settled_tableUse (handle : TblHandle) :
    Settled Obs.transfer? TableRule [handle] (tableUse r : List (Obs p N)) := by
  apply settled_of_still
  intro e member
  refine ⟨(tableUse_still r e member).2.2.2, ?_⟩
  simp only [tableUse, List.mem_cons, List.not_mem_nil, or_false] at member
  rcases member with rfl | rfl | rfl | rfl
  · exact List.cons_ne_nil handle []
  · trivial
  · trivial
  · split <;> trivial

theorem settled_releaseReport :
    Settled Obs.transfer? TableRule [] (releaseReport r : List (Obs p N)) := by
  apply settled_of_still
  intro e member
  obtain ⟨spec, args, rfl⟩ := mem_releaseReport r member
  exact ⟨rfl, trivial⟩

theorem settled_processTrace (handle : TblHandle) :
    Settled Obs.transfer? TableRule [] (processTrace r handle : List (Obs p N)) := by
  by_cases failed : r.getAddress < cfeSuccess
  · rw [processTrace_failed r handle failed]
    apply settled_of_still
    intro e member
    simp only [List.mem_cons, List.not_mem_nil, or_false] at member
    rcases member with rfl | rfl
    · exact ⟨if_pos failed, trivial⟩
    · exact ⟨rfl, trivial⟩
  · have taken : (Obs.tblGetAddress handle r.getAddress : Obs p N).transfer? =
        some (.take handle) := if_neg failed
    have bracket : Settled Obs.transfer? TableRule [] (.tblGetAddress handle r.getAddress ::
        (tableUse r ++ [.tblReleaseAddress handle r.releaseAddress] : List (Obs p N))) :=
      settled_bracket taken rfl trivial List.mem_cons_self (settled_tableUse r handle)
    rw [processTrace_served r handle failed]
    simpa using bracket.append (settled_releaseReport r)

/-- No other request transfers an address, and all of them may be carried out while none
is held. -/
theorem mem_actionTrace_other (d : Data p N) {req : Request N} (other : req ≠ .process)
    {e : Obs p N} (member : e ∈ actionTrace p r d req) : e.transfer? = none ∧ TableRule [] e := by
  cases req with
  | process => exact absurd rfl other
  | sendHk =>
    simp only [actionTrace, List.mem_cons, List.not_mem_nil, or_false] at member
    rcases member with rfl | rfl | rfl
    · exact ⟨rfl, trivial⟩
    · exact ⟨rfl, trivial⟩
    · exact ⟨rfl, rfl⟩
  | blink =>
    obtain ⟨i, -, touched⟩ := List.mem_flatMap.mp member
    rcases List.mem_cons.mp touched with rfl | counted
    · exact ⟨rfl, trivial⟩
    · split at counted
      · simp only [List.mem_cons, List.not_mem_nil, or_false, or_self] at counted
        exact counted ▸ ⟨rfl, trivial⟩
      · cases counted
  | noop | resetCounters => cases member
  | resetAll | enableAll | disableAll =>
    obtain ⟨i, -, rfl⟩ := List.mem_map.mp member
    exact ⟨rfl, trivial⟩
  | _ =>
    simp only [actionTrace, List.mem_cons, List.not_mem_nil, or_false] at member
    rcases member with rfl | rfl | rfl | rfl | rfl | rfl | rfl | rfl <;> exact ⟨rfl, trivial⟩

theorem settled_actionTrace (d : Data p N) (req : Request N) :
    Settled Obs.transfer? TableRule [] (actionTrace p r d req) := by
  by_cases isProcess : req = .process
  · subst isProcess
    exact settled_processTrace r _
  · apply settled_of_still
    intro e member
    exact mem_actionTrace_other r d isProcess member

/-- Processing a message gives back the addresses it takes. -/
theorem settled_taskPipe (m : SbBuffer) (d : Data p N) :
    Settled Obs.transfer? TableRule [] (taskPipe p r m d).trace := by
  cases found : parse p N m with
  | some req =>
    have ending : Settled Obs.transfer? TableRule []
        ((requestEvent p m d req).toList.map Obs.evsSendEvent ++
          [Obs.handled req.handler (handlerStatus r req)] : List (Obs p N)) := by
      apply settled_of_still
      intro e member
      rcases List.mem_append.mp member with event | last
      · obtain ⟨event, -, rfl⟩ := List.mem_map.mp event
        exact ⟨rfl, trivial⟩
      · rw [List.mem_singleton.mp last]
        exact ⟨rfl, trivial⟩
    rw [taskPipe_of_accepted p r m d found, requestTrace, handlerTrace, List.append_assoc]
    exact (settled_actionTrace r d req).append ending
  | none =>
    rw [taskPipe_of_rejected p r m d found]
    apply settled_of_still
    intro e member
    cases mem_rejection p m found member <;> exact ⟨rfl, trivial⟩

theorem settled_runTaskPipe (inputs : List (Input p)) (d : Data p N) :
    Settled Obs.transfer? TableRule [] (runTaskPipe p inputs d).trace :=
  settled_each (fun i _ s => settled_taskPipe i.replies i.buffer s) d

/-- In every run, the process command is executed for exactly the messages that ask for it with
the right length, it takes the address once and gives it back exactly when it got it, no address
is held between two messages, and the tables are managed only then. -/
theorem tableAddress_discipline (inputs : List (Input p)) (d : Data p N) :
    (∀ before i after, inputs = before ++ i :: after →
      let s := (runTaskPipe p before d).state
      let trace := (taskPipe p i.replies i.buffer s).trace
      (ExecutesProcess trace ↔ WellSized p i.buffer .process) ∧
        (ExecutesProcess trace → ProcessCall i.replies (s.tblHandles.get exampleTable) trace)) ∧
    (∀ before, before <+: inputs →
      heldAfter Obs.transfer? [] (runTaskPipe p before d).trace = []) ∧
    Obeys Obs.transfer? TableRule [] (runTaskPipe p inputs d).trace := by
  refine ⟨?_, ?_, (settled_runTaskPipe inputs d).obeys⟩
  · intro before i after _ s trace
    have executes := executesProcess_iff i.replies i.buffer s
    refine ⟨executes.trans (parse_process_iff i.buffer), fun executed => ?_⟩
    have found := executes.mp executed
    show ProcessCall i.replies _ (taskPipe p i.replies i.buffer s).trace
    rw [taskPipe_of_accepted p i.replies i.buffer s found]
    exact processCall i.replies i.buffer s
  · intro before _
    exact (settled_runTaskPipe before d).balanced

end BlinkerApp
