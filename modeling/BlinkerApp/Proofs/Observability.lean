import BlinkerApp.Proofs.Blinkers
import BlinkerApp.Proofs.CommandFormat
import BlinkerApp.Proofs.Housekeeping

/-!
# What can be seen of the state

Two states are told apart from outside by some run of `BLINKER_APP_TaskPipe`, with any answers
of the cFE, exactly when they differ in a counter, in the packet that is sent with the next
counters, in the table handle, or in the count of a blinker that a command can name or in
whether it is on. `BLINKER_APP_Main` shows the cFE its run status and its command pipe besides,
and a header shows only through a bus that keeps some of it.
-/

namespace BlinkerApp

open Traced Cells

variable {N : Nat} (p : Platform)

/-- What is seen outside the app: the calls to the cFE. -/
def Obs.shown? {p : Platform} (e : Obs p N) : Option (Obs p N) :=
  match e with
  | .taskPipe _ | .handled .. | .cellAccess .. | .payloadRead .. | .tableRead .. => none
  | e => some e

/-- What is seen of a run. -/
def shownOf (inputs : List (Input p)) (d : Data p N) : List (Obs p N) :=
  (runTaskPipe p inputs d).trace.filterMap Obs.shown?

/-- The two states agree on all that can be seen. -/
structure Alike {p : Platform} (d d' : Data p N) : Prop where
  cmdCounter : d.cmdCounter = d'.cmdCounter
  errCounter : d.errCounter = d'.errCounter
  header : d.hkTlm.telemetryHeader = d'.hkTlm.telemetryHeader
  blinkerStatus : d.hkTlm.payload.blinkerStatus = d'.hkTlm.payload.blinkerStatus
  blinkerCount : d.hkTlm.payload.blinkerCount = d'.hkTlm.payload.blinkerCount
  tblHandle : d.tblHandles.get exampleTable = d'.tblHandles.get exampleTable
  count : ∀ k : Fin N, k.val < 2 ^ 16 → d.blinkerCounts.get k = d'.blinkerCounts.get k
  off : ∀ k : Fin N, k.val < 2 ^ 16 →
    (d.blinkerStatuses.get k = 0 ↔ d'.blinkerStatuses.get k = 0)

/-! ## Alike states -/

section Alike

variable {p} {d d' : Data p N}

theorem Alike.refreshHk (alike : Alike d d') (r : CfeReplies p) :
    d.refreshHk r = d'.refreshHk r := by
  simp only [Data.refreshHk, alike.cmdCounter, alike.errCounter, alike.header,
    alike.blinkerStatus, alike.blinkerCount]

/-- A request that names blinkers by 16 bits leads from alike states to alike states. -/
theorem Alike.effect (alike : Alike d d') (r : CfeReplies p) {req : Request N}
    (numbered : ∀ k ∈ req.numbers, k.val < 2 ^ 16) : Alike (effect r d req) (effect r d' req) := by
  cases req with
  | sendHk =>
    have same := alike.refreshHk r
    exact { alike with
      header := congrArg HkTlm.telemetryHeader same
      blinkerStatus := alike.blinkerStatus
      blinkerCount := alike.blinkerCount }
  | blink =>
    refine { alike with count := fun k small => ?_ }
    simp only [BlinkerApp.effect, get_changeBelow, alike.count k small, ne_eq, alike.off k small]
  | noop => exact { alike with cmdCounter := congrArg (· + 1) alike.cmdCounter }
  | resetCounters => exact { alike with cmdCounter := rfl, errCounter := rfl }
  | resetAll =>
    refine { alike with count := fun k small => ?_ }
    simp only [BlinkerApp.effect, get_changeBelow, alike.count k small]
  | enableAll | disableAll =>
    refine { alike with off := fun k small => ?_ }
    simp only [BlinkerApp.effect, get_changeBelow]
    split
    · exact Iff.rfl
    · exact alike.off k small
  | resetSpec j =>
    refine { alike with count := fun k small => ?_ }
    simp only [BlinkerApp.effect, get_set, alike.count k small]
  | enableSpec j | disableSpec j =>
    refine { alike with off := fun k small => ?_ }
    simp only [BlinkerApp.effect, get_set]
    split
    · exact Iff.rfl
    · exact alike.off k small
  | swapCounts a b =>
    refine { alike with count := fun k small => ?_ }
    have carried : (Equiv.swap a b k).val < 2 ^ 16 := by
      rw [Equiv.swap_apply_def]
      split
      · exact numbered b (by simp [Request.numbers])
      · split
        · exact numbered a (by simp [Request.numbers])
        · exact small
    simp only [BlinkerApp.effect, get_swap, alike.count _ carried]
  | process | displayParam | reportSpec k => exact alike

theorem Alike.rejection (alike : Alike d d') (why : Rejection) :
    Alike (why.effect d) (why.effect d') := by
  cases why with
  | wrongLength expected => exact { alike with errCounter := congrArg (· + 1) alike.errCounter }
  | _ => exact alike

/-- A tick touches cells only. -/
theorem shown_ticks {p : Platform} (d : Data p N) :
    ((List.range N).flatMap (tickCells d)).filterMap Obs.shown? = [] := by
  apply List.filterMap_eq_nil_iff.mpr
  intro e member
  obtain ⟨i, -, touched⟩ := List.mem_flatMap.mp member
  unfold tickCells at touched
  split at touched <;> simp only [List.mem_cons, List.not_mem_nil, or_false, or_self] at touched
  · rcases touched with rfl | rfl <;> rfl
  · rw [touched]
    rfl

theorem shown_tick (r : CfeReplies p) (m : SbBuffer) (d : Data p N) :
    (requestTrace p r m d .blink).filterMap Obs.shown? = [] := by
  show (((List.range N).flatMap (tickCells d) ++ []) ++ [_]).filterMap Obs.shown? = []
  rw [List.append_nil, List.filterMap_append, shown_ticks]
  rfl

/-- Carrying out a request shows the same in alike states. -/
theorem Alike.shown (alike : Alike d d') (r : CfeReplies p) (m : SbBuffer) {req : Request N}
    (numbered : ∀ k ∈ req.numbers, k.val < 2 ^ 16) :
    (requestTrace p r m d req).filterMap Obs.shown? =
      (requestTrace p r m d' req).filterMap Obs.shown? := by
  cases req with
  | sendHk =>
    simp only [requestTrace, handlerTrace, actionTrace, alike.refreshHk r, alike.tblHandle]
    rfl
  | blink => rw [shown_tick, shown_tick]
  | process => simp only [requestTrace, handlerTrace, actionTrace, alike.tblHandle]; rfl
  | reportSpec k =>
    have same := alike.count k (numbered k (by simp [Request.numbers]))
    simp only [requestTrace, handlerTrace, requestEvent, same]
    rfl
  | swapCounts a b =>
    have first := alike.count a (numbered a (by simp [Request.numbers]))
    have second := alike.count b (numbered b (by simp [Request.numbers]))
    simp only [requestTrace, handlerTrace, requestEvent, first, second]
    rfl
  | _ => rfl

/-- One message shows the same in alike states, and leaves alike states. -/
theorem Alike.taskPipe (alike : Alike d d') (i : Input p) :
    (taskPipe p i.replies i.buffer d).trace.filterMap Obs.shown? =
        (taskPipe p i.replies i.buffer d').trace.filterMap Obs.shown? ∧
      Alike (taskPipe p i.replies i.buffer d).state (taskPipe p i.replies i.buffer d').state := by
  cases found : parse p N i.buffer with
  | some req =>
    have numbered := numbered_of_parse found
    rw [taskPipe_of_accepted p _ _ d found, taskPipe_of_accepted p _ _ d' found]
    exact ⟨alike.shown i.replies i.buffer numbered, alike.effect i.replies numbered⟩
  | none =>
    rw [taskPipe_of_rejected p _ _ d found, taskPipe_of_rejected p _ _ d' found]
    exact ⟨rfl, alike.rejection _⟩

/-- Alike states cannot be told apart. -/
theorem Alike.shownOf (alike : Alike d d') (inputs : List (Input p)) :
    shownOf p inputs d = shownOf p inputs d' :=
  each_simulation (fun i _ _ same => (Alike.taskPipe same i).1)
    (fun i _ _ same => (Alike.taskPipe same i).2) inputs alike

end Alike

/-! ## Telling states apart -/

section Apart

variable {p} {d d' : Data p N} (same : ∀ inputs, shownOf p inputs d = shownOf p inputs d')

include same

/-- A report tells the counts apart. -/
theorem count_of_shown (k : Fin N) (small : k.val < 2 ^ 16) :
    d.blinkerCounts.get k = d'.blinkerCounts.get k := by
  have numbered : ∀ j ∈ (Request.reportSpec k).numbers, j.val < 2 ^ 16 := by
    simpa [Request.numbers] using small
  obtain ⟨m, found⟩ := exists_message p numbered
  have reported (d : Data p N) : shownOf p [⟨default, m⟩] d =
      [.evsSendEvent (blinkerEvent "BLINKER_APP: Blinker #%d = %d counts"
        [.int k, .int (d.blinkerCounts.get k).toNat])] := by
    show ((taskPipe p default m d).trace ++ []).filterMap Obs.shown? = _
    rw [taskPipe_of_accepted p default m d found]
    rfl
  have events := same [⟨default, m⟩]
  rw [reported, reported] at events
  simp only [blinkerEvent, List.cons.injEq, Obs.evsSendEvent.injEq, Event.mk.injEq, Arg.int.injEq,
    true_and, and_true, Int.natCast_inj] at events
  exact UInt16.toNat_inj.mp events

/-- A tick shows nothing by itself. -/
theorem shown_after_tick (inputs : List (Input p)) :
    shownOf p inputs (effect default d .blink) = shownOf p inputs (effect default d' .blink) := by
  have ticked (d : Data p N) :
      shownOf p (⟨default, bareMessage p (blinkCmdMid p)⟩ :: inputs) d =
        shownOf p inputs (effect default d .blink) := by
    unfold shownOf
    rw [runTaskPipe_cons, taskPipe_of_accepted p _ _ d (parse_blink p), Outcome.prepend_trace,
      List.filterMap_append, shown_tick, List.nil_append]
  rw [← ticked, ← ticked]
  exact same _

/-- A report after a tick tells an enabled blinker from a disabled one. -/
theorem off_of_shown (k : Fin N) (small : k.val < 2 ^ 16) :
    d.blinkerStatuses.get k = 0 ↔ d'.blinkerStatuses.get k = 0 := by
  have before := count_of_shown same k small
  have after := count_of_shown (shown_after_tick same) k small
  simp only [effect, get_changeBelow, k.isLt, if_true, before] at after
  have moves := UInt16.add_one_ne (d'.blinkerCounts.get k)
  grind

/-- A housekeeping request on a bus that leaves the header alone shows the rest. -/
theorem packet_of_shown : d.cmdCounter = d'.cmdCounter ∧ d.errCounter = d'.errCounter ∧
    d.hkTlm.telemetryHeader = d'.hkTlm.telemetryHeader ∧
    d.hkTlm.payload.blinkerStatus = d'.hkTlm.payload.blinkerStatus ∧
    d.hkTlm.payload.blinkerCount = d'.hkTlm.payload.blinkerCount ∧
    d.tblHandles.get exampleTable = d'.tblHandles.get exampleTable := by
  let r : CfeReplies p := { (default : CfeReplies p) with timeStamp := id, sequenceCount := id }
  have requested (d : Data p N) : shownOf p [⟨r, bareMessage p (sendHkMid p)⟩] d =
      [.sbTimeStampMsg, .sbTransmitMsg (d.refreshHk r) true,
        .tblManage (d.tblHandles.get exampleTable)] := by
    show ((taskPipe p r _ d).trace ++ []).filterMap Obs.shown? = _
    rw [taskPipe_of_accepted p r _ d (parse_sendHk p rfl)]
    rfl
  have seen := same [⟨r, bareMessage p (sendHkMid p)⟩]
  rw [requested, requested] at seen
  simp only [List.cons.injEq, Obs.sbTransmitMsg.injEq, Obs.tblManage.injEq, Data.refreshHk,
    HkTlm.mk.injEq, HkTlmPayload.mk.injEq, true_and, and_true] at seen
  obtain ⟨⟨header, err, cmd, status, count⟩, handle⟩ := seen
  have wide {a b : UInt8} (equal : a.toUInt16 = b.toUInt16) : a = b := by
    rw [← UInt8.toNat_inj, ← UInt8.toNat_toUInt16, equal, UInt8.toNat_toUInt16]
  exact ⟨wide cmd, wide err, header, status, count, handle⟩

end Apart

/-- Two states cannot be told apart by any run of `BLINKER_APP_TaskPipe`, whatever the cFE
answers in it, exactly when they are alike. -/
theorem shownOf_eq_iff (d d' : Data p N) :
    (∀ inputs, shownOf p inputs d = shownOf p inputs d') ↔ Alike d d' := by
  constructor
  · intro same
    obtain ⟨cmd, err, header, status, count, handle⟩ := packet_of_shown same
    exact ⟨cmd, err, header, status, count, handle, count_of_shown same, off_of_shown same⟩
  · exact fun alike inputs => alike.shownOf inputs

end BlinkerApp
