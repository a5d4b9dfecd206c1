import BlinkerApp.Misc.Tally
import BlinkerApp.Proofs.HkPacket
import BlinkerApp.Proofs.MainRefinement

/-!
# The telemetry of a whole run

Every housekeeping packet the program sends, in closed form: the no-ops and the commands of a
wrong length since the last reset of the counters, both modulo 256, behind a header that is
handed on from packet to packet by the bus. The arrays stay zero.
-/

namespace BlinkerApp

open Traced CLayout CType

variable {N : Nat} (p : Platform)

/-! ## The counters -/

/-- A ground command of a defined code that does not have the length of its struct. -/
def wrongLength (m : SbBuffer) : Bool :=
  m.msgId = cmdMid p && (commandOf m.fcnCode).any fun h => m.size ≠ (structOf p h).size

variable (N) in
/-- The message resets the counters. -/
def resetsCounters (i : Input p) : Bool := parse p N i.buffer = some .resetCounters

variable (N) in
/-- The no-ops executed since the last reset of the counters. -/
def noopsShown (inputs : List (Input p)) : Nat :=
  tally (resetsCounters N p) (fun i => parse p N i.buffer = some .noop) inputs

variable (N) in
/-- The commands of a wrong length since the last reset of the counters. -/
def lengthErrorsShown (inputs : List (Input p)) : Nat :=
  tally (resetsCounters N p) (fun i => wrongLength p i.buffer) inputs

theorem not_wrongLength_of_parse {m : SbBuffer} {req : Request N}
    (found : parse p N m = some req) : wrongLength p m = false := by
  unfold wrongLength
  by_cases isCmd : m.msgId = cmdMid p
  · obtain ⟨-, code, fits⟩ := wellSized_of_parse p m isCmd found
    simp [code, fits]
  · simp [isCmd]

/-- A rejected message is counted exactly when its length is wrong. -/
theorem rejectionOf_counted (m : SbBuffer) (d : Data p N) :
    (rejectionOf p m).effect d =
      if wrongLength p m then { d with errCounter := d.errCounter + 1 } else d := by
  unfold rejectionOf wrongLength
  by_cases isCmd : m.msgId = cmdMid p
  · cases code : commandOf m.fcnCode with
    | none => simp [isCmd, Rejection.effect]
    | some h => by_cases fits : m.size = (structOf p h).size <;> simp
      [isCmd, fits, Rejection.effect]
  · simp [isCmd, Rejection.effect]

theorem taskPipe_cmdCounter (i : Input p) (d : Data p N) :
    (taskPipe p i.replies i.buffer d).state.cmdCounter =
      if resetsCounters N p i then 0
      else if decide (parse p N i.buffer = some .noop) then d.cmdCounter + 1 else d.cmdCounter := by
  unfold resetsCounters
  cases found : parse p N i.buffer with
  | some req =>
    rw [taskPipe_of_accepted p _ _ d found]
    cases req <;> rfl
  | none =>
    rw [taskPipe_of_rejected p _ _ d found]
    cases rejectionOf p i.buffer <;> rfl

theorem taskPipe_errCounter (i : Input p) (d : Data p N) :
    (taskPipe p i.replies i.buffer d).state.errCounter =
      if resetsCounters N p i then 0
      else if wrongLength p i.buffer then d.errCounter + 1 else d.errCounter := by
  unfold resetsCounters
  cases found : parse p N i.buffer with
  | some req =>
    rw [taskPipe_of_accepted p _ _ d found, not_wrongLength_of_parse p found]
    cases req <;> rfl
  | none =>
    rw [taskPipe_of_rejected p _ _ d found, rejectionOf_counted]
    cases wrongLength p i.buffer <;> rfl

/-- The counters after any messages. -/
theorem counters_run {d : Data p N} (cmd : d.cmdCounter = 0) (err : d.errCounter = 0)
    (inputs : List (Input p)) :
    (runTaskPipe p inputs d).state.cmdCounter = UInt8.ofNat (noopsShown N p inputs) ∧
      (runTaskPipe p inputs d).state.errCounter = UInt8.ofNat (lengthErrorsShown N p inputs) :=
  ⟨(each_tally (taskPipe_cmdCounter p) cmd inputs).trans (UInt8.iterate_succ _),
    (each_tally (taskPipe_errCounter p) err inputs).trans (UInt8.iterate_succ _)⟩

/-! ## The packets -/

/-- The header after the requests among the messages, each of which goes through the bus. -/
def headerAfter (inputs : List (Input p)) (header : TelemetryHeader p) : TelemetryHeader p :=
  inputs.foldl (fun header i =>
    if i.buffer.msgId = sendHkMid p then i.replies.stamp header else header) header

theorem parse_sendHk_iff (m : SbBuffer) : parse p N m = some .sendHk ↔ m.msgId = sendHkMid p := by
  refine ⟨fun found => ?_, parse_sendHk p⟩
  have belongs := handlerOf_of_parse p m found
  unfold handlerOf at belongs
  split at belongs
  · cases belongs
  split at belongs
  case isTrue isHk => exact isHk
  case isFalse =>
    split at belongs
    case isTrue => exact absurd rfl (handler_ne_of_commandOf belongs).1
    case isFalse => cases belongs

/-- Only a request changes the packet. -/
theorem taskPipe_hkTlm (i : Input p) (d : Data p N) :
    (taskPipe p i.replies i.buffer d).state.hkTlm =
      if i.buffer.msgId = sendHkMid p then d.refreshHk i.replies else d.hkTlm := by
  by_cases isHk : i.buffer.msgId = sendHkMid p
  · rw [if_pos isHk, (sendHk_apply p i.replies isHk d).1]
  · rw [if_neg isHk]
    cases found : parse p N i.buffer with
    | some req =>
      rw [taskPipe_of_accepted p _ _ d found]
      cases req with
      | sendHk => exact absurd ((parse_sendHk_iff p _).mp found) isHk
      | _ => rfl
    | none =>
      rw [taskPipe_of_rejected p _ _ d found]
      cases rejectionOf p i.buffer <;> rfl

theorem taskPipe_header (i : Input p) (d : Data p N) :
    (taskPipe p i.replies i.buffer d).state.hkTlm.telemetryHeader =
      headerAfter p [i] d.hkTlm.telemetryHeader := by
  rw [taskPipe_hkTlm]
  show _ = if i.buffer.msgId = sendHkMid p then _ else _
  split <;> rfl

theorem runTaskPipe_header (inputs : List (Input p)) (d : Data p N) :
    (runTaskPipe p inputs d).state.hkTlm.telemetryHeader =
      headerAfter p inputs d.hkTlm.telemetryHeader := by
  induction inputs generalizing d with
  | nil => rfl
  | cons i inputs ih =>
    rw [runTaskPipe_cons, Outcome.prepend_state, ih, taskPipe_header]
    rfl

/-- The packet a request is answered with after the messages `before`. -/
def packetShown (N : Nat) (header : TelemetryHeader p) (before : List (Input p))
    (r : CfeReplies p) : HkTlm p N where
  telemetryHeader := r.stamp (headerAfter p before header)
  payload :=
    { commandErrorCounter := (UInt8.ofNat (lengthErrorsShown N p before)).toUInt16
      commandCounter := (UInt8.ofNat (noopsShown N p before)).toUInt16
      blinkerStatus := .replicate N 0
      blinkerCount := .replicate N 0 }

theorem run_packetBlank_of_blank {d : Data p N} (blank : d.PacketBlank) (inputs : List (Input p)) :
    (runTaskPipe p inputs d).state.PacketBlank :=
  each_invariant (fun i _ _ => taskPipe_packetBlank p i.replies i.buffer) blank

/-- Only a request transmits. -/
theorem transmitted_actionTrace (r : CfeReplies p) (d : Data p N) {req : Request N}
    (other : req ≠ .sendHk) : (actionTrace p r d req).filterMap Obs.transmitted? = [] := by
  cases req with
  | sendHk => exact absurd rfl other
  | blink =>
    apply List.filterMap_eq_nil_iff.mpr
    intro e member
    obtain ⟨i, -, touched⟩ := List.mem_flatMap.mp member
    unfold tickCells at touched
    split at touched <;>
      simp only [List.mem_cons, List.not_mem_nil, or_false, or_self] at touched
    · rcases touched with rfl | rfl <;> rfl
    · rw [touched]
      rfl
  | process =>
    simp only [actionTrace, processTrace]
    by_cases failed : r.getAddress < cfeSuccess
    · rw [if_pos failed]
      rfl
    · rw [if_neg failed]
      by_cases gotInfo : r.getInfo = cfeSuccess <;>
        by_cases released : r.releaseAddress = cfeSuccess <;>
          simp [gotInfo, released, Obs.transmitted?]
  | resetAll | enableAll | disableAll =>
    apply List.filterMap_eq_nil_iff.mpr
    intro e member
    obtain ⟨i, -, rfl⟩ := List.mem_map.mp member
    rfl
  | _ => rfl

theorem taskPipe_transmitted (i : Input p) (d : Data p N) :
    (taskPipe p i.replies i.buffer d).trace.filterMap Obs.transmitted? =
      if i.buffer.msgId = sendHkMid p then [d.refreshHk i.replies] else [] := by
  by_cases isHk : i.buffer.msgId = sendHkMid p
  · rw [if_pos isHk, (sendHk_apply p i.replies isHk d).2]
  rw [if_neg isHk]
  cases found : parse p N i.buffer with
  | some req =>
    have other : req ≠ .sendHk := by
      rintro rfl
      exact isHk ((parse_sendHk_iff p _).mp found)
    rw [taskPipe_of_accepted p _ _ d found, requestTrace, handlerTrace, List.filterMap_append,
      List.filterMap_append, transmitted_actionTrace p _ d other]
    cases requestEvent p i.buffer d req <;> rfl
  | none =>
    rw [taskPipe_of_rejected p _ _ d found]
    apply List.filterMap_eq_nil_iff.mpr
    intro e member
    cases mem_rejection p i.buffer found member <;> rfl

/-- The packets a run transmits, from a state with zero counters and a blank packet. -/
theorem runTaskPipe_transmitted {d : Data p N} (cmd : d.cmdCounter = 0) (err : d.errCounter = 0)
    (blank : d.PacketBlank) (inputs : List (Input p)) :
    (runTaskPipe p inputs d).trace.filterMap Obs.transmitted? =
      (positions inputs).filterMap fun e =>
        if e.2.buffer.msgId = sendHkMid p then
          some (packetShown p N d.hkTlm.telemetryHeader e.1 e.2.replies)
        else none := by
  rw [runTaskPipe, each_facet, List.filterMap_eq_flatMap_toList]
  apply congrArg (List.flatMap · _)
  funext ⟨before, i⟩
  rw [taskPipe_transmitted]
  by_cases isHk : i.buffer.msgId = sendHkMid p
  · have counters := counters_run p cmd err before
    have arrays := run_packetBlank_of_blank p blank before
    have header := runTaskPipe_header p before d
    rw [if_pos isHk, if_pos isHk, Option.toList_some]
    unfold Data.refreshHk packetShown
    rw [← header, ← counters.1, ← counters.2, ← arrays.1, ← arrays.2]
    rfl
  · rw [if_neg isHk, if_neg isHk]
    rfl

/-- `BLINKER_APP_Main` transmits what the run over its messages transmits. -/
theorem main_transmitted_run (a : InitReplies p) (its : List (Iteration p)) (d₀ : Data p N) :
    (main p a its d₀).trace.filterMap Obs.transmitted? =
      (runTaskPipe p (handed p a N its) (initState p a)).trace.filterMap Obs.transmitted? := by
  have ofLoop : ∀ e : Obs p N, e.inner = false → e.transmitted? = none := by
    intro e outer
    cases e <;> first | rfl | cases outer
  have ofInit : ∀ e : Obs p N, InitObs p e → e.transmitted? = none := by
    intro e seen
    cases seen <;> rfl
  exact main_facet p a ofLoop ofInit its d₀

/-- The packets `BLINKER_APP_Main` transmits. -/
theorem main_transmitted (a : InitReplies p) (its : List (Iteration p)) (d₀ : Data p N) :
    (main p a its d₀).trace.filterMap Obs.transmitted? =
      (positions (handed p a N its)).filterMap fun e =>
        if e.2.buffer.msgId = sendHkMid p then
          some (packetShown p N (initState p a : Data p N).hkTlm.telemetryHeader e.1 e.2.replies)
        else none := by
  have blank : (initState p a : Data p N).PacketBlank := ⟨by simp, by simp⟩
  rw [main_transmitted_run, runTaskPipe_transmitted p (by simp) (by simp) blank]

/-! ## The bytes of a packet -/

/-- What a receiver reads through the C struct. -/
def HkTlmPayload.decode (N : Nat) (order : ByteOrder) (bytes : Nat → UInt8) : HkTlmPayload N :=
  let loadAt (i shift width : Nat) :=
    load order bytes (offsetof (hkTlmPayloadFields N) i + shift) width
  { commandErrorCounter := UInt16.ofNat (loadAt 0 0 2)
    commandCounter := UInt16.ofNat (loadAt 1 0 2)
    blinkerStatus := .ofFn fun k => UInt8.ofNat (loadAt 2 k 1)
    blinkerCount := .ofFn fun k => UInt32.ofNat (loadAt 3 (4 * k) 4) }

theorem HkTlmPayload.decode_bytes (order : ByteOrder) (memory : Nat → UInt8)
    (payload : HkTlmPayload N) : decode N order (payload.bytes order memory) = payload := by
  obtain ⟨err, cmd, cells⟩ := payload.read_back order memory
  rw [payload.types] at err cmd cells
  have status (k : Fin N) := (cells k).1
  have count (k : Fin N) := (cells k).2
  unfold decode
  simp only [err, cmd, status, count, UInt16.ofNat_toNat, UInt8.ofNat_toNat, UInt32.ofNat_toNat]
  congr
  · exact Cells.ext_get fun k => Vector.getElem_ofFn k.isLt
  · exact Cells.ext_get fun k => Vector.getElem_ofFn k.isLt

/-- The telemetry of `BLINKER_APP_Main`, as a receiver reads it through the C struct in either
byte order: for each housekeeping request one packet, with the no-ops and the commands of a
wrong length since the last reset of the counters, and with arrays of zeros. -/
theorem main_telemetry (a : InitReplies p) (its : List (Iteration p)) (d₀ : Data p N)
    (order : ByteOrder) (memory : Nat → UInt8) :
    ((main p a its d₀).trace.filterMap Obs.transmitted?).map (fun packet : HkTlm p N =>
        ({ packet with
          payload := .decode N order (packet.payload.bytes order memory) } : HkTlm p N)) =
      (positions (handed p a N its)).filterMap fun e =>
        if e.2.buffer.msgId = sendHkMid p then
          some (packetShown p N (initState p a : Data p N).hkTlm.telemetryHeader e.1 e.2.replies)
        else none := by
  rw [main_transmitted]
  simp only [HkTlmPayload.decode_bytes]
  exact List.map_id _

end BlinkerApp
