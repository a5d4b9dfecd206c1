import BlinkerApp.Model.Main
import BlinkerApp.Proofs.Traces

/-!
# The bytes of a message that are read

The payload bytes read while a message is processed: the fields the handlers read, and the
characters that are formatted for an event.
-/

namespace BlinkerApp

open CLayout CType

variable {N : Nat} (p : Platform) (r : CfeReplies p) (m : SbBuffer) (d : Data p N)

/-! ## Reads -/

/-- Byte `i` of the message is read: with a field, or by the `%s` conversion of an event,
which reads up to and including the first NUL. -/
inductive ByteRead {p : Platform} (trace : List (Obs p N)) (i : Nat) : Prop
  | field (offset width : Nat) (read : .payloadRead offset width ∈ trace) (low : offset ≤ i)
      (high : i < offset + width)
  | string (event : Event) (offset : Nat) (sent : .evsSendEvent event ∈ trace)
      (arg : .msgStr offset ∈ event.args) (reads : StringReads m.memory offset i)

/-- A `DISPLAY_PARAM` command of the right length with no NUL from `ValStr` on. -/
def Unterminated : Prop :=
  WellSized p m .displayParam ∧ ∀ i, valStrOffset p ≤ i → i < m.size → m.memory i ≠ 0

/-! ## Fields -/

/-- The requests of other messages read no field. -/
theorem fields_of_not_cmdMid (notCmd : m.msgId ≠ cmdMid p) {req : Request N}
    (found : parse p N m = some req) {offset width : Nat} :
    .payloadRead offset width ∉ requestTrace p r m d req := by
  rw [parse_of_not_cmdMid p m notCmd] at found
  split at found
  case isTrue =>
    cases found
    intro read
    simp only [requestTrace, handlerTrace, requestEvent, actionTrace, tickCells, List.mem_append,
      List.mem_flatMap, List.mem_cons] at read
    rcases read with (⟨i, -, first | rest⟩ | ending) | last
    · cases first
    · split at rest <;> simp at rest
    · cases ending
    · simp at last
  case isFalse =>
    split at found
    case isTrue =>
      cases found
      simp [requestTrace, handlerTrace, requestEvent, actionTrace]
    case isFalse => cases found

/-- A field that is read lies inside the message. -/
theorem field_inside {offset width : Nat}
    (read : .payloadRead offset width ∈ (taskPipe p r m d).trace) : offset + width ≤ m.size := by
  cases found : parse p N m with
  | some req =>
    rw [taskPipe_of_accepted p r m d found] at read
    by_cases isCmd : m.msgId = cmdMid p
    · rw [(wellSized_of_parse p m isCmd found).2.2]
      rcases mem_requestTrace p r m d read with action | ⟨event, -, other⟩ | other
      · cases action with
        | payloadRead _ _ inside => exact inside
      · cases other
      · cases other
    · exact absurd read (fields_of_not_cmdMid p r m d isCmd found)
  | none =>
    rw [taskPipe_of_rejected p r m d found] at read
    cases mem_rejection p m found read with
    | payloadRead _ inside => exact inside

/-! ## Strings -/

/-- The only characters of a message that are formatted are those of `ValStr`. -/
theorem msgStr_requestEvent {req : Request N} {event : Event}
    (sent : requestEvent p m d req = some event) {offset : Nat}
    (arg : .msgStr offset ∈ event.args) : req = .displayParam ∧ offset = valStrOffset p := by
  cases req <;> cases sent <;> simp [blinkerEvent] at arg
  exact ⟨rfl, arg⟩

theorem msgStr_rejection (why : Rejection) {offset : Nat} :
    .msgStr offset ∉ (why.event p N m).args := by
  cases why with
  | outOfRange h => cases h <;> simp [Rejection.event]
  | _ => simp [Rejection.event, unsignedInt]

/-- Characters of a message are formatted only for a `DISPLAY_PARAM` of the right length. -/
theorem msgStr_taskPipe {event : Event} (sent : .evsSendEvent event ∈ (taskPipe p r m d).trace)
    {offset : Nat} (arg : .msgStr offset ∈ event.args) :
    WellSized p m .displayParam ∧ offset = valStrOffset p := by
  rcases event_taskPipe p r m d sent with ⟨req, found, made⟩ | ⟨-, rfl⟩
  · obtain ⟨rfl, place⟩ := msgStr_requestEvent p m d made arg
    have isCmd := cmdMid_of_parse p m found ⟨nofun, nofun⟩
    exact ⟨wellSized_of_parse p m isCmd found, place⟩
  · exact absurd arg (msgStr_rejection p m _)

theorem valStr_inside : valStrOffset p + stringValLen ≤ (displayParamCmdT p).size := by
  have inside := displayParam_inside p 2 (array uint8 stringValLen) rfl
  have length : (array uint8 stringValLen).size = stringValLen := rfl
  rw [length] at inside
  exact inside

/-- Without a NUL the first byte behind the message is read. -/
theorem byteRead_of_unterminated (unterminated : Unterminated p m) :
    ByteRead m (taskPipe p r m d).trace m.size := by
  obtain ⟨⟨isCmd, code, fits⟩, characters⟩ := unterminated
  have found : parse p N m = some .displayParam := by
    rw [parse_of_cmdMid p m isCmd, code, Option.bind_some, if_pos fits]
    rfl
  have start : valStrOffset p ≤ m.size := by
    have inside := valStr_inside p
    have length : m.size = (displayParamCmdT p).size := fits
    omega
  obtain ⟨event, made, arg⟩ : ∃ event, requestEvent p m d (.displayParam : Request N) = some event ∧
      .msgStr (valStrOffset p) ∈ event.args := ⟨_, rfl, by simp⟩
  have sent : .evsSendEvent event ∈ (taskPipe p r m d).trace := by
    rw [taskPipe_of_accepted p r m d found, requestTrace, handlerTrace, made]
    simp
  exact .string event (valStrOffset p) sent arg ⟨start, characters⟩

/-! ## All reads -/

/-- Every byte that is read lies inside the message, unless the message is a `DISPLAY_PARAM`
whose string does not end. -/
theorem byteRead_inside_iff :
    (∀ i, ByteRead m (taskPipe p r m d).trace i → i < m.size) ↔ ¬ Unterminated p m := by
  constructor
  · intro inside unterminated
    exact Nat.lt_irrefl _ (inside m.size (byteRead_of_unterminated p r m d unterminated))
  · rintro terminated i (⟨offset, width, read, -, high⟩ | ⟨event, offset, sent, arg, reads⟩)
    · exact Nat.lt_of_lt_of_le high (field_inside p r m d read)
    · obtain ⟨sized, rfl⟩ := msgStr_taskPipe p r m d sent arg
      refine (stringReads_lt_iff m.memory (valStrOffset p) m.size).mpr ?_ i reads
      by_contra none
      exact terminated ⟨sized, fun j low high nul => none ⟨j, low, high, nul⟩⟩

/-- The ten characters of `ValStr` need not hold a NUL. -/
theorem not_byteRead_inside :
    ¬ ∀ (N : Nat) (p : Platform) (r : CfeReplies p) (m : SbBuffer) (d : Data p N) (i : Nat),
      ByteRead m (taskPipe p r m d).trace i → i < m.size := by
  intro claim
  let p := defaultPlatform
  let m := groundCommand p displayParamCc (List.replicate 16 0x41)
  have unterminated : Unterminated p m := ⟨⟨by decide, by decide, by decide⟩, by decide⟩
  exact Nat.lt_irrefl _
    (claim 2 p default m (zeroData p) m.size (byteRead_of_unterminated p _ m _ unterminated))

end BlinkerApp
