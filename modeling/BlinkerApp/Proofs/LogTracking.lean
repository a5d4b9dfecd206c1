import BlinkerApp.Proofs.EventTexts

/-!
# What can be followed from the event log

The statuses of the blinkers and the two counters change only with messages that are logged, so
they can be followed from the texts of the log, without the telemetry and without knowing when
the ticks came.
-/

namespace BlinkerApp

open Traced Cells

variable {N : Nat} {p : Platform}

/-- The part of the data that the log gives away. -/
structure Outline (N : Nat) where
  cmdCounter : UInt8
  errCounter : UInt8
  blinkerStatuses : Vector UInt8 N

def Data.outline (d : Data p N) : Outline N := ⟨d.cmdCounter, d.errCounter, d.blinkerStatuses⟩

namespace Outline

/-- What a logged request does. -/
def carryOut (o : Outline N) : Request N → Outline N
  | .noop => { o with cmdCounter := o.cmdCounter + 1 }
  | .resetCounters => { o with cmdCounter := 0, errCounter := 0 }
  | .enableAll => { o with
      blinkerStatuses := changeBelow o.blinkerStatuses (loopBound N) fun _ _ => 1 }
  | .disableAll => { o with
      blinkerStatuses := changeBelow o.blinkerStatuses (loopBound N) fun _ _ => 0 }
  | .enableSpec k => { o with blinkerStatuses := o.blinkerStatuses.set k 1 k.isLt }
  | .disableSpec k => { o with blinkerStatuses := o.blinkerStatuses.set k 0 k.isLt }
  | _ => o

/-- What an entry of the log tells. Only the rejections for a wrong length are counted. -/
def follow (o : Outline N) (e : LogEntry N) : Outline N :=
  match e.request with
  | some req => o.carryOut req
  | none => if e.event.id = cmdLenErrEid then { o with errCounter := o.errCounter + 1 } else o

/-- An entry tells no more than its event and its request. -/
theorem follow_congr {e e' : LogEntry N} (event : e.event = e'.event)
    (request : e.request = e'.request) (o : Outline N) : o.follow e = o.follow e' := by
  rw [follow, follow, event, request]

end Outline

/-! ## One message -/

/-- A request that is not logged leaves the outline as it is. -/
theorem outline_effect_of_silent {m : SbBuffer} {d : Data p N} {req : Request N}
    (silent : requestEvent p m d req = none) (r : CfeReplies p) :
    (effect r d req).outline = d.outline := by
  cases req with
  | sendHk | blink | process => rfl
  | _ => cases silent

theorem outline_effect (r : CfeReplies p) (d : Data p N) (req : Request N) :
    (effect r d req).outline = d.outline.carryOut req := by
  cases req <;> rfl

theorem outline_rejection (m : SbBuffer) (d : Data p N) (why : Rejection) :
    (why.effect d).outline = if (why.event p N m).id = cmdLenErrEid then
      { d.outline with errCounter := d.outline.errCounter + 1 } else d.outline := by
  cases why with
  | outOfRange h => cases h <;> rfl
  | _ => rfl

/-- A message changes the outline as its entry of the log tells. -/
theorem outline_handle (found : Nat → List Char) (i : Input p) (d : Data p N) :
    (handle N p i d).state.outline =
      (logEntry p found i d).toList.foldl Outline.follow d.outline := by
  unfold logEntry
  cases parsed : parse p N i.buffer with
  | some req =>
    rw [handle_of_accepted p parsed]
    dsimp only
    cases answer : requestEvent p i.buffer d req with
    | some event => exact outline_effect i.replies d req
    | none => exact outline_effect_of_silent answer i.replies
  | none =>
    rw [handle_of_rejected p parsed]
    exact outline_rejection i.buffer d (rejectionOf p i.buffer)

/-! ## Runs -/

theorem outline_run (found : Input p → Nat → List Char) (inputs : List (Input p)) (d : Data p N) :
    (runTaskPipe p inputs d).state.outline =
      (logEntries p found inputs d).foldl Outline.follow d.outline := by
  induction inputs generalizing d with
  | nil => rfl
  | cons i inputs ih =>
    rw [runTaskPipe_cons, Outcome.prepend_state, logEntries, List.foldl_append,
      ← outline_handle (found i)]
    exact ih (handle N p i d).state

/-- Who knows the statuses and the counters at the start and reads the texts of the log knows
them at the end. -/
theorem eventTexts_track {longBits : Nat} {found found' : Input p → Nat → List Char}
    {inputs inputs' : List (Input p)} {d d' : Data p N} (start : d.outline = d'.outline)
    (same : eventTexts p longBits found inputs d = eventTexts p longBits found' inputs' d') :
    (runTaskPipe p inputs d).state.outline = (runTaskPipe p inputs' d').state.outline := by
  rw [← (logEntries_spec found longBits inputs d).1,
    ← (logEntries_spec found' longBits inputs' d').1] at same
  have read := map_eq_of_map_eq (g := fun e : LogEntry N => fun o : Outline N => o.follow e)
    (fun e member e' member' text => by
      obtain ⟨event, request⟩ := (valid_of_mem_logEntries found member).eq_of_text
        (valid_of_mem_logEntries found' member') text
      exact funext (Outline.follow_congr event request)) same
  have replay (entries : List (LogEntry N)) (o : Outline N) :
      entries.foldl Outline.follow o =
        (entries.map fun e => fun o : Outline N => o.follow e).foldl (fun o f => f o) o := by
    rw [List.foldl_map]
  rw [outline_run found, outline_run found', replay, replay, read, start]

/-- A log with one command, that a tick came before or after. -/
theorem eventTexts_track_tick :
    let p := defaultPlatform
    let enable : Input p := ⟨default, groundCommand p enableSpecBlinkerCc [0, 0, 0, 0]⟩
    let tick : Input p := ⟨default, bareMessage p (blinkCmdMid p)⟩
    (runTaskPipe p [enable, tick] (zeroData p : Data p 1)).state.outline =
      (runTaskPipe p [tick, enable] (zeroData p : Data p 1)).state.outline := by
  intro p enable tick
  have enableFound : parse p 1 enable.buffer = some (.enableSpec 0) := by decide
  have tickFound : parse p 1 tick.buffer = some .blink := by decide
  have same (d : Data p 1) : eventTexts p 64 (fun _ _ => []) [enable, tick] d =
      eventTexts p 64 (fun _ _ => []) [tick, enable] d := by
    rw [← (logEntries_spec _ _ _ _).1, ← (logEntries_spec _ _ _ _).1]
    simp only [logEntries, logEntry, enableFound, tickFound, requestEvent]
    rfl
  exact eventTexts_track rfl (same (zeroData p))

end BlinkerApp
