import BlinkerApp.Misc.Printf
import BlinkerApp.Proofs.Dependence

/-!
# What the texts of the event log tell

The event identifiers do not tell the commands apart, but the texts do: from the texts alone
the events of a run can be read back with all their arguments, and from them which requests
were carried out, on which blinkers, and which messages were rejected.
-/

namespace BlinkerApp

open Traced

variable {N : Nat} (p : Platform)

/-! ## The formats -/

/-- A format of the app, with what its directives ask for, the event it belongs to and the
handler that sends it, unless it rejects a message. -/
structure Format where
  spec : String
  demanded : List (Option Printf.Conversion)
  id : UInt16
  handler : Option Handler

/-- A plain `%d`, `%u`, `%x` or `%X`. -/
abbrev plain (kind : Printf.Kind) : Option Printf.Conversion := some ⟨kind, 0⟩

/-- The formats of the events that answer messages. -/
def formats : List Format :=
  [⟨"BLINKER: NOOP command %s", [none], noopInfEid, some .noop⟩,
   ⟨"BLINKER: RESET command", [], resetInfEid, some .resetCounters⟩,
   ⟨"BLINKER_APP: ValU32=%lu, ValI16=%d, ValStr=%s", [plain .u, plain .d, none], valueInfEid,
     some .displayParam⟩,
   ⟨"BLINKER_APP: All blinkers reset", [], reportSpecBlinkerInfEid, some .resetAll⟩,
   ⟨"BLINKER_APP: All blinkers enabled", [], reportSpecBlinkerInfEid, some .enableAll⟩,
   ⟨"BLINKER_APP: All blinkers disabled", [], reportSpecBlinkerInfEid, some .disableAll⟩,
   ⟨"BLINKER_APP: Blinker #%d count RESET", [plain .d], reportSpecBlinkerInfEid,
     some .resetSpec⟩,
   ⟨"BLINKER_APP: Blinker #%d = %d counts", [plain .d, plain .d], reportSpecBlinkerInfEid,
     some .reportSpec⟩,
   ⟨"BLINKER_APP: Blinker #%d enabled", [plain .d], reportSpecBlinkerInfEid, some .enableSpec⟩,
   ⟨"BLINKER_APP: Blinker #%d disabled", [plain .d], reportSpecBlinkerInfEid,
     some .disableSpec⟩,
   ⟨"BLINKER_APP: Blinker #%d and #%d swapped values (%d <-> %d)",
     [plain .d, plain .d, plain .d, plain .d], reportSpecBlinkerInfEid, some .swapCounts⟩,
   ⟨"BLINKER: invalid command packet,MID = 0x%x", [plain .x], midErrEid, none⟩,
   ⟨"Invalid ground command code: CC = %d", [plain .d], ccErrEid, none⟩,
   ⟨"Invalid Msg length: ID = 0x%X,  CC = %u, Len = %u, Expected = %u",
     [plain .X, plain .u, plain .u, plain .u], cmdLenErrEid, none⟩,
   ⟨"BLINKER_APP: User provided Blinkers #%d and #%d which exceeds the blinkers being tracked (%d)",
     [plain .d, plain .d, plain .d], ccErrEid, none⟩,
   ⟨"BLINKER_APP: User provided Blinker #%d which exceeds the blinkers being tracked (%d)",
     [plain .d, plain .d], ccErrEid, none⟩]

set_option maxRecDepth 4000 in
/-- The formats can be told apart, and ask for what the table says. -/
theorem formats_checked : Printf.Unambiguous (formats.map Format.spec) ∧
    ∀ form ∈ formats, (Printf.pieces form.spec).map Printf.demands = some form.demanded := by
  decide +kernel

theorem format_eq_of_spec {form form' : Format} (member : form ∈ formats)
    (member' : form' ∈ formats) (same : form.spec = form'.spec) : form = form' :=
  List.inj_on_of_nodup_map formats_checked.1.nodup member member' same

/-! ## The text of an event -/

/-- An argument as `printf` gets it, on a machine whose `unsigned long` has `longBits` bits, with
the characters `found` where a pointer into the message points. -/
def Arg.passed (longBits : Nat) (found : Nat → List Char) : Arg → Printf.Arg
  | .int n => .int n
  | .ulong status => .int (status.toInt % 2 ^ longBits)
  | .str text => .str text.toList
  | .msgStr offset => .str (found offset)

/-- The text of an event. -/
def Event.text (longBits : Nat) (found : Nat → List Char) (event : Event) : Option (List Char) :=
  Printf.sprintf event.spec (event.args.map (Arg.passed longBits found))

/-- The event has the format, with arguments that fit it. -/
structure Event.Has (event : Event) (form : Format) : Prop where
  spec : event.spec = form.spec
  id : event.id = form.id
  type : event.type = if form.handler.isSome then .information else .error
  fit : ∀ longBits found,
    List.Forall₂ Printf.Fits form.demanded (event.args.map (Arg.passed longBits found))

/-- The place of an event's format in the table. -/
theorem Event.has_format {event : Event} {handler : Option Handler} (n : Fin 16)
    (spec : event.spec = (formats.get n).spec) (id : event.id = (formats.get n).id)
    (type : event.type = if handler.isSome then .information else .error)
    (sent : (formats.get n).handler = handler)
    (fit : ∀ longBits found, List.Forall₂ Printf.Fits (formats.get n).demanded
      (event.args.map (Arg.passed longBits found))) :
    ∃ form ∈ formats, event.Has form ∧ form.handler = handler :=
  ⟨formats.get n, List.get_mem formats n, ⟨spec, id, by rw [sent]; exact type, fit⟩, sent⟩

theorem requestEvent_has (m : SbBuffer) (d : Data p N) {req : Request N} {event : Event}
    (made : requestEvent p m d req = some event) :
    ∃ form ∈ formats, event.Has form ∧ form.handler = some req.handler := by
  cases req <;> cases made
  case' noop => refine Event.has_format 0 rfl rfl rfl rfl ?_
  case' resetCounters => refine Event.has_format 1 rfl rfl rfl rfl ?_
  case' displayParam => refine Event.has_format 2 rfl rfl rfl rfl ?_
  case' resetAll => refine Event.has_format 3 rfl rfl rfl rfl ?_
  case' enableAll => refine Event.has_format 4 rfl rfl rfl rfl ?_
  case' disableAll => refine Event.has_format 5 rfl rfl rfl rfl ?_
  case' resetSpec => refine Event.has_format 6 rfl rfl rfl rfl ?_
  case' reportSpec => refine Event.has_format 7 rfl rfl rfl rfl ?_
  case' enableSpec => refine Event.has_format 8 rfl rfl rfl rfl ?_
  case' disableSpec => refine Event.has_format 9 rfl rfl rfl rfl ?_
  case' swapCounts => refine Event.has_format 10 rfl rfl rfl rfl ?_
  -- the arguments fit
  all_goals simp [formats, blinkerEvent, Arg.passed, Printf.Fits, Printf.Conversion.Takes]

theorem rejectionEvent_has (m : SbBuffer) (why : Rejection) :
    ∃ form ∈ formats, (why.event p N m).Has form ∧ form.handler = none := by
  cases why with
  | unknownMid =>
    refine Event.has_format 11 rfl rfl rfl rfl ?_
    simp [formats, Rejection.event, Arg.passed, Printf.Fits, Printf.Conversion.Takes]
  | unknownCode =>
    refine Event.has_format 12 rfl rfl rfl rfl ?_
    simp [formats, Rejection.event, Arg.passed, Printf.Fits, Printf.Conversion.Takes]
  | wrongLength expected =>
    refine Event.has_format 13 rfl rfl rfl rfl ?_
    simp [formats, Rejection.event, unsignedInt, Arg.passed, Printf.Fits, Printf.Conversion.Takes]
    omega
  | outOfRange h =>
    cases h with
    | swapCounts =>
      refine Event.has_format 14 rfl rfl rfl rfl ?_
      simp [formats, Rejection.event, Arg.passed, Printf.Fits, Printf.Conversion.Takes]
    | _ =>
      refine Event.has_format 15 rfl rfl rfl rfl ?_
      simp [formats, Rejection.event, Arg.passed, Printf.Fits, Printf.Conversion.Takes]

/-- A rejection sends integers only. -/
theorem rejectionEvent_args (m : SbBuffer) (why : Rejection) :
    ∃ ns : List Int, (why.event p N m).args = ns.map .int := by
  cases why with
  | unknownMid | unknownCode => exact ⟨[_], rfl⟩
  | wrongLength expected => exact ⟨[_, _, _, _], rfl⟩
  | outOfRange h =>
    cases h with
    | swapCounts => exact ⟨[_, _, _], rfl⟩
    | _ => exact ⟨[_, _], rfl⟩

/-! ## The log -/

/-- An event of the log, with what a pointer into its message points to, and the request it
answers, if it does not reject the message. -/
structure LogEntry (N : Nat) where
  event : Event
  found : Nat → List Char
  request : Option (Request N)

/-- The event answers the request, or rejects a message. -/
def LogEntry.Valid (e : LogEntry N) : Prop :=
  match e.request with
  | some req => ∃ m d, requestEvent p m d req = some e.event
  | none => ∃ m, ∃ why : Rejection, e.event = why.event p N m

def LogEntry.text (longBits : Nat) (e : LogEntry N) : Option (List Char) :=
  e.event.text longBits e.found

section Entry

variable {p} {longBits : Nat} {e e' : LogEntry N}

theorem LogEntry.Valid.has (valid : e.Valid p) :
    ∃ form ∈ formats, e.event.Has form ∧ form.handler = e.request.map Request.handler := by
  unfold LogEntry.Valid at valid
  split at valid
  case h_1 req found =>
    obtain ⟨m, d, made⟩ := valid
    rw [found]
    exact requestEvent_has p m d made
  case h_2 found =>
    obtain ⟨m, why, made⟩ := valid
    rw [found, made]
    exact rejectionEvent_has p m why

/-- Two events with the same text have the same format and are given the same arguments. -/
theorem LogEntry.Valid.read (valid : e.Valid p) (valid' : e'.Valid p)
    (same : e.text longBits = e'.text longBits) :
    (∃ form, e.event.Has form ∧ e'.event.Has form) ∧
      e.request.map Request.handler = e'.request.map Request.handler ∧
      e.event.args.map (Arg.passed longBits e.found) =
        e'.event.args.map (Arg.passed longBits e'.found) := by
  obtain ⟨form, member, has, handler⟩ := valid.has
  obtain ⟨form', member', has', handler'⟩ := valid'.has
  have written : (e.text longBits).isSome :=
    Printf.sprintf_isSome (has.spec ▸ formats_checked.2 form member) (has.fit longBits e.found)
  obtain ⟨t, text⟩ := Option.isSome_iff_exists.mp written
  obtain ⟨spec, args⟩ := Printf.sprintf_injective formats_checked.1
    (has.spec ▸ List.mem_map_of_mem member) (has'.spec ▸ List.mem_map_of_mem member')
    text (same ▸ text)
  obtain rfl := format_eq_of_spec member member' (has.spec ▸ has'.spec ▸ spec)
  exact ⟨⟨form, has, has'⟩, handler ▸ handler' ▸ rfl, args⟩

theorem LogEntry.Valid.event_eq_of_rejected (valid : e.Valid p) (valid' : e'.Valid p)
    (rejected : e.request = none) (rejected' : e'.request = none)
    (same : e.text longBits = e'.text longBits) : e.event = e'.event := by
  obtain ⟨⟨form, has, has'⟩, -, args⟩ := valid.read valid' same
  unfold LogEntry.Valid at valid valid'
  rw [rejected] at valid
  rw [rejected'] at valid'
  obtain ⟨m, why, made⟩ := valid
  obtain ⟨m', why', made'⟩ := valid'
  obtain ⟨ns, ints⟩ := rejectionEvent_args p m why
  obtain ⟨ns', ints'⟩ := rejectionEvent_args p m' why'
  rw [← made] at ints
  rw [← made'] at ints'
  rw [ints, ints', List.map_map, List.map_map] at args
  have numbers : ns = ns' := List.map_injective_iff.mpr
    (fun _ _ same => Printf.Arg.int.inj same) args
  have sameArgs : e.event.args = e'.event.args := by rw [ints, ints', numbers]
  have alike : (e.event.id, e.event.type, e.event.spec, e.event.args) =
      (e'.event.id, e'.event.type, e'.event.spec, e'.event.args) := by
    rw [has.id, has'.id, has.type, has'.type, has.spec, has'.spec, sameArgs]
  exact congrArg (fun (id, type, spec, args) => Event.mk id type spec args) alike

/-- A request is answered by one event only, its counts apart. -/
theorem requestEvent_eq_of_args {m m' : SbBuffer} {d d' : Data p N} {req req' : Request N}
    {event event' : Event} (made : requestEvent p m d req = some event)
    (made' : requestEvent p m' d' req' = some event') (same : req.handler = req'.handler)
    {found found' : Nat → List Char}
    (args : event.args.map (Arg.passed longBits found) =
      event'.args.map (Arg.passed longBits found')) : event = event' ∧ req = req' := by
  cases req <;> cases req' <;> cases same <;> cases made <;> cases made'
  case noop | resetCounters | resetAll | enableAll | disableAll => exact ⟨rfl, rfl⟩
  case displayParam =>
    simp only
      [List.map_cons, List.map_nil, Arg.passed, List.cons.injEq, Printf.Arg.int.injEq] at args
    rw [args.1, args.2.1]
    exact ⟨rfl, rfl⟩
  case resetSpec k k' | enableSpec k k' | disableSpec k k' =>
    simp only [blinkerEvent, List.map_cons, List.map_nil, Arg.passed, List.cons.injEq,
      Printf.Arg.int.injEq, Int.natCast_inj, and_true] at args
    obtain rfl := Fin.ext args
    exact ⟨rfl, rfl⟩
  case reportSpec k k' =>
    simp only [blinkerEvent, List.map_cons, List.map_nil, Arg.passed, List.cons.injEq,
      Printf.Arg.int.injEq, Int.natCast_inj, and_true] at args
    obtain rfl := Fin.ext args.1
    rw [args.2]
    exact ⟨rfl, rfl⟩
  case swapCounts a b a' b' =>
    simp only [blinkerEvent, List.map_cons, List.map_nil, Arg.passed, List.cons.injEq,
      Printf.Arg.int.injEq, Int.natCast_inj, and_true] at args
    obtain rfl := Fin.ext args.1
    obtain rfl := Fin.ext args.2.1
    rw [args.2.2.1, args.2.2.2]
    exact ⟨rfl, rfl⟩

/-- The text of an event determines it, and what it answers. -/
theorem LogEntry.Valid.eq_of_text (valid : e.Valid p) (valid' : e'.Valid p)
    (same : e.text longBits = e'.text longBits) : e.event = e'.event ∧ e.request = e'.request := by
  obtain ⟨-, handlers, args⟩ := valid.read valid' same
  cases answers : e.request with
  | none =>
    have none' : e'.request = none := by
      rw [answers] at handlers
      exact Option.map_eq_none_iff.mp handlers.symm
    exact ⟨valid.event_eq_of_rejected valid' answers none' same, none'.symm⟩
  | some req =>
    cases answers' : e'.request with
    | none =>
      rw [answers, answers'] at handlers
      cases handlers
    | some req' =>
      unfold LogEntry.Valid at valid valid'
      rw [answers] at valid handlers
      rw [answers'] at valid' handlers
      obtain ⟨m, d, made⟩ := valid
      obtain ⟨m', d', made'⟩ := valid'
      obtain ⟨events, requests⟩ :=
        requestEvent_eq_of_args made made' (Option.some.inj handlers) args
      exact ⟨events, congrArg some requests⟩

end Entry

/-! ## Runs -/

/-- The texts of the events of a run, in which a pointer into a message points to what `found`
says. -/
def eventTexts (longBits : Nat) (found : Input p → Nat → List Char) :
    List (Input p) → Data p N → List (Option (List Char))
  | [], _ => []
  | i :: inputs, d =>
      ((handle N p i d).trace.filterMap Obs.event?).map (Event.text longBits (found i)) ++
        eventTexts longBits found inputs (handle N p i d).state

variable (N) in
/-- What the log tells of a message, if it is one that is logged: the request that was carried
out, or that it was rejected. -/
def logged (i : Input p) : Option (Option (Request N)) :=
  match parse p N i.buffer with
  | some .sendHk | some .blink | some .process => none
  | outcome => some outcome

def logEntry (found : Nat → List Char) (i : Input p) (d : Data p N) : Option (LogEntry N) :=
  match parse p N i.buffer with
  | some req => (requestEvent p i.buffer d req).map (⟨·, found, some req⟩)
  | none => some ⟨(rejectionOf p i.buffer).event p N i.buffer, found, none⟩

/-- The log of a run. -/
def logEntries (found : Input p → Nat → List Char) : List (Input p) → Data p N → List (LogEntry N)
  | [], _ => []
  | i :: inputs, d =>
      (logEntry p (found i) i d).toList ++ logEntries found inputs (handle N p i d).state

section Runs

variable {p} (found : Input p → Nat → List Char)

theorem logEntry_valid {found : Nat → List Char} {i : Input p} {d : Data p N} {e : LogEntry N}
    (made : logEntry p found i d = some e) : e.Valid p := by
  unfold logEntry at made
  split at made
  case h_1 req _ =>
    obtain ⟨event, answered, rfl⟩ := Option.map_eq_some_iff.mp made
    exact ⟨_, _, answered⟩
  case h_2 =>
    cases made
    exact ⟨_, _, rfl⟩

theorem valid_of_mem_logEntries {inputs : List (Input p)} {d : Data p N} {e : LogEntry N}
    (member : e ∈ logEntries p found inputs d) : e.Valid p := by
  induction inputs generalizing d with
  | nil => cases member
  | cons i inputs ih =>
    rcases List.mem_append.mp member with here | later
    · exact logEntry_valid (Option.mem_toList.mp here)
    · exact ih later

theorem handle_events (found : Nat → List Char) (i : Input p) (d : Data p N) :
    (handle N p i d).trace.filterMap Obs.event? =
      (logEntry p found i d).toList.map LogEntry.event := by
  unfold logEntry
  cases parsed : parse p N i.buffer with
  | some req =>
    rw [handle_of_accepted p parsed]
    show (requestTrace p i.replies i.buffer d req).filterMap Obs.event? = _
    rw [events_requestTrace]
    dsimp only
    generalize requestEvent p i.buffer d req = answer
    cases answer <;> rfl
  | none =>
    rw [handle_of_rejected p parsed]
    exact events_rejection p i.buffer _

theorem logged_eq (found : Nat → List Char) (i : Input p) (d : Data p N) :
    (logged N p i).toList = (logEntry p found i d).toList.map LogEntry.request := by
  unfold logEntry logged
  cases parse p N i.buffer with
  | some req => cases req <;> rfl
  | none => rfl

theorem handle_texts (longBits : Nat) (found : Nat → List Char) (i : Input p) (d : Data p N) :
    ((handle N p i d).trace.filterMap Obs.event?).map (Event.text longBits found) =
      (logEntry p found i d).toList.map (LogEntry.text longBits) := by
  rw [handle_events found, List.map_map]
  refine List.map_congr_left fun e member => ?_
  have made := Option.mem_toList.mp member
  have points : e.found = found := by
    unfold logEntry at made
    split at made
    · obtain ⟨event, -, rfl⟩ := Option.map_eq_some_iff.mp made
      rfl
    · cases made
      rfl
  exact congrArg (e.event.text longBits) points.symm

/-- What is read off the log is read off the run. -/
theorem logEntries_spec (longBits : Nat) (inputs : List (Input p)) (d : Data p N) :
    (logEntries p found inputs d).map (LogEntry.text longBits) =
        eventTexts p longBits found inputs d ∧
      (logEntries p found inputs d).map LogEntry.event =
        (runTaskPipe p inputs d).trace.filterMap Obs.event? ∧
      (logEntries p found inputs d).map LogEntry.request = inputs.filterMap (logged N p) := by
  induction inputs generalizing d with
  | nil => exact ⟨rfl, rfl, rfl⟩
  | cons i inputs ih =>
    obtain ⟨texts, events, requests⟩ := ih (handle N p i d).state
    refine ⟨?_, ?_, ?_⟩
    · rw [logEntries, eventTexts, List.map_append, texts, handle_texts]
    · rw [logEntries, List.map_append, events, ← handle_events (found i), runTaskPipe_cons,
        Outcome.prepend_trace, List.filterMap_append]
      rfl
    · rw [logEntries, List.map_append, requests, ← logged_eq (found i), List.filterMap_cons]
      cases logged N p i <;> rfl

end Runs

/-- What one function tells of the entries of two lists, another does that depends on it. -/
theorem map_eq_of_map_eq {α β γ : Type} {f : α → β} {g : α → γ} {l l' : List α}
    (depends : ∀ a ∈ l, ∀ a' ∈ l', f a = f a' → g a = g a') (same : l.map f = l'.map f) :
    l.map g = l'.map g := by
  induction l generalizing l' with
  | nil => rw [List.map_eq_nil_iff.mp same.symm]
  | cons a l ih =>
    cases l' with
    | nil => cases same
    | cons a' l' =>
      obtain ⟨here, later⟩ := List.cons_eq_cons.mp same
      have rest := ih (fun b member b' member' => depends b (List.mem_cons_of_mem a member) b'
        (List.mem_cons_of_mem a' member')) later
      rw [List.map_cons, List.map_cons, rest,
        depends a List.mem_cons_self a' List.mem_cons_self here]

variable {p}

/-- Two runs from any states that log the same texts send the same events, with the same
arguments, and answer the same requests, with the same rejections between them. -/
theorem eventTexts_injective {longBits : Nat} {found found' : Input p → Nat → List Char}
    {inputs inputs' : List (Input p)} {d d' : Data p N}
    (same : eventTexts p longBits found inputs d = eventTexts p longBits found' inputs' d') :
    (runTaskPipe p inputs d).trace.filterMap Obs.event? =
        (runTaskPipe p inputs' d').trace.filterMap Obs.event? ∧
      inputs.filterMap (logged N p) = inputs'.filterMap (logged N p) := by
  obtain ⟨texts, events, requests⟩ := logEntries_spec found longBits inputs d
  obtain ⟨texts', events', requests'⟩ := logEntries_spec found' longBits inputs' d'
  rw [← texts, ← texts'] at same
  have read (e : LogEntry N) (member : e ∈ logEntries p found inputs d) (e' : LogEntry N)
      (member' : e' ∈ logEntries p found' inputs' d')
      (text : e.text longBits = e'.text longBits) :=
    (valid_of_mem_logEntries found member).eq_of_text (valid_of_mem_logEntries found' member') text
  rw [← events, ← events', ← requests, ← requests']
  exact ⟨map_eq_of_map_eq (fun e member e' member' text => (read e member e' member' text).1) same,
    map_eq_of_map_eq (fun e member e' member' text => (read e member e' member' text).2) same⟩

/-- A tick between two commands is not logged. -/
theorem eventTexts_injective_tick :
    let p := defaultPlatform
    let enable : Input p := ⟨default, groundCommand p enableSpecBlinkerCc [0, 0, 0, 0]⟩
    let tick : Input p := ⟨default, bareMessage p (blinkCmdMid p)⟩
    let noop : Input p := ⟨default, groundCommand p noopCc []⟩
    [enable, tick, noop].filterMap (logged 1 p) = [enable, noop].filterMap (logged 1 p) := by
  intro p enable tick noop
  have enableFound : parse p 1 enable.buffer = some (.enableSpec 0) := by decide
  have tickFound : parse p 1 tick.buffer = some .blink := by decide
  have noopFound : parse p 1 noop.buffer = some .noop := by decide
  have same (d : Data p 1) : eventTexts p 64 (fun _ _ => []) [enable, tick, noop] d =
      eventTexts p 64 (fun _ _ => []) [enable, noop] d := by
    rw [← (logEntries_spec _ _ _ _).1, ← (logEntries_spec _ _ _ _).1]
    simp only [logEntries, logEntry, enableFound, tickFound, noopFound, requestEvent]
    rfl
  exact (eventTexts_injective (same (zeroData p))).2

end BlinkerApp
