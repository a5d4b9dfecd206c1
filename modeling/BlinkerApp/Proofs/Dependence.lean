import BlinkerApp.Misc.BankClash
import BlinkerApp.Misc.Interleaving
import BlinkerApp.Proofs.HkTelemetry
import BlinkerApp.Proofs.Observability

/-!
# Which messages depend on each other

For any two messages, whether the order in which they are handled can ever show: in any field
of the data, or in any call to the cFE made for either of them. It is decided by the two
messages alone. What the cFE answers while a message is handled belongs to that message, and is
moved with it.
-/

namespace BlinkerApp

open Traced Cells

variable {N : Nat} (p : Platform)

/-! ## What a message does to the counters -/

/-- What a message does to the counters and the packet. -/
inductive Booking where
  | nothing
  | command
  | error
  | clear
  | publish (stamp : TelemetryHeader p → TelemetryHeader p)

variable (N) in
def bookingOf (i : Input p) : Booking p :=
  match parse p N i.buffer with
  | some .noop => .command
  | some .resetCounters => .clear
  | some .sendHk => .publish i.replies.stamp
  | some _ => .nothing
  | none => if wrongLength p i.buffer then .error else .nothing

/-- The data after a message, the blinkers apart. -/
def Data.book {p : Platform} (d : Data p N) : Booking p → Data p N
  | .nothing => d
  | .command => { d with cmdCounter := d.cmdCounter + 1 }
  | .error => { d with errCounter := d.errCounter + 1 }
  | .clear => { d with cmdCounter := 0, errCounter := 0 }
  | .publish stamp => { d with hkTlm :=
      { telemetryHeader := stamp d.hkTlm.telemetryHeader
        payload := { d.hkTlm.payload with
          commandErrorCounter := d.errCounter.toUInt16
          commandCounter := d.cmdCounter.toUInt16 } } }

/-- The order of the two shows in the counters or in a packet. -/
def Booking.Clash {p : Platform} : Booking p → Booking p → Prop
  | .command, .clear | .clear, .command | .error, .clear | .clear, .error
  | .command, .publish _ | .publish _, .command | .error, .publish _ | .publish _, .error
  | .clear, .publish _ | .publish _, .clear => True
  | .publish stamp, .publish stamp' =>
      ¬ ∀ header, stamp header = stamp' header ∧ stamp (stamp header) = stamp header
  | _, _ => False

/-! ## Dependence -/

/-- The blinkers whose counts the request reports. -/
def Request.reported : Request N → Set (Fin N)
  | .reportSpec k => {k}
  | .swapCounts a b => {a, b}
  | _ => ∅

variable (N) in
/-- The blinkers whose counts are reported for a message. -/
def reported (i : Input p) : Set (Fin N) :=
    {k | ∃ req, parse p N i.buffer = some req ∧ k ∈ req.reported}

variable (N) in
/-- The blinkers whose counts a message can change. -/
def changed (i : Input p) : Set (Fin N) := Bank.changes (bankOp p N i.buffer)

variable (N) in
/-- The order of the two messages shows in some state. -/
def Depends (i j : Input p) : Prop :=
  Bank.Clash (bankOp p N i.buffer) (bankOp p N j.buffer) ∨
  (∃ k ∈ reported N p i, k ∈ changed N p j) ∨ (∃ k ∈ reported N p j, k ∈ changed N p i) ∨
  (bookingOf N p i).Clash (bookingOf N p j)

variable (N) in
/-- `BLINKER_APP_TaskPipe` as a step of a run. -/
def handle (i : Input p) : App p N Unit := taskPipe p i.replies i.buffer

theorem Booking.Clash.symm {p : Platform} {b b' : Booking p} (clash : b.Clash b') : b'.Clash b := by
  cases b <;> cases b' <;> try exact clash
  intro same
  refine clash fun header => ?_
  have first := (same header).1
  exact ⟨first.symm, by rw [← first, ← (same _).1, (same header).2]⟩

theorem Depends.symm {i j : Input p} (depends : Depends N p i j) : Depends N p j i := by
  rcases depends with blinkers | first | second | counters
  · exact .inl blinkers.symm
  · exact .inr (.inr (.inl first))
  · exact .inr (.inl second)
  · exact .inr (.inr (.inr counters.symm))

/-! ## One message -/

theorem handle_of_accepted {i : Input p} {req : Request N} (found : parse p N i.buffer = some req)
    (d : Data p N) :
    handle N p i d = ⟨(), effect i.replies d req, requestTrace p i.replies i.buffer d req⟩ :=
  taskPipe_of_accepted p i.replies i.buffer d found

theorem handle_of_rejected {i : Input p} (found : parse p N i.buffer = none) (d : Data p N) :
    handle N p i d =
      ⟨(), (rejectionOf p i.buffer).effect d, (rejectionOf p i.buffer).trace p i.buffer⟩ :=
  taskPipe_of_rejected p i.replies i.buffer d found

theorem handle_bank (i : Input p) (d : Data p N) :
    (handle N p i d).state.bank = d.bank.step (bankOp p N i.buffer) :=
  taskPipe_bank p i.replies i.buffer d

/-- The blinkers aside, a message books itself. -/
theorem handle_state (i : Input p) (d : Data p N) :
    (handle N p i d).state = { d.book (bookingOf N p i) with
      blinkerCounts := (handle N p i d).state.blinkerCounts
      blinkerStatuses := (handle N p i d).state.blinkerStatuses } := by
  unfold bookingOf
  cases found : parse p N i.buffer with
  | some req =>
    rw [handle_of_accepted p found]
    cases req <;> rfl
  | none =>
    rw [handle_of_rejected p found, rejectionOf_counted]
    cases wrongLength p i.buffer <;> rfl

/-- A status stands as the message sets it. -/
theorem handle_status (i : Input p) (d : Data p N) (k : Fin N) :
    (handle N p i d).state.blinkerStatuses.get k =
      ((Bank.setting k (bankOp p N i.buffer)).map fun on => if on then 1 else 0).getD
        (d.blinkerStatuses.get k) := by
  unfold bankOp
  cases found : parse p N i.buffer with
  | some req =>
    rw [handle_of_accepted p found]
    cases req with
    | enableAll | disableAll =>
      simp only [effect, get_changeBelow, Option.map_some, Option.getD_some, Request.bankOp,
        Bank.setting, Set.mem_ofPred_eq]
      split <;> rfl
    | enableSpec j | disableSpec j =>
      simp only [effect, get_set, Option.map_some, Option.getD_some, Request.bankOp,
        Bank.setting, Set.mem_singleton_iff, @eq_comm _ k j]
      split <;> rfl
    | _ => rfl
  | none =>
    rw [handle_of_rejected p found]
    cases rejectionOf p i.buffer <;> rfl

theorem handle_count_of_not_changed {i : Input p} {k : Fin N} (kept : k ∉ changed N p i)
    (d : Data p N) : (handle N p i d).state.blinkerCounts.get k = d.blinkerCounts.get k := by
  show (handle N p i d).state.bank.count k = d.bank.count k
  rw [handle_bank]
  exact Bank.step_count_of_not_changes kept d.bank

/-- The data without the blinkers. -/
def Data.aside {p : Platform} (d : Data p N) : Data p N :=
  { d with blinkerCounts := .replicate N 0, blinkerStatuses := .replicate N 0 }

theorem aside_handle (i : Input p) (d : Data p N) :
    (handle N p i d).state.aside = d.aside.book (bookingOf N p i) := by
  rw [handle_state]
  cases bookingOf N p i <;> rfl

theorem Data.ext_aside {p : Platform} {d d' : Data p N}
    (counts : ∀ k : Fin N, d.blinkerCounts.get k = d'.blinkerCounts.get k)
    (statuses : ∀ k : Fin N, d.blinkerStatuses.get k = d'.blinkerStatuses.get k)
    (rest : d.aside = d'.aside) : d = d' := by
  have parts (d : Data p N) : d = { d.aside with
      blinkerCounts := d.blinkerCounts, blinkerStatuses := d.blinkerStatuses } := rfl
  rw [parts d, parts d', rest, ext_get counts, ext_get statuses]

theorem handle_tblHandles (i : Input p) (d : Data p N) :
    (handle N p i d).state.tblHandles = d.tblHandles := by
  rw [handle_state]
  cases bookingOf N p i <;> rfl

/-! ## What is seen of a message -/

/-- What is seen of a message. -/
abbrev shownBy (i : Input p) (d : Data p N) : List (Obs p N) := answer (handle N p) Obs.shown? i d

section Shown

variable {p} {i : Input p} {d d' : Data p N}

theorem shownBy_accepted {req : Request N} (found : parse p N i.buffer = some req) :
    shownBy p i d = (requestTrace p i.replies i.buffer d req).filterMap Obs.shown? := by
  unfold shownBy answer
  rw [handle_of_accepted p found]

/-- What is seen of a message depends on the counts it reports, on the packet if it asks for one,
and on the table handle. -/
theorem shownBy_congr
    (counts : ∀ k ∈ reported N p i, d.blinkerCounts.get k = d'.blinkerCounts.get k)
    (packet : parse p N i.buffer = some .sendHk → d.refreshHk i.replies = d'.refreshHk i.replies)
    (handles : d.tblHandles = d'.tblHandles) : shownBy p i d = shownBy p i d' := by
  cases found : parse p N i.buffer with
  | none =>
    unfold shownBy answer
    rw [handle_of_rejected p found, handle_of_rejected p found]
  | some req =>
    rw [shownBy_accepted found, shownBy_accepted found]
    cases req with
    | sendHk => simp only [requestTrace, handlerTrace, actionTrace, packet found, handles]; rfl
    | blink => rw [shown_tick, shown_tick]
    | process => simp only [requestTrace, handlerTrace, actionTrace, handles]; rfl
    | reportSpec k =>
      have same := counts k ⟨_, found, rfl⟩
      simp only [requestTrace, handlerTrace, requestEvent, same]
      rfl
    | swapCounts a b =>
      have first := counts a ⟨_, found, .inl rfl⟩
      have second := counts b ⟨_, found, .inr rfl⟩
      simp only [requestTrace, handlerTrace, requestEvent, first, second]
      rfl
    | _ => rfl

/-- The counts that are reported can be seen. -/
theorem count_of_shownBy (same : shownBy p i d = shownBy p i d') {k : Fin N}
    (member : k ∈ reported N p i) : d.blinkerCounts.get k = d'.blinkerCounts.get k := by
  obtain ⟨req, found, member⟩ := member
  cases req with
  | reportSpec j =>
    obtain rfl : k = j := member
    have event (d : Data p N) : shownBy p i d = [.evsSendEvent (blinkerEvent
        "BLINKER_APP: Blinker #%d = %d counts" [.int k, .int (d.blinkerCounts.get k).toNat])] := by
      rw [shownBy_accepted found]
      rfl
    rw [event, event] at same
    simp only [blinkerEvent, List.cons.injEq, Obs.evsSendEvent.injEq, Event.mk.injEq,
      Arg.int.injEq, true_and, and_true, Int.natCast_inj] at same
    exact UInt16.toNat_inj.mp same
  | swapCounts a b =>
    have event (d : Data p N) : shownBy p i d = [.evsSendEvent (blinkerEvent
        "BLINKER_APP: Blinker #%d and #%d swapped values (%d <-> %d)"
        [.int a, .int b, .int (d.blinkerCounts.get b).toNat,
          .int (d.blinkerCounts.get a).toNat])] := by
      rw [shownBy_accepted found]
      rfl
    rw [event, event] at same
    simp only [blinkerEvent, List.cons.injEq, Obs.evsSendEvent.injEq, Event.mk.injEq,
      Arg.int.injEq, true_and, and_true, Int.natCast_inj] at same
    rcases member with rfl | rfl
    · exact UInt16.toNat_inj.mp same.2
    · exact UInt16.toNat_inj.mp same.1
  | _ => cases member

/-- The packet that is asked for can be seen. -/
theorem packet_of_shownBy (same : shownBy p i d = shownBy p i d')
    (found : parse p N i.buffer = some .sendHk) :
    d.refreshHk i.replies = d'.refreshHk i.replies := by
  rw [shownBy_accepted found, shownBy_accepted found] at same
  simp only [requestTrace, handlerTrace, actionTrace, requestEvent, Option.toList_none,
    List.map_nil, List.append_nil, List.cons_append, List.nil_append, List.filterMap_cons,
    Obs.shown?, List.cons.injEq, Obs.sbTransmitMsg.injEq, true_and, and_true] at same
  exact same.1

end Shown

/-! ## Messages that do not depend on each other -/

theorem book_comm {p : Platform} {b b' : Booking p} (calm : ¬ b.Clash b') (d : Data p N) :
    (d.book b).book b' = (d.book b').book b := by
  cases b <;> cases b' <;> try first | rfl | exact absurd trivial calm
  case publish.publish stamp stamp' =>
    have alike := not_not.mp calm
    have header := d.hkTlm.telemetryHeader
    simp only [Data.book, (alike _).1]

theorem refreshHk_book {p : Platform} {r : CfeReplies p} {b : Booking p}
    (calm : ¬ (Booking.publish r.stamp).Clash b) (d : Data p N) :
    (d.book b).refreshHk r = d.refreshHk r := by
  cases b <;> try first | rfl | exact absurd trivial calm
  case publish stamp =>
    have alike := not_not.mp calm d.hkTlm.telemetryHeader
    have again : r.stamp (stamp d.hkTlm.telemetryHeader) = r.stamp d.hkTlm.telemetryHeader := by
      rw [← alike.1, alike.2]
    exact congrArg (HkTlm.mk · _) again

section Calm

variable {p} {i j : Input p} (calm : ¬ Depends N p i j)

include calm

theorem state_of_not_depends (d : Data p N) :
    (handle N p j (handle N p i d).state).state = (handle N p i (handle N p j d).state).state := by
  have blinkers : ¬ Bank.Clash (bankOp p N i.buffer) (bankOp p N j.buffer) :=
    fun clash => calm (.inl clash)
  have counters : ¬ (bookingOf N p i).Clash (bookingOf N p j) :=
    fun clash => calm (.inr (.inr (.inr clash)))
  apply Data.ext_aside
  · intro k
    have commutes := (Bank.forall_commutes_iff UInt16.add_one_ne).mpr blinkers d.bank
    have same := congrFun (congrArg Bank.count commutes) k
    rw [← handle_bank, ← handle_bank, ← handle_bank, ← handle_bank] at same
    exact same
  · intro k
    simp only [handle_status]
    cases first : Bank.setting k (bankOp p N i.buffer) with
    | none => rfl
    | some on =>
      cases second : Bank.setting k (bankOp p N j.buffer) with
      | none => rfl
      | some on' =>
        rw [Bank.setting_eq_of_not_clash blinkers first second]
  · rw [aside_handle, aside_handle, aside_handle, aside_handle]
    exact book_comm counters d.aside

theorem shownBy_of_not_depends (d : Data p N) :
    shownBy p i (handle N p j d).state = shownBy p i d := by
  refine shownBy_congr (fun k member => ?_) (fun isHk => ?_) (handle_tblHandles p j d)
  · exact handle_count_of_not_changed p (fun hit => calm (.inr (.inl ⟨k, member, hit⟩))) d
  · have counters : ¬ (Booking.publish i.replies.stamp).Clash (bookingOf N p j) := by
      have publishes : bookingOf N p i = .publish i.replies.stamp := by rw [bookingOf, isHk]
      rw [← publishes]
      exact fun clash => calm (.inr (.inr (.inr clash)))
    rw [handle_state]
    exact refreshHk_book counters d

theorem independent_of_not_depends : Independent (handle N p) Obs.shown? i j where
  state := state_of_not_depends calm
  first := shownBy_of_not_depends calm
  second := shownBy_of_not_depends fun depends => calm depends.symm

end Calm

/-! ## Messages that depend on each other -/

/-- Every bank is that of some data. -/
theorem exists_bank (s : Bank (Fin N) UInt16) : ∃ d : Data p N, d.bank = s := by
  refine ⟨{ zeroData p with
    blinkerCounts := .ofFn s.count
    blinkerStatuses := .ofFn fun k => if s.enabled k then 1 else 0 }, Bank.ext ?_ ?_⟩
  · funext k
    exact Vector.getElem_ofFn k.isLt
  · funext k
    have status : (Vector.ofFn fun k => if s.enabled k then (1 : UInt8) else 0).get k =
        if s.enabled k then 1 else 0 := Vector.getElem_ofFn k.isLt
    show decide (_ ≠ 0) = _
    rw [status]
    cases s.enabled k <;> rfl

/-- A booking that no later packet shows. -/
theorem book_of_refreshHk {r : CfeReplies p} {b : Booking p}
    (hidden : ∀ d : Data p N, (d.book b).refreshHk r = d.refreshHk r) :
    b = .nothing ∨
      ∃ stamp, b = .publish stamp ∧ ∀ header, r.stamp (stamp header) = r.stamp header := by
  -- a state in which every change of a counter shows
  let d : Data p N := { zeroData p with cmdCounter := 1, errCounter := 1 }
  have payload := congrArg HkTlm.payload (hidden d)
  cases b with
  | nothing => exact .inl rfl
  | command =>
    have same : ((1 : UInt8) + 1).toUInt16 = (1 : UInt8).toUInt16 :=
      congrArg HkTlmPayload.commandCounter payload
    exact absurd same (by decide)
  | error =>
    have same : ((1 : UInt8) + 1).toUInt16 = (1 : UInt8).toUInt16 :=
      congrArg HkTlmPayload.commandErrorCounter payload
    exact absurd same (by decide)
  | clear =>
    have same : (0 : UInt8).toUInt16 = (1 : UInt8).toUInt16 :=
      congrArg HkTlmPayload.commandCounter payload
    exact absurd same (by decide)
  | publish stamp =>
    refine .inr ⟨stamp, rfl, fun header => ?_⟩
    let behind : Data p N := { d with hkTlm := { d.hkTlm with telemetryHeader := header } }
    exact congrArg HkTlm.telemetryHeader (hidden behind)

section Dependent

variable {p} {i j : Input p} (independent : Independent (handle N p) Obs.shown? i j)

include independent

theorem not_clash_of_independent : ¬ Bank.Clash (bankOp p N i.buffer) (bankOp p N j.buffer) := by
  apply (Bank.forall_commutes_iff UInt16.add_one_ne).mp
  intro s
  obtain ⟨d, rfl⟩ := exists_bank p s
  have same := congrArg Data.bank (independent.state d)
  rwa [handle_bank, handle_bank, handle_bank, handle_bank] at same

theorem not_changed_of_independent {k : Fin N} (member : k ∈ reported N p i) :
    k ∉ changed N p j := by
  intro hit
  obtain ⟨s, moved⟩ := Bank.exists_change UInt16.add_one_ne hit
  obtain ⟨d, rfl⟩ := exists_bank p s
  have same : (handle N p j d).state.bank.count k = d.bank.count k :=
    count_of_shownBy (independent.first d) member
  rw [handle_bank] at same
  exact moved same

theorem refreshHk_of_independent (isHk : parse p N i.buffer = some .sendHk) (d : Data p N) :
    (d.book (bookingOf N p j)).refreshHk i.replies = d.refreshHk i.replies := by
  have same := packet_of_shownBy (independent.first d) isHk
  rw [handle_state] at same
  exact same

theorem book_comm_of_independent (d : Data p N) :
    (d.aside.book (bookingOf N p i)).book (bookingOf N p j) =
      (d.aside.book (bookingOf N p j)).book (bookingOf N p i) := by
  have same := congrArg Data.aside (independent.state d)
  rwa [aside_handle, aside_handle, aside_handle, aside_handle] at same

omit independent in
theorem parse_of_publish {stamp : TelemetryHeader p → TelemetryHeader p}
    (books : bookingOf N p i = .publish stamp) :
    parse p N i.buffer = some .sendHk ∧ i.replies.stamp = stamp := by
  unfold bookingOf at books
  split at books <;> try cases books
  case h_3 found => exact ⟨found, rfl⟩
  case h_5 => split at books <;> cases books

/-- What independence says of a request for the packet. -/
theorem not_publish_clash {stamp : TelemetryHeader p → TelemetryHeader p}
    (publishes : bookingOf N p i = .publish stamp) :
    ¬ (Booking.publish stamp).Clash (bookingOf N p j) := by
  obtain ⟨isHk, rfl⟩ := parse_of_publish publishes
  rcases book_of_refreshHk p (refreshHk_of_independent independent isHk) with
    nothing | ⟨stamp, publishes', absorbs⟩
  · rw [nothing]
    exact id
  · obtain ⟨isHk', rfl⟩ := parse_of_publish publishes'
    have absorbs' (header : TelemetryHeader p) :
        j.replies.stamp (i.replies.stamp header) = j.replies.stamp header := by
      have hidden := refreshHk_of_independent independent.symm isHk'
      rw [publishes] at hidden
      rcases book_of_refreshHk p hidden with nothing | ⟨stamp, same, absorbs'⟩
      · cases nothing
      · cases same
        exact absorbs' header
    rw [publishes']
    refine not_not.mpr fun header => ?_
    -- both orders leave the same header
    let d : Data p N := { zeroData p with
      hkTlm := { (zeroData p : Data p N).hkTlm with telemetryHeader := header } }
    have orders := congrArg (fun d => d.hkTlm.telemetryHeader)
      (book_comm_of_independent independent d)
    rw [publishes, publishes'] at orders
    have left : j.replies.stamp (i.replies.stamp header) =
        i.replies.stamp (j.replies.stamp header) := orders
    have alike : i.replies.stamp header = j.replies.stamp header := by
      rw [← absorbs, ← left, absorbs']
    exact ⟨alike, by rw [alike, ← left, absorbs', ← alike]⟩

theorem not_booking_clash : ¬ (bookingOf N p i).Clash (bookingOf N p j) := by
  have orders := book_comm_of_independent independent (zeroData p)
  have moved : (0 : UInt8) ≠ 0 + 1 := by decide
  cases first : bookingOf N p i with
  | nothing => cases bookingOf N p j <;> exact id
  | publish stamp => exact not_publish_clash independent first
  | command | error | clear =>
    cases second : bookingOf N p j with
    | publish stamp =>
      rw [← first]
      exact fun clash => not_publish_clash independent.symm second clash.symm
    | nothing => exact id
    | command | error | clear =>
      rw [first, second] at orders
      -- a counter that was reset, and one that counted after the reset
      first
      | exact id
      | exact absurd (congrArg Data.cmdCounter orders) moved
      | exact absurd (congrArg Data.cmdCounter orders) moved.symm
      | exact absurd (congrArg Data.errCounter orders) moved
      | exact absurd (congrArg Data.errCounter orders) moved.symm

end Dependent

/-- The order of two messages, each with the answers of the cFE to it, never shows, in any field
of the data and in any call to the cFE made for either of them, exactly when neither depends on
the other. -/
theorem independent_iff (i j : Input p) :
    Independent (handle N p) Obs.shown? i j ↔ ¬ Depends N p i j := by
  refine ⟨fun independent depends => ?_, independent_of_not_depends⟩
  rcases depends with blinkers | ⟨k, shown, hit⟩ | ⟨k, shown, hit⟩ | counters
  · exact not_clash_of_independent independent blinkers
  · exact not_changed_of_independent independent shown hit
  · exact not_changed_of_independent independent.symm shown hit
  · exact not_booking_clash independent counters

end BlinkerApp
