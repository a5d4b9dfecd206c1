import BlinkerApp.Misc.BankControl
import BlinkerApp.Misc.Tally
import BlinkerApp.Proofs.CommandFormat
import BlinkerApp.Proofs.CounterMeaning
import BlinkerApp.Proofs.HkTelemetry

/-!
# The reachable states

Which states messages lead to from a state, exactly, for a bus whose answers to the requests for
the packet are given: the statuses are 0 or 1, the header has gone through the bus once for each
request, the packet shows two counters below 256 once there was a request, what start-up
configured is as it was, and everything else is arbitrary. So no blinker, counter or status is
ever stuck, whatever the messages before.
-/

namespace BlinkerApp

open Traced

variable {p : Platform} {N : Nat}

/-- What the cFE answers to the requests among the messages. -/
def requestReplies (inputs : List (Input p)) : List (CfeReplies p) :=
  inputs.filterMap fun i => if i.buffer.msgId = sendHkMid p then some i.replies else none

/-- Messages whose requests are answered by `replies`, one after the other, lead from the state
`d` to the state `d'`. -/
def Reaches (replies : List (CfeReplies p)) (d d' : Data p N) : Prop :=
  ∃ inputs, requestReplies inputs = replies ∧ (runTaskPipe p inputs d).state = d'

/-- The header after it went through the bus for each of the answers. -/
def stamped (replies : List (CfeReplies p)) (header : TelemetryHeader p) : TelemetryHeader p :=
  replies.foldl (fun header r => r.stamp header) header

/-- What messages whose requests are answered by `replies` can make of the state `d`. -/
structure Attainable (replies : List (CfeReplies p)) (d d' : Data p N) : Prop where
  binary : d'.Binary
  runStatus : d'.runStatus = d.runStatus
  commandPipe : d'.commandPipe = d.commandPipe
  blinkerPipe : d'.blinkerPipe = d.blinkerPipe
  pipeName : d'.pipeName = d.pipeName
  pipeDepth : d'.pipeDepth = d.pipeDepth
  tblHandles : d'.tblHandles = d.tblHandles
  header : d'.hkTlm.telemetryHeader = stamped replies d.hkTlm.telemetryHeader
  payload : if replies = [] then d'.hkTlm.payload = d.hkTlm.payload else
    ∃ err cmd : UInt8, d'.hkTlm.payload = { d.hkTlm.payload with
      commandErrorCounter := err.toUInt16, commandCounter := cmd.toUInt16 }

/-! ## What messages keep -/

theorem Attainable.refl {d : Data p N} (binary : d.Binary) : Attainable [] d d :=
  ⟨binary, rfl, rfl, rfl, rfl, rfl, rfl, rfl, rfl⟩

/-- The arrays of the packet are those there were. -/
theorem Attainable.shows {replies : List (CfeReplies p)} {d₀ d : Data p N}
    (attainable : Attainable replies d₀ d) (err cmd : UInt16) :
    { d.hkTlm.payload with commandErrorCounter := err, commandCounter := cmd } =
      { d₀.hkTlm.payload with commandErrorCounter := err, commandCounter := cmd } := by
  have payload := attainable.payload
  split at payload
  case isTrue => rw [payload]
  case isFalse =>
    obtain ⟨err', cmd', same⟩ := payload
    rw [same]

/-- A request refreshes the packet. -/
theorem Attainable.refreshHk {replies : List (CfeReplies p)} {d₀ d : Data p N}
    (attainable : Attainable replies d₀ d) (r : CfeReplies p) :
    Attainable (replies ++ [r]) d₀ { d with hkTlm := d.refreshHk r } := by
  refine { attainable with header := ?_, payload := ?_ }
  · rw [stamped, List.foldl_append]
    exact congrArg r.stamp attainable.header
  · rw [if_neg (List.append_ne_nil_of_right_ne_nil _ (List.cons_ne_nil _ _))]
    exact ⟨d.errCounter, d.cmdCounter, attainable.shows _ _⟩

/-- No message leads out of the attainable states. -/
theorem Attainable.taskPipe {replies : List (CfeReplies p)} {d₀ d : Data p N}
    (attainable : Attainable replies d₀ d) (i : Input p) :
    Attainable (replies ++ requestReplies [i]) d₀ (taskPipe p i.replies i.buffer d).state := by
  by_cases isHk : i.buffer.msgId = sendHkMid p
  · have answered : requestReplies [i] = [i.replies] := by simp [requestReplies, isHk]
    rw [answered, taskPipe_of_accepted p i.replies i.buffer d (parse_sendHk p isHk)]
    exact attainable.refreshHk i.replies
  · have unanswered : requestReplies [i] = [] := by simp [requestReplies, isHk]
    rw [unanswered, List.append_nil]
    apply taskPipe_state_cases p i.replies i.buffer d
    · intro req found
      have binary := effect_binary i.replies req attainable.binary
      cases req with
      | sendHk => exact absurd ((parse_sendHk_iff p _).mp found) isHk
      | _ => exact { attainable with binary := binary }
    · exact fun _ _ => { attainable with }

theorem attainable_of_reaches {replies : List (CfeReplies p)} {d d' : Data p N}
    (binary : d.Binary) (reaches : Reaches replies d d') : Attainable replies d d' := by
  obtain ⟨inputs, rfl, rfl⟩ := reaches
  induction inputs using List.reverseRecOn with
  | nil => exact .refl binary
  | append_singleton inputs i ih =>
    rw [requestReplies, List.filterMap_append, runTaskPipe, each_concat_state]
    exact ih.taskPipe i

/-! ## Where messages lead -/

theorem Reaches.refl (d : Data p N) : Reaches [] d d := ⟨[], rfl, rfl⟩

theorem Reaches.trans {replies replies' : List (CfeReplies p)} {d d' d'' : Data p N}
    (first : Reaches replies d d') (second : Reaches replies' d' d'') :
    Reaches (replies ++ replies') d d'' := by
  obtain ⟨inputs, rfl, rfl⟩ := first
  obtain ⟨inputs', rfl, rfl⟩ := second
  exact ⟨inputs ++ inputs', List.filterMap_append, by rw [runTaskPipe, each_append]; rfl⟩

/-- More messages, none of them a request. -/
theorem Reaches.andThen {replies : List (CfeReplies p)} {d d' d'' : Data p N}
    (first : Reaches replies d d') (second : Reaches [] d' d'') : Reaches replies d d'' :=
  List.append_nil replies ▸ first.trans second

theorem reaches_request (r : CfeReplies p) (d : Data p N) :
    Reaches [r] d { d with hkTlm := d.refreshHk r } := by
  let m := bareMessage p (sendHkMid p)
  have isHk : m.msgId = sendHkMid p := rfl
  refine ⟨[⟨r, m⟩], by simp [requestReplies, isHk], ?_⟩
  exact congrArg Outcome.state (taskPipe_of_accepted p r m d (parse_sendHk p isHk))

theorem exists_reaches (replies : List (CfeReplies p)) (d : Data p N) :
    ∃ d', Reaches replies d d' := by
  induction replies generalizing d with
  | nil => exact ⟨d, .refl d⟩
  | cons r replies ih =>
    obtain ⟨d', rest⟩ := ih { d with hkTlm := d.refreshHk r }
    exact ⟨d', (reaches_request r d).trans rest⟩

theorem reaches_effect (small : N ≤ 2 ^ 16) (r : CfeReplies p) (d : Data p N) (req : Request N)
    (other : req ≠ .sendHk) : Reaches [] d (effect r d req) := by
  obtain ⟨m, found⟩ : ∃ m, parse p N m = some req :=
    exists_message p fun k _ => Nat.lt_of_lt_of_le k.isLt small
  have notHk : m.msgId ≠ sendHkMid p := by
    intro isHk
    rw [parse_sendHk p isHk] at found
    exact other (Option.some.inj found).symm
  refine ⟨[⟨r, m⟩], by simp [requestReplies, notHk], ?_⟩
  exact congrArg Outcome.state (taskPipe_of_accepted p r m d found)

/-- A command of a wrong length counts as an error. -/
theorem reaches_error (d : Data p N) :
    Reaches [] d { d with errCounter := d.errCounter + 1 } := by
  let m : SbBuffer := { (anySender p).noArgs noopCc with size := (noArgsT p).size + 1 }
  have isCmd : m.msgId = cmdMid p := rfl
  have notHk : m.msgId ≠ sendHkMid p := cmdMid_ne_sendHkMid p
  have wrong : m.size ≠ (noArgsT p).size := Nat.succ_ne_self _
  have rejected : parse p N m = none :=
    (parse_of_cmdMid p m isCmd).trans (if_neg wrong)
  have why : rejectionOf p m = .wrongLength (noArgsT p).size :=
    (if_pos isCmd).trans (if_neg wrong)
  refine ⟨[⟨default, m⟩], by simp [requestReplies, notHk], ?_⟩
  show (taskPipe p default m d).state = _
  rw [taskPipe_of_rejected p default m d rejected, why]
  rfl

/-! ### The counters -/

theorem UInt8.iterate_succ_toNat (c : UInt8) : (· + 1)^[c.toNat] (0 : UInt8) = c := by
  rw [UInt8.iterate_succ, UInt8.ofNat_toNat]

/-- The two counters can be set at will. -/
theorem reaches_counters (small : N ≤ 2 ^ 16) (d : Data p N) (cmd err : UInt8) :
    Reaches [] d { d with cmdCounter := cmd, errCounter := err } := by
  have reset : Reaches [] d { d with cmdCounter := 0, errCounter := 0 } :=
    reaches_effect small default d .resetCounters nofun
  have noops (n : Nat) :
      Reaches [] d { d with cmdCounter := (· + 1)^[n] 0, errCounter := 0 } := by
    induction n with
    | zero => exact reset
    | succ n ih =>
      rw [Function.iterate_succ_apply']
      exact ih.trans (reaches_effect small default _ .noop nofun)
  have errors (n : Nat) :
      Reaches [] d { d with cmdCounter := cmd, errCounter := (· + 1)^[n] 0 } := by
    induction n with
    | zero => exact UInt8.iterate_succ_toNat cmd ▸ noops cmd.toNat
    | succ n ih =>
      rw [Function.iterate_succ_apply']
      exact ih.trans (reaches_error _)
  exact UInt8.iterate_succ_toNat err ▸ errors err.toNat

/-! ### The blinkers -/

/-- A basic operation of the bank is a request that touches only the blinkers. -/
theorem exists_request {op : BankOp (Fin N)} (basic : Bank.Basic op) :
    ∃ req : Request N, req.bankOp = op ∧ req ≠ .sendHk ∧
      ∀ (r : CfeReplies p) (d : Data p N), effect r d req = { d with
        blinkerCounts := (effect r d req).blinkerCounts
        blinkerStatuses := (effect r d req).blinkerStatuses } := by
  cases basic with
  | tick => exact ⟨.blink, rfl, nofun, fun _ _ => rfl⟩
  | reset k => exact ⟨.resetSpec k, rfl, nofun, fun _ _ => rfl⟩
  | switch k on =>
    cases on with
    | true => exact ⟨.enableSpec k, rfl, nofun, fun _ _ => rfl⟩
    | false => exact ⟨.disableSpec k, rfl, nofun, fun _ _ => rfl⟩

theorem reaches_run (small : N ≤ 2 ^ 16) (ops : List (BankOp (Fin N)))
    (basic : ∀ op ∈ ops, Bank.Basic op) {d : Data p N} (binary : d.Binary) :
    ∃ counts statuses, let d' := { d with blinkerCounts := counts, blinkerStatuses := statuses }
      Reaches [] d d' ∧ d'.Binary ∧ d'.bank = d.bank.run ops := by
  induction ops generalizing d with
  | nil => exact ⟨d.blinkerCounts, d.blinkerStatuses, .refl d, binary, rfl⟩
  | cons op ops ih =>
    obtain ⟨req, rfl, other, frame⟩ := exists_request (p := p) (basic op List.mem_cons_self)
    have next := effect_binary default req binary
    obtain ⟨counts, statuses, reaches, binary', bank⟩ :=
      ih (fun op' member => basic op' (List.mem_cons_of_mem _ member)) next
    rw [effect_bank] at bank
    have first := reaches_effect small default d req other
    refine ⟨counts, statuses, first.trans ?_, binary', bank⟩
    rw [frame] at reaches ⊢
    exact reaches

theorem UInt16.exists_iterate_succ (c : UInt16) : ∃ n : ℕ, (· + 1)^[n] 0 = c := by
  refine ⟨c.toNat, UInt16.toNat_inj.mp ?_⟩
  rw [toNat_iterate_succ, Nat.mod_eq_of_lt c.toNat_lt]

/-- The blinkers can be set at will. -/
theorem reaches_blinkers (small : N ≤ 2 ^ 16) {d d' : Data p N} (binary : d.Binary)
    (binary' : d'.Binary) :
    Reaches [] d { d with
      blinkerCounts := d'.blinkerCounts, blinkerStatuses := d'.blinkerStatuses } := by
  obtain ⟨ops, basic, same⟩ := Bank.leads_any UInt16.exists_iterate_succ (List.mem_finRange ·)
    d.bank d'.bank
  obtain ⟨counts, statuses, reaches, after, bank⟩ := reaches_run small ops basic binary
  obtain ⟨sameCounts, sameStatuses⟩ := (sameBlinkers_iff after binary').mpr (bank.trans same)
  obtain rfl : counts = d'.blinkerCounts := sameCounts
  obtain rfl : statuses = d'.blinkerStatuses := sameStatuses
  exact reaches

/-- The packet can show any counters once there was a request. -/
theorem reaches_payload (small : N ≤ 2 ^ 16) {replies : List (CfeReplies p)} {d d' : Data p N}
    (binary : d.Binary) (attainable : Attainable replies d d') :
    ∃ d₁, Reaches replies d d₁ ∧ d₁.hkTlm.payload = d'.hkTlm.payload := by
  have payload := attainable.payload
  rcases replies.eq_nil_or_concat' with rfl | ⟨before, last, rfl⟩
  · exact ⟨d, .refl d, payload.symm⟩
  · rw [if_neg (List.append_ne_nil_of_right_ne_nil _ (List.cons_ne_nil _ _))] at payload
    obtain ⟨err, cmd, shows⟩ := payload
    obtain ⟨d₁, reaches⟩ := exists_reaches before d
    have counters := reaches_counters small d₁ cmd err
    have arrays := (attainable_of_reaches binary reaches).shows err.toUInt16 cmd.toUInt16
    exact ⟨_, (reaches.andThen counters).trans (reaches_request last _), arrays.trans shows.symm⟩

/-! ## The reachable states -/

/-- From a state whose statuses are 0 or 1, messages lead exactly to the attainable states,
whatever the answers of the bus to the requests among them. -/
theorem reaches_iff (small : N ≤ 2 ^ 16) (replies : List (CfeReplies p)) {d : Data p N}
    (binary : d.Binary) (d' : Data p N) : Reaches replies d d' ↔ Attainable replies d d' := by
  refine ⟨attainable_of_reaches binary, fun attainable => ?_⟩
  obtain ⟨d₁, reaches, payload⟩ := reaches_payload small binary attainable
  have attained := attainable_of_reaches binary reaches
  -- once the packet is right, the counters and the blinkers are set
  have counters := reaches_counters small d₁ d'.cmdCounter d'.errCounter
  have blinkers := reaches_blinkers small
    (d := { d₁ with cmdCounter := d'.cmdCounter, errCounter := d'.errCounter })
    attained.binary attainable.binary
  have packet : d₁.hkTlm = d'.hkTlm := by
    show HkTlm.mk d₁.hkTlm.telemetryHeader d₁.hkTlm.payload = _
    rw [payload, attained.header, ← attainable.header]
  have same : { d₁ with
      cmdCounter := d'.cmdCounter, errCounter := d'.errCounter
      blinkerCounts := d'.blinkerCounts, blinkerStatuses := d'.blinkerStatuses } = d' :=
    Data.ext rfl rfl packet (attained.runStatus.trans attainable.runStatus.symm)
      (attained.commandPipe.trans attainable.commandPipe.symm)
      (attained.blinkerPipe.trans attainable.blinkerPipe.symm)
      (attained.pipeName.trans attainable.pipeName.symm)
      (attained.pipeDepth.trans attainable.pipeDepth.symm)
      (attained.tblHandles.trans attainable.tblHandles.symm) rfl rfl
  exact same ▸ (reaches.andThen counters).andThen blinkers

/-- A bus that counts the packets in the fourth byte of the header. -/
def countingReplies : CfeReplies defaultPlatform :=
  { (default : CfeReplies defaultPlatform) with
    sequenceCount := fun header => header.set 3 (header.get ⟨3, by decide⟩ + 1) (by decide) }

/-- From start-up to one blinker at the end of its range, the other counting on, and two packets
sent, of which the second showed nine no-ops and four commands of a wrong length. -/
theorem reaches_iff_fresh :
    let p := defaultPlatform
    let start : Data p 2 := initState p default
    Reaches [countingReplies, countingReplies] start { start with
      cmdCounter := 7, blinkerCounts := #v[65535, 3], blinkerStatuses := #v[0, 1]
      hkTlm :=
        { telemetryHeader := start.hkTlm.telemetryHeader.set 3 2 (by decide)
          payload := { start.hkTlm.payload with
            commandErrorCounter := 4, commandCounter := 9 } } } := by
  intro p start
  refine (reaches_iff (by decide) _ (initState_binary p default) _).mpr ?_
  exact ⟨by unfold Data.Binary; decide, rfl, rfl, rfl, rfl, rfl, rfl, by decide, 4, 9, rfl⟩

end BlinkerApp
