import BlinkerApp.Proofs.StartUp

/-!
# Housekeeping telemetry

The packet carries the two counters as they are at the request. Its two arrays are
never written, so they mirror the blinkers exactly while these are all off and at zero.
-/

namespace BlinkerApp

open Traced

variable {N : Nat} (p : Platform)

/-- The packet shows the state `d`. -/
def HkMirrors {p : Platform} (d : Data p N) (packet : HkTlm p N) : Prop :=
  packet.payload.commandCounter.toNat = d.cmdCounter.toNat ∧
    packet.payload.commandErrorCounter.toNat = d.errCounter.toNat ∧
    ∀ k : Fin N, (packet.payload.blinkerStatus.get k).toNat = (d.blinkerStatuses.get k).toNat ∧
      (packet.payload.blinkerCount.get k).toNat = (d.blinkerCounts.get k).toNat

/-- The processing of a request in the state `d` transmits one packet, which shows `d`,
and changes nothing but the packet. -/
def HkServed {p : Platform} (d : Data p N) (o : Outcome (Data p N) (Obs p N) Unit) : Prop :=
  (∃ packet, o.trace.filterMap Obs.transmitted? = [packet] ∧ HkMirrors d packet) ∧
    o.state = { d with hkTlm := o.state.hkTlm }

theorem parse_sendHk {m : SbBuffer} (isHk : m.msgId = sendHkMid p) :
    parse p N m = some .sendHk := by
  have notBlink : m.msgId ≠ blinkCmdMid p := by rw [isHk]; exact sendHkMid_ne_blinkCmdMid p
  unfold parse
  rw [if_neg notBlink, if_pos isHk]

/-- A request transmits the refreshed packet. -/
theorem sendHk_apply (r : CfeReplies p) {m : SbBuffer} (isHk : m.msgId = sendHkMid p)
    (d : Data p N) :
    (taskPipe p r m d).state = { d with hkTlm := d.refreshHk r } ∧
      (taskPipe p r m d).trace.filterMap Obs.transmitted? = [d.refreshHk r] := by
  rw [taskPipe_of_accepted p r m d (parse_sendHk p isHk)]
  exact ⟨rfl, rfl⟩

/-! ## The arrays of the packet -/

/-- The arrays of the packet are as initialization leaves them. -/
def Data.PacketBlank {p : Platform} (d : Data p N) : Prop :=
  d.hkTlm.payload.blinkerStatus = .replicate N 0 ∧ d.hkTlm.payload.blinkerCount = .replicate N 0

theorem taskPipe_packetBlank (r : CfeReplies p) (m : SbBuffer) {d : Data p N}
    (blank : d.PacketBlank) :
    (taskPipe p r m d).state.PacketBlank := by
  apply taskPipe_state_cases p r m d
  · intro req _
    cases req <;> exact blank
  · exact fun _ _ => blank

theorem run_packetBlank (a : InitReplies p) (d₀ : Data p N) (inputs : List (Input p)) :
    (runTaskPipe p inputs (init p a d₀).state).state.PacketBlank := by
  apply each_invariant (fun i _ _ => taskPipe_packetBlank p i.replies i.buffer)
  rw [init_apply]
  exact ⟨by simp, by simp⟩

theorem hkMirrors_iff {p : Platform} {d : Data p N} (blank : d.PacketBlank) (r : CfeReplies p) :
    HkMirrors d (d.refreshHk r) ↔
      ∀ k : Fin N, d.blinkerStatuses.get k = 0 ∧ d.blinkerCounts.get k = 0 := by
  have counters : (d.refreshHk r).payload.commandCounter.toNat = d.cmdCounter.toNat ∧
      (d.refreshHk r).payload.commandErrorCounter.toNat = d.errCounter.toNat :=
    ⟨UInt8.toNat_toUInt16 _, UInt8.toNat_toUInt16 _⟩
  have status (k : Fin N) : (d.refreshHk r).payload.blinkerStatus.get k = 0 := by
    show d.hkTlm.payload.blinkerStatus.get k = 0
    simp [blank.1]
  have count (k : Fin N) : (d.refreshHk r).payload.blinkerCount.get k = 0 := by
    show d.hkTlm.payload.blinkerCount.get k = 0
    simp [blank.2]
  unfold HkMirrors
  rw [and_iff_right counters.1, and_iff_right counters.2]
  apply forall_congr'
  intro k
  rw [status, count, eq_comm, eq_comm (a := (0 : UInt32).toNat)]
  show _ ∧ _ = (0 : UInt16).toNat ↔ _
  rw [UInt8.toNat_inj, UInt16.toNat_inj]

/-- In every run, a request is served as it should be exactly when all blinkers are off
and at zero at that moment. -/
theorem hkServed_iff (a : InitReplies p) (d₀ : Data p N) (before : List (Input p))
    (r : CfeReplies p)
    (m : SbBuffer) (isHk : m.msgId = sendHkMid p) :
    let d := (runTaskPipe p before (init p a d₀).state).state
    HkServed d (taskPipe p r m d) ↔
      ∀ k : Fin N, d.blinkerStatuses.get k = 0 ∧ d.blinkerCounts.get k = 0 := by
  intro d
  have blank : d.PacketBlank := run_packetBlank p a d₀ before
  obtain ⟨state, transmitted⟩ := sendHk_apply p r isHk d
  rw [← hkMirrors_iff blank r]
  unfold HkServed
  rw [transmitted, state]
  constructor
  · rintro ⟨⟨packet, sent, mirrors⟩, -⟩
    obtain rfl : d.refreshHk r = packet := by simpa using sent
    exact mirrors
  · intro mirrors
    exact ⟨⟨_, rfl, mirrors⟩, rfl⟩

/-- A blinker is enabled, counts and is set back, a command counts and one has a wrong length. -/
def settledRun (p : Platform) : List (Input p) :=
  [⟨default, groundCommand p enableSpecBlinkerCc [1, 0, 0, 0]⟩,
   ⟨default, bareMessage p (blinkCmdMid p)⟩,
   ⟨default, groundCommand p noopCc []⟩,
   ⟨default, groundCommand p noopCc [0]⟩,
   ⟨default, groundCommand p disableSpecBlinkerCc [1, 0, 0, 0]⟩,
   ⟨default, groundCommand p resetSpecBlinkerCc [1, 0, 0, 0]⟩]

theorem hkServed_settled :
    let p := defaultPlatform
    let d : Data p 2 := (runTaskPipe p (settledRun p) (init p default (zeroData p)).state).state
    HkServed d (taskPipe p default (bareMessage p (sendHkMid p)) d) ∧
      d.cmdCounter = 1 ∧ d.errCounter = 1 := by
  refine ⟨?_, by decide, by decide⟩
  refine (hkServed_iff defaultPlatform default (zeroData defaultPlatform)
    (settledRun defaultPlatform) default _ rfl).mpr ?_
  decide

/-- With one blinker enabled and one tick, the packet still shows it off and at zero. -/
theorem not_always_hkServed :
    ¬ ∀ (N : Nat) (p : Platform) (a : InitReplies p) (d₀ : Data p N) (before : List (Input p))
      (r : CfeReplies p) (m : SbBuffer), m.msgId = sendHkMid p →
      let d := (runTaskPipe p before (init p a d₀).state).state
      HkServed d (taskPipe p r m d) := by
  intro claim
  let p := defaultPlatform
  obtain ⟨⟨packet, sent, mirrors⟩, -⟩ := claim 1 p default (zeroData p)
    [⟨default, groundCommand p enableSpecBlinkerCc [0, 0, 0, 0]⟩,
     ⟨default, bareMessage p (blinkCmdMid p)⟩] default (bareMessage p (sendHkMid p)) rfl
  rw [(sendHk_apply p default rfl _).2] at sent
  obtain rfl := List.singleton_inj.mp sent
  exact absurd (mirrors.2.2 0).1 (by decide)

end BlinkerApp
