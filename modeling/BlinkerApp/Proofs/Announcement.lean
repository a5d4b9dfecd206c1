import BlinkerApp.Proofs.StartUp

/-!
# What initialization announces

Initialization announces itself once the subscriptions are made, whatever becomes of the
table, and reports every failure but that of the table load.
-/

namespace BlinkerApp

open Traced

variable {p : Platform} {N : Nat} (a : InitReplies p)

/-! ## Announcements and reports -/

/-- The event `BLINKER_APP_INIT_INF_EID` -/
def Obs.announces : Obs p N → Bool
  | .evsSendEvent event => event.id = initInfEid
  | _ => false

/-- An error report: an error event, or a line of the system log when the events could not
be registered. -/
def Obs.reportsError : Obs p N → Bool
  | .evsSendEvent event => event.type = .error
  | .esWriteToSysLog .. => a.evsRegister ≠ cfeSuccess
  | _ => false

/-- A success is announced once and a failure reported once. -/
structure AnnouncedTruthfully (o : Outcome (Data p N) (Obs p N) CfeStatus) : Prop where
  announced : o.trace.countP Obs.announces = if o.value = cfeSuccess then 1 else 0
  reported : o.trace.countP (Obs.reportsError a) = if o.value = cfeSuccess then 0 else 1

variable (p) in
/-- The first call that fails. -/
def firstFailure : Option (Attempt × CfeStatus) :=
  (attempts p a).find? fun call => call.2 ≠ cfeSuccess

/-! ## Counting along the calls -/

/-- Only the call that fails adds to a count to which successes add nothing. -/
theorem countP_upToFirstFailure {α : Type} (count : Obs p N → Bool)
    (trace : α × CfeStatus → List (Obs p N)) {calls : List (α × CfeStatus)}
    (quiet : ∀ call ∈ calls, call.2 = cfeSuccess → (trace call).countP count = 0) :
    ((upToFirstFailure calls).flatMap trace).countP count =
      (calls.find? fun call => call.2 ≠ cfeSuccess).elim 0 fun call =>
        (trace call).countP count := by
  induction calls with
  | nil => rfl
  | cons call later ih =>
    rw [upToFirstFailure, List.flatMap_cons, List.countP_append, List.find?_cons]
    by_cases passed : call.2 = cfeSuccess
    · have rest := ih fun other member => quiet other (List.mem_cons_of_mem call member)
      rw [if_pos passed, quiet call List.mem_cons_self passed, Nat.zero_add, rest]
      simp [passed]
    · rw [if_neg passed]
      simp [passed]

theorem announces_failureReport {id : UInt16} (other : id ≠ initInfEid) (spec : String)
    (status : CfeStatus) :
    (failureReport id spec status : List (Obs p N)).countP Obs.announces = 0 := by
  unfold failureReport
  split
  · rfl
  · simp [Obs.announces, other]

theorem reports_failureReport (id : UInt16) (spec : String) (status : CfeStatus) :
    (failureReport id spec status : List (Obs p N)).countP (Obs.reportsError a) =
      if status = cfeSuccess then 0 else 1 := by
  unfold failureReport
  split <;> rfl

variable (p)

theorem announces_attemptTrace (call : Attempt × CfeStatus) :
    (attemptTrace p a call : List (Obs p N)).countP Obs.announces = 0 := by
  obtain ⟨attempt, status⟩ := call
  cases attempt with
  | evsRegister =>
    rw [attemptTrace]
    split <;> rfl
  | createPipe => exact announces_failureReport (by decide) _ status
  | subscribe msgId =>
    rw [attemptTrace]
    split
    · exact announces_failureReport (by decide) _ status
    · exact announces_failureReport (by decide) _ status
  | tblRegister => exact announces_failureReport (by decide) _ status
  | tblLoad => rfl

/-- Every failure but that of the table load is reported. -/
theorem reports_attemptTrace {call : Attempt × CfeStatus} (planned : call ∈ attempts p a) :
    (attemptTrace p a call : List (Obs p N)).countP (Obs.reportsError a) =
      if call.2 = cfeSuccess ∨ call.1 = .tblLoad then 0 else 1 := by
  obtain ⟨attempt, status⟩ := call
  cases attempt with
  | evsRegister =>
    obtain rfl : status = a.evsRegister := by simpa [attempts] using planned
    by_cases passed : a.evsRegister = cfeSuccess <;>
      simp [attemptTrace, Obs.reportsError, passed]
  | createPipe =>
    simpa [attemptTrace, List.countP_cons, Obs.reportsError] using
      reports_failureReport a _ _ status
  | subscribe msgId =>
    rw [attemptTrace]
    split <;>
      simpa [List.countP_cons, Obs.reportsError] using reports_failureReport a _ _ status
  | tblRegister =>
    simpa [attemptTrace, List.countP_cons, Obs.reportsError] using
      reports_failureReport a _ _ status
  | tblLoad => simp [attemptTrace, Obs.reportsError]

/-! ## Initialization -/

theorem init_value_iff_firstFailure (d : Data p N) :
    (init p a d).value = cfeSuccess ↔ firstFailure p a = none := by
  rw [init_value_iff, firstFailure, List.find?_eq_none]
  simp

theorem announces_init (d : Data p N) :
    (init p a d).trace.countP Obs.announces = if Subscribed a then 1 else 0 := by
  have called : ((upToFirstFailure (attempts p a)).flatMap (attemptTrace p a) :
      List (Obs p N)).countP Obs.announces = 0 := by
    rw [List.countP_eq_zero]
    intro e member
    obtain ⟨call, -, inside⟩ := List.mem_flatMap.mp member
    exact List.countP_eq_zero.mp (announces_attemptTrace p a call) e inside
  rw [init_apply, List.countP_append, called, Nat.zero_add]
  unfold announcement
  split
  · rfl
  · rfl

theorem reports_init (d : Data p N) :
    (init p a d).trace.countP (Obs.reportsError a) =
      (firstFailure p a).elim 0 fun call => if call.1 = .tblLoad then 0 else 1 := by
  have announced : (announcement a : List (Obs p N)).countP (Obs.reportsError a) = 0 := by
    unfold announcement
    split <;> rfl
  have quiet : ∀ call ∈ attempts p a, call.2 = cfeSuccess →
      (attemptTrace p a call : List (Obs p N)).countP (Obs.reportsError a) = 0 := by
    intro call planned passed
    rw [reports_attemptTrace p a planned, if_pos (.inl passed)]
  rw [init_apply, List.countP_append, announced, Nat.add_zero,
    countP_upToFirstFailure _ _ quiet, ← firstFailure]
  cases first : firstFailure p a with
  | none => rfl
  | some call =>
    have planned : call ∈ attempts p a := List.mem_of_find?_eq_some first
    have failed : call.2 ≠ cfeSuccess := by simpa using List.find?_some first
    simp [reports_attemptTrace p a planned, failed]

/-- The calls before the table is registered. -/
def connections : List (Attempt × CfeStatus) := (attempts p a).take 5

theorem subscribed_iff : Subscribed a ↔ ∀ call ∈ connections p a, call.2 = cfeSuccess := by
  simp [Subscribed, connections, attempts]

theorem firstFailure_eq :
    firstFailure p a = ((connections p a).find? fun call => call.2 ≠ cfeSuccess).or
      ([(Attempt.tblRegister, a.tblRegister), (.tblLoad, a.tblLoad)].find?
        fun call => call.2 ≠ cfeSuccess) := by
  have split : attempts p a =
      connections p a ++ [(.tblRegister, a.tblRegister), (.tblLoad, a.tblLoad)] := rfl
  rw [firstFailure, split, List.find?_append]

/-- Once the subscriptions are made, only the table is left to fail. -/
theorem firstFailure_of_subscribed (subscribed : Subscribed a) :
    firstFailure p a = [(Attempt.tblRegister, a.tblRegister), (.tblLoad, a.tblLoad)].find?
      fun call => call.2 ≠ cfeSuccess := by
  have none : (connections p a).find? (fun call => call.2 ≠ cfeSuccess) = none := by
    rw [List.find?_eq_none]
    simpa using (subscribed_iff p a).mp subscribed
  rw [firstFailure_eq, none, Option.none_or]

/-- Without the subscriptions, the first failure is one that is reported. -/
theorem firstFailure_of_not_subscribed (unsubscribed : ¬ Subscribed a) :
    ∃ call, firstFailure p a = some call ∧ call.1 ≠ .tblLoad := by
  have failed : ((connections p a).find? fun call => call.2 ≠ cfeSuccess).isSome := by
    rw [List.find?_isSome]
    simpa [subscribed_iff p a] using unsubscribed
  obtain ⟨call, first⟩ := Option.isSome_iff_exists.mp failed
  refine ⟨call, by rw [firstFailure_eq, first, Option.some_or], ?_⟩
  have planned : call ∈ connections p a := List.mem_of_find?_eq_some first
  simp only [connections, attempts, List.take_succ_cons, List.take_zero, List.mem_cons,
    List.not_mem_nil, or_false] at planned
  rcases planned with rfl | rfl | rfl | rfl | rfl
  all_goals
    intro load
    cases load

/-- Initialization is announced truthfully exactly when the table is registered and loaded
once the subscriptions are made. -/
theorem announcedTruthfully_iff (d : Data p N) :
    AnnouncedTruthfully a (init p a d) ↔
      (Subscribed a → a.tblRegister = cfeSuccess ∧ a.tblLoad = cfeSuccess) := by
  have passed_iff := init_value_iff_firstFailure p a d
  by_cases subscribed : Subscribed a
  · rw [firstFailure_of_subscribed p a subscribed] at passed_iff
    have loaded_iff : (init p a d).value = cfeSuccess ↔
        a.tblRegister = cfeSuccess ∧ a.tblLoad = cfeSuccess := by
      rw [passed_iff, List.find?_eq_none]
      simp
    constructor
    · rintro ⟨announced, -⟩ -
      rw [announces_init, if_pos subscribed] at announced
      by_contra unloaded
      rw [if_neg (mt loaded_iff.mp unloaded)] at announced
      cases announced
    · intro condition
      have loaded := condition subscribed
      have passed := loaded_iff.mpr loaded
      constructor
      · rw [announces_init, if_pos subscribed, if_pos passed]
      · rw [reports_init, (init_value_iff_firstFailure p a d).mp passed, if_pos passed]
        rfl
  · -- the app was stopped before the announcement, and said so
    obtain ⟨call, first, reported⟩ := firstFailure_of_not_subscribed p a subscribed
    have failed : (init p a d).value ≠ cfeSuccess := by
      rw [Ne, passed_iff, first]
      apply Option.some_ne_none
    refine iff_of_true ⟨?_, ?_⟩ fun made => absurd made subscribed
    · rw [announces_init, if_neg subscribed, if_neg failed]
    · rw [reports_init, first, Option.elim_some, if_neg reported, if_neg failed]

/-- The table load fails, and the app is announced as initialized. -/
theorem not_always_announcedTruthfully :
    ¬ ∀ (N : Nat) (p : Platform) (a : InitReplies p) (d : Data p N),
      AnnouncedTruthfully a (init p a d) := by
  intro claim
  let p := defaultPlatform
  let a : InitReplies p := { (default : InitReplies p) with tblLoad := -1 }
  have announced := (claim 1 p a (zeroData p)).announced
  have failed : (init p a (zeroData p : Data p 1)).value ≠ cfeSuccess := by
    rw [Ne, init_value_iff]
    exact fun all => absurd (all (.tblLoad, -1) (by simp [attempts, a])) (by decide)
  rw [announces_init, if_pos (by decide), if_neg failed] at announced
  cases announced

end BlinkerApp
