import BlinkerApp.Proofs.Parsing

/-!
# What can be observed of a message

The shape of every observation a handler or a rejection makes, and from it the facets
of a trace that the properties of the app speak about.
-/

namespace BlinkerApp

open CLayout CType

variable {N : Nat} (p : Platform) (r : CfeReplies p) (m : SbBuffer) (d : Data p N)

/-! ## Handlers -/

/-- What a handler can do before its event, on a request in the state `d`. -/
inductive ActionObs (req : Request N) : Obs p N → Prop
  | cellAccess (array : BlinkerArray) (k : Fin N) : ActionObs req (.cellAccess array k)
  | payloadRead (offset width : Nat) (inside : offset + width ≤ (structOf p req.handler).size) :
      ActionObs req (.payloadRead offset width)
  | timeStamp : ActionObs req .sbTimeStampMsg
  | transmit (packet : HkTlm p N) (increment : Bool) :
      ActionObs req (.sbTransmitMsg packet increment)
  | tblManage : ActionObs req (.tblManage (d.tblHandles.get exampleTable))
  | tblGetAddress (status : CfeStatus) :
      ActionObs req (.tblGetAddress (d.tblHandles.get exampleTable) status)
  | tblGetInfo (name : String) (status : CfeStatus) : ActionObs req (.tblGetInfo name status)
  | tblReleaseAddress (status : CfeStatus) :
      ActionObs req (.tblReleaseAddress (d.tblHandles.get exampleTable) status)
  | sysLog (spec : String) (args : List Arg) : ActionObs req (.esWriteToSysLog spec args)
  | tableRead (int1 int2 : UInt16) : ActionObs req (.tableRead int1 int2)

theorem blinkerNumber_inside : blinkerNumberOffset p + 2 ≤ (specBlinkerT p).size :=
  offsetof_add_size_le (specBlinkerFields p) 1 uint16 rfl

theorem blinkerNumber1_inside : blinkerNumber1Offset p + 2 ≤ (swapBlinkersT p).size :=
  offsetof_add_size_le (swapBlinkersFields p) 1 uint16 rfl

theorem blinkerNumber2_inside : blinkerNumber2Offset p + 2 ≤ (swapBlinkersT p).size :=
  offsetof_add_size_le (swapBlinkersFields p) 2 uint16 rfl

/-- A field of the payload of `BLINKER_APP_DisplayParamCmd_t` lies inside the message. -/
theorem displayParam_inside (i : Nat) (t : CType) (found : displayParamPayloadFields[i]? = some t) :
    payloadOffset p + offsetof displayParamPayloadFields i + t.size ≤
      (displayParamCmdT p).size := by
  have payload := offsetof_add_size_le (displayParamCmdFields p) 1 _ rfl
  have field := offsetof_add_size_le displayParamPayloadFields i t found
  unfold payloadOffset displayParamCmdT
  omega

theorem mem_processTrace {req : Request N} {e : Obs p N}
    (member : e ∈ processTrace r (d.tblHandles.get exampleTable)) : ActionObs p d req e := by
  unfold processTrace at member
  by_cases failed : r.getAddress < cfeSuccess
  · rw [if_pos failed] at member
    simp only [List.mem_cons, List.not_mem_nil, or_false] at member
    rcases member with rfl | rfl
    · exact .tblGetAddress _
    · exact .sysLog _ _
  · rw [if_neg failed] at member
    simp only [List.mem_cons, List.mem_append, List.not_mem_nil, or_false] at member
    rcases member with rfl | (rfl | rfl | rfl | rfl | rfl) | last
    · exact .tblGetAddress _
    · exact .tableRead _ _
    · exact .sysLog _ _
    · exact .tblGetInfo _ _
    · split <;> exact .sysLog _ _
    · exact .tblReleaseAddress _
    · split at last
      · rw [List.mem_singleton.mp last]
        exact .sysLog _ _
      · cases last

theorem mem_actionTrace {req : Request N} {e : Obs p N} (member : e ∈ actionTrace p r d req) :
    ActionObs p d req e := by
  cases req with
  | sendHk =>
    simp only [actionTrace, List.mem_cons, List.not_mem_nil, or_false] at member
    rcases member with rfl | rfl | rfl
    · exact .timeStamp
    · exact .transmit _ _
    · exact .tblManage
  | blink =>
    obtain ⟨i, low, touched⟩ := List.mem_flatMap.mp member
    have cell (array : BlinkerArray) : ActionObs p d .blink (.cellAccess array i) :=
      .cellAccess array ⟨i, List.mem_range.mp low⟩
    rcases List.mem_cons.mp touched with rfl | counted
    · exact cell _
    · split at counted
      · simp only [List.mem_cons, List.not_mem_nil, or_false, or_self] at counted
        exact counted ▸ cell _
      · cases counted
  | noop | resetCounters => cases member
  | process => exact mem_processTrace p r d member
  | displayParam =>
    simp only [actionTrace, List.mem_cons, List.not_mem_nil, or_false] at member
    rcases member with rfl | rfl
    · exact .payloadRead _ _ (displayParam_inside p 0 uint32 rfl)
    · exact .payloadRead _ _ (displayParam_inside p 1 int16 rfl)
  | resetAll | enableAll | disableAll =>
    obtain ⟨i, low, rfl⟩ := List.mem_map.mp member
    exact .cellAccess _ ⟨i, Nat.lt_of_lt_of_le (List.mem_range.mp low) (loopBound_le N)⟩
  | resetSpec k | reportSpec k | enableSpec k | disableSpec k =>
    simp only [actionTrace, List.mem_cons, List.not_mem_nil, or_false] at member
    rcases member with rfl | rfl
    · exact .payloadRead _ _ (blinkerNumber_inside p)
    · exact .cellAccess _ k
  | swapCounts a b =>
    simp only [actionTrace, List.mem_cons, List.not_mem_nil, or_false] at member
    rcases member with rfl | rfl | rfl | rfl | rfl | rfl | rfl | rfl
    · exact .payloadRead _ _ (blinkerNumber1_inside p)
    · exact .payloadRead _ _ (blinkerNumber2_inside p)
    · exact .cellAccess _ a
    · exact .cellAccess _ b
    · exact .cellAccess _ a
    · exact .cellAccess _ b
    · exact .cellAccess _ a
    · exact .cellAccess _ b

/-- The events of accepted messages are informational. -/
theorem requestEvent_type {req : Request N} {event : Event}
    (found : requestEvent p m d req = some event) : event.type = .information := by
  cases req <;> cases found <;> rfl

theorem requestEvent_id {req : Request N} {event : Event}
    (found : requestEvent p m d req = some event) :
    event.id ∈ [noopInfEid, resetInfEid, valueInfEid, reportSpecBlinkerInfEid] := by
  cases req <;> cases found <;> simp [blinkerEvent]

/-- What can be seen while an accepted message is processed. -/
theorem mem_requestTrace {req : Request N} {e : Obs p N} (member : e ∈ requestTrace p r m d req) :
    ActionObs p d req e ∨ (∃ event, requestEvent p m d req = some event ∧ e = .evsSendEvent event) ∨
      e = .handled req.handler (handlerStatus r req) := by
  rcases List.mem_append.mp member with inside | last
  · rcases List.mem_append.mp inside with action | ending
    · exact .inl (mem_actionTrace p r d action)
    · obtain ⟨event, found, rfl⟩ := List.mem_map.mp ending
      exact .inr (.inl ⟨event, Option.mem_toList.mp found, rfl⟩)
  · exact .inr (.inr (List.mem_singleton.mp last))

/-- A facet that no action has is that of the event and of the return of the handler. -/
theorem filterMap_requestTrace {α : Type} (facet : Obs p N → Option α) (req : Request N)
    (still : ∀ e, ActionObs p d req e → facet e = none) :
    (requestTrace p r m d req).filterMap facet =
      ((requestEvent p m d req).toList.map Obs.evsSendEvent ++
        [Obs.handled req.handler (handlerStatus r req)]).filterMap facet := by
  have action : (actionTrace p r d req).filterMap facet = [] := by
    apply List.filterMap_eq_nil_iff.mpr
    intro e member
    exact still e (mem_actionTrace p r d member)
  rw [requestTrace, handlerTrace, List.append_assoc, List.filterMap_append, action, List.nil_append]

theorem handled_requestTrace (req : Request N) :
    (requestTrace p r m d req).filterMap Obs.handled? = [(req.handler, handlerStatus r req)] := by
  have still : ∀ e, ActionObs p d req e → e.handled? = none := by
    intro e action
    cases action <;> rfl
  rw [filterMap_requestTrace p r m d Obs.handled? req still]
  cases requestEvent p m d req <;> rfl

theorem events_requestTrace (req : Request N) :
    (requestTrace p r m d req).filterMap Obs.event? = (requestEvent p m d req).toList := by
  have still : ∀ e, ActionObs p d req e → e.event? = none := by
    intro e action
    cases action <;> rfl
  rw [filterMap_requestTrace p r m d Obs.event? req still]
  cases requestEvent p m d req <;> rfl

theorem errorEvents_requestTrace (req : Request N) :
    (requestTrace p r m d req).filterMap Obs.errorEvent? = [] := by
  apply List.filterMap_eq_nil_iff.mpr
  intro e member
  rcases mem_requestTrace p r m d member with action | ⟨event, found, rfl⟩ | rfl
  · cases action <;> rfl
  · simp [Obs.errorEvent?, Obs.event?, requestEvent_type p m d found]
  · rfl

theorem cells_requestTrace (req : Request N) :
    ∀ e ∈ requestTrace p r m d req, e.CellInRange := by
  intro e member
  rcases mem_requestTrace p r m d member with action | ⟨event, -, rfl⟩ | rfl
  · cases action with
    | cellAccess array k => exact k.isLt
    | _ => trivial
  · trivial
  · trivial

/-! ## Rejections -/

/-- What a rejection can do. -/
inductive RejectionObs (why : Rejection) : Obs p N → Prop
  | payloadRead (offset : Nat) (inside : offset + 2 ≤ m.size) :
      RejectionObs why (.payloadRead offset 2)
  | event : RejectionObs why (.evsSendEvent (why.event p N m))
  | handled (h : Handler) : RejectionObs why (.handled h (some (-1)))

/-- The numbers a rejection reads lie inside the message. -/
theorem reads_inside {h : Handler} (sized : WellSized p m h) (checked : h.rangeChecked = true)
    {e : Obs p N} (read : e ∈ (Rejection.outOfRange h).reads p) :
    ∃ offset, e = .payloadRead offset 2 ∧ offset + 2 ≤ m.size := by
  have fits := sized.2.2
  cases h with
  | swapCounts =>
    simp only [Rejection.reads, List.mem_cons, List.not_mem_nil, or_false] at read
    rcases read with rfl | rfl
    · exact ⟨_, rfl, fits ▸ blinkerNumber1_inside p⟩
    · exact ⟨_, rfl, fits ▸ blinkerNumber2_inside p⟩
  | resetSpec | reportSpec | enableSpec | disableSpec =>
    exact ⟨_, List.mem_singleton.mp read, fits ▸ blinkerNumber_inside p⟩
  | _ => cases checked

/-- What can be seen while a message that is not accepted is processed. -/
theorem mem_rejection (rejected : parse p N m = none) {e : Obs p N}
    (member : e ∈ (rejectionOf p m).trace p m) : RejectionObs p m (rejectionOf p m) e := by
  have holds := rejectionOf_spec p m
  simp only [Rejection.trace, List.mem_append, List.mem_cons] at member
  rcases member with read | rfl | called
  · cases why : rejectionOf p m with
    | outOfRange h =>
      rw [why] at holds read
      have checked := rangeChecked_of_outOfRange p m rejected why
      obtain ⟨offset, rfl, inside⟩ := reads_inside p m holds checked read
      exact .payloadRead offset inside
    | _ =>
      rw [why] at read
      cases read
  · exact .event
  · cases why : rejectionOf p m with
    | outOfRange h =>
      rw [why] at called
      rw [List.mem_singleton.mp called]
      exact .handled h
    | _ =>
      rw [why] at called
      cases called

/-- What can be seen while a message is processed. -/
theorem mem_taskPipe {e : Obs p N} (member : e ∈ (taskPipe p r m d).trace) :
    (∃ req, parse p N m = some req ∧ (ActionObs p d req e ∨
      (∃ event, requestEvent p m d req = some event ∧ e = .evsSendEvent event) ∨
      e = .handled req.handler (handlerStatus r req))) ∨
    (parse p N m = none ∧ RejectionObs p m (rejectionOf p m) e) := by
  cases found : parse p N m with
  | some req =>
    rw [taskPipe_of_accepted p r m d found] at member
    exact .inl ⟨req, rfl, mem_requestTrace p r m d member⟩
  | none =>
    rw [taskPipe_of_rejected p r m d found] at member
    exact .inr ⟨rfl, mem_rejection p m found member⟩

/-- The events a message can be answered with. -/
theorem event_taskPipe {event : Event} (sent : .evsSendEvent event ∈ (taskPipe p r m d).trace) :
    (∃ req, parse p N m = some req ∧ requestEvent p m d req = some event) ∨
    (parse p N m = none ∧ event = (rejectionOf p m).event p N m) := by
  rcases mem_taskPipe p r m d sent with
    ⟨req, found, action | ⟨event', made, same⟩ | other⟩ | ⟨found, rejection⟩
  · cases action
  · cases same
    exact .inl ⟨req, found, made⟩
  · cases other
  · cases rejection
    exact .inr ⟨found, rfl⟩

theorem handled_rejection (why : Rejection) :
    (why.trace p m : List (Obs p N)).filterMap Obs.handled? =
      match why with
      | .outOfRange h => [(h, some (-1))]
      | _ => [] := by
  cases why with
  | outOfRange h => cases h <;> rfl
  | _ => rfl

theorem events_rejection (why : Rejection) :
    (why.trace p m : List (Obs p N)).filterMap Obs.event? = [why.event p N m] := by
  cases why with
  | outOfRange h => cases h <;> rfl
  | _ => rfl

theorem rejectionEvent_id (why : Rejection) :
    (why.event p N m).id ∈ [midErrEid, ccErrEid, cmdLenErrEid] := by
  cases why with
  | outOfRange h => cases h <;> simp [Rejection.event]
  | _ => simp [Rejection.event]

theorem errorEvents_rejection (why : Rejection) :
    (why.trace p m : List (Obs p N)).filterMap Obs.errorEvent? = [why.event p N m] := by
  cases why with
  | outOfRange h => cases h <;> rfl
  | _ => rfl

end BlinkerApp
