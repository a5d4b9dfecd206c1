import BlinkerApp.Model.Commands
import BlinkerApp.Proofs.StartUp

/-!
# The format of the ground commands

The app carries out a ground command exactly when it is the C struct of a request, filled in
by some sender: what a sender encodes is what the app decodes, and the app decodes nothing
else. A blinker number has 16 bits, so that a request for a later blinker has no encoding.
-/

namespace BlinkerApp

open CLayout CType

variable {N : Nat} {p : Platform}

/-! ## Encoding -/

/-- A blinker number as a field holds it. -/
def numberField (k : Fin N) : Option UInt16 :=
  if k.val < 2 ^ 16 then some (UInt16.ofNat k) else none

/-- The ground command of a request, with the parts of its struct the request leaves open. -/
def Request.command (s : Sender p) (padding : UInt16) (param : DisplayParamPayload) :
    Request N → Option SbBuffer
  | .sendHk | .blink => none
  | .noop => some (s.noArgs noopCc)
  | .resetCounters => some (s.noArgs resetCountersCc)
  | .process => some (s.noArgs processCc)
  | .displayParam => some (s.displayParam displayParamCc param)
  | .resetAll => some (s.noArgs resetAllBlinkersCc)
  | .enableAll => some (s.noArgs enableAllBlinkersCc)
  | .disableAll => some (s.noArgs disableAllBlinkersCc)
  | .resetSpec k => (numberField k).map fun n => s.specBlinker resetSpecBlinkerCc n padding
  | .reportSpec k => (numberField k).map fun n => s.specBlinker reportSpecBlinkerCc n padding
  | .enableSpec k => (numberField k).map fun n => s.specBlinker enableSpecBlinkerCc n padding
  | .disableSpec k => (numberField k).map fun n => s.specBlinker disableSpecBlinkerCc n padding
  | .swapCounts a b =>
      (numberField a).bind fun n1 =>
        (numberField b).map fun n2 => s.swapBlinkers swapTwoBlinkersCc n1 n2

theorem numberField_eq_some {k : Fin N} {n : UInt16} : numberField k = some n ↔ n.toNat = k := by
  unfold numberField
  split
  case isTrue small =>
    rw [Option.some_inj, ← UInt16.toNat_inj, UInt16.toNat_ofNat', Nat.mod_eq_of_lt small, eq_comm]
  case isFalse large =>
    constructor
    · intro none
      cases none
    · intro same
      exact absurd (same ▸ n.toNat_lt) large

/-- A number is decoded as the blinker it was encoded for. -/
theorem blinkerOf_iff {k : Fin N} {n : UInt16} :
    blinkerOf N n = some k ↔ numberField k = some n := by
  rw [blinkerOf_eq_some, numberField_eq_some]

/-! ## What a sender stores -/

section Stored

variable (s : Sender p) (fcnCode : UInt16)

theorem uint16At_command {payload : List Field} {n : UInt16} (i : Nat)
    (found : (s.headerField :: payload)[i]? = some (.int p.byteOrder uint16 n.toNat)) :
    uint16At p (s.command fcnCode payload)
      (offsetof ((s.headerField :: payload).map Field.type) i) = n := by
  have loaded := load_int_field s.memory i found
  apply UInt16.toNat_inj.mp
  unfold uint16At
  rw [UInt16.toNat_ofNat']
  have small := n.toNat_lt
  have width : uint16.size = 2 := rfl
  rw [width] at loaded
  show load p.byteOrder (storeFields s.memory 0 (s.headerField :: payload)) _ 2 % _ = _
  rw [loaded]
  omega

theorem blinkerNumber_specBlinker (n padding : UInt16) :
    blinkerNumber p (s.specBlinker fcnCode n padding) = n :=
  uint16At_command s fcnCode 1 rfl

theorem blinkerNumber1_swapBlinkers (n1 n2 : UInt16) :
    blinkerNumber1 p (s.swapBlinkers fcnCode n1 n2) = n1 :=
  uint16At_command s fcnCode 1 rfl

theorem blinkerNumber2_swapBlinkers (n1 n2 : UInt16) :
    blinkerNumber2 p (s.swapBlinkers fcnCode n1 n2) = n2 :=
  uint16At_command s fcnCode 2 rfl

/-- The values of a `DISPLAY_PARAM` are read as they were stored. -/
theorem displayParam_read (payload : DisplayParamPayload) :
    let m := s.displayParam fcnCode payload
    valU32 p m = payload.valU32 ∧ valI16 p m = payload.valI16 ∧
      ∀ i : Fin stringValLen, m.memory (valStrOffset p + i) = payload.valStr.get i := by
  intro m
  have nested (j : Nat) {f : Field} (found : (payload.fields p.byteOrder)[j]? = some f) :
      Holds m.memory (payloadOffset p + offsetof displayParamPayloadFields j) f.bytes :=
    holds_nested s.memory _ 1 j rfl found
  refine ⟨?_, ?_, fun i => ?_⟩
  · have loaded := load_of_holds (nested 0 (f := .int p.byteOrder uint32 _) rfl)
    apply UInt32.toNat_inj.mp
    have small := payload.valU32.toNat_lt
    have width : uint32.size = 4 := rfl
    show (UInt32.ofNat (load _ _ (payloadOffset p + offsetof displayParamPayloadFields 0)
      uint32.size)).toNat = _
    rw [loaded, UInt32.toNat_ofNat', width]
    omega
  · have loaded := load_of_holds (nested 1 (f := .int p.byteOrder int16 _) rfl)
    have small := payload.valI16.toUInt16.toNat_lt
    have width : int16.size = 2 := rfl
    show Int16.ofNat (load _ _ (payloadOffset p + offsetof displayParamPayloadFields 1)
      int16.size) = _
    rw [loaded, width, Nat.mod_eq_of_lt (by omega)]
    exact congrArg Int16.ofUInt16 (UInt16.ofNat_toNat ..)
  · have held := holds_iff.mp (nested 2 (f := .chars payload.valStr) rfl)
    exact held i _ (by simp [Field.chars, Vector.get])

end Stored

/-- A request is decoded from its command. -/
theorem parse_command {req : Request N} {s : Sender p} {padding : UInt16}
    {param : DisplayParamPayload} {m : SbBuffer}
    (encoded : req.command s padding param = some m) :
    m.msgId = cmdMid p ∧ parse p N m = some req := by
  cases req with
  | sendHk | blink => cases encoded
  | noop | resetCounters | process | displayParam | resetAll | enableAll | disableAll =>
    cases encoded
    exact ⟨rfl, (parse_of_cmdMid p _ rfl).trans (if_pos rfl)⟩
  | resetSpec k | reportSpec k | enableSpec k | disableSpec k =>
    obtain ⟨n, number, rfl⟩ := Option.map_eq_some_iff.mp encoded
    refine ⟨rfl, (parse_of_cmdMid p _ rfl).trans ((if_pos rfl).trans ?_)⟩
    simp only [requestOf, blinkerNumber_specBlinker, blinkerOf_iff.mpr number]
    rfl
  | swapCounts a b =>
    obtain ⟨n1, first, rest⟩ := Option.bind_eq_some_iff.mp encoded
    obtain ⟨n2, second, rfl⟩ := Option.map_eq_some_iff.mp rest
    refine ⟨rfl, (parse_of_cmdMid p _ rfl).trans ((if_pos rfl).trans ?_)⟩
    simp only [requestOf, blinkerNumber1_swapBlinkers, blinkerNumber2_swapBlinkers,
      blinkerOf_iff.mpr first, blinkerOf_iff.mpr second]
    rfl

/-! ## Decoding -/

section Decoding

variable (p) (m : SbBuffer)

/-- The sender in whose memory the message is. -/
def senderOf : Sender p where
  header := Vector.ofFn fun i => m.memory i
  memory := m.memory

/-- The padding of a `BLINKER_APP_SpecBlinker_t` -/
def paddingOf : UInt16 := uint16At p m (offsetof (specBlinkerFields p) 2)

/-- The payload of a `BLINKER_APP_DisplayParamCmd_t` -/
def paramOf : DisplayParamPayload where
  valU32 := valU32 p m
  valI16 := valI16 p m
  valStr := Vector.ofFn fun i => m.memory (valStrOffset p + i)

variable {p m}

/-- A command that holds the fields is the command with these fields. -/
theorem command_self {payload : List Field} (isCmd : m.msgId = cmdMid p)
    (fits : m.size = (struct (p.commandHeader :: payload.map Field.type)).size)
    (holds : ∀ i f, payload[i]? = some f →
      Holds m.memory (offsetof (p.commandHeader :: payload.map Field.type) (i + 1)) f.bytes) :
    (senderOf p m).command m.fcnCode payload = m := by
  have header : Holds m.memory 0 (senderOf p m).header.toList := by
    rw [holds_iff]
    intro i b found
    obtain ⟨below, rfl⟩ := List.getElem?_eq_some_iff.mp found
    simp [senderOf]
  have same : (senderOf p m).memory = m.memory := rfl
  have stored : storeFields m.memory 0 ((senderOf p m).headerField :: payload) = m.memory := by
    apply storeFields_self
    intro i f found
    cases i with
    | zero =>
      obtain rfl : (senderOf p m).headerField = f := by simpa using found
      rw [List.map_cons, offsetof_first]
      exact header
    | succ i => exact holds i f (by simpa using found)
  unfold Sender.command
  rw [same, stored, ← isCmd]
  exact congrArg (SbBuffer.mk m.msgId m.fcnCode · m.memory) fits.symm

theorem holds_uint16At (offset : Nat) :
    Holds m.memory offset (bytesOf p.byteOrder 2 (uint16At p m offset).toNat) := by
  have held := holds_load p.byteOrder m.memory offset 2
  have small : load p.byteOrder m.memory offset 2 < 2 ^ 16 := load_lt p.byteOrder m.memory offset 2
  unfold uint16At
  rwa [UInt16.toNat_ofNat', Nat.mod_eq_of_lt small]

theorem holds_two_uint16At (number : Nat → UInt16)
    (read : ∀ i < 2, number i = uint16At p m (offsetof (specBlinkerFields p) (i + 1))) :
    ∀ i f, [Field.int p.byteOrder uint16 (number 0).toNat,
        .int p.byteOrder uint16 (number 1).toNat][i]? = some f →
      Holds m.memory (offsetof (specBlinkerFields p) (i + 1)) f.bytes := by
  intro i f found
  match i, found with
  | 0, found =>
    cases found
    rw [read 0 (by decide)]
    exact holds_uint16At _
  | 1, found =>
    cases found
    rw [read 1 (by decide)]
    exact holds_uint16At _

theorem noArgs_self (isCmd : m.msgId = cmdMid p) (fits : m.size = (noArgsT p).size) :
    (senderOf p m).noArgs m.fcnCode = m := by
  refine command_self isCmd fits fun i f found => ?_
  rw [List.getElem?_nil] at found
  cases found

theorem specBlinker_self (isCmd : m.msgId = cmdMid p) (fits : m.size = (specBlinkerT p).size) :
    (senderOf p m).specBlinker m.fcnCode (blinkerNumber p m) (paddingOf p m) = m :=
  command_self isCmd fits (holds_two_uint16At
    (fun i => uint16At p m (offsetof (specBlinkerFields p) (i + 1))) fun _ _ => rfl)

theorem swapBlinkers_self (isCmd : m.msgId = cmdMid p) (fits : m.size = (swapBlinkersT p).size) :
    (senderOf p m).swapBlinkers m.fcnCode (blinkerNumber1 p m) (blinkerNumber2 p m) = m :=
  command_self isCmd fits (holds_two_uint16At
    (fun i => uint16At p m (offsetof (specBlinkerFields p) (i + 1))) fun _ _ => rfl)

/-- A memory holds the payload that is read from it. -/
theorem holds_paramOf : ∀ i f, ((paramOf p m).fields p.byteOrder)[i]? = some f →
    Holds m.memory (payloadOffset p + offsetof displayParamPayloadFields i) f.bytes := by
  intro i f found
  match i, found with
  | 0, found =>
    cases found
    have held := holds_load p.byteOrder m.memory (valU32Offset p) 4
    have small : load p.byteOrder m.memory (valU32Offset p) 4 < 2 ^ 32 := load_lt ..
    show Holds m.memory (valU32Offset p) (bytesOf p.byteOrder 4 (UInt32.ofNat _).toNat)
    rwa [UInt32.toNat_ofNat', Nat.mod_eq_of_lt small]
  | 1, found =>
    cases found
    exact holds_uint16At (valI16Offset p)
  | 2, found =>
    cases found
    rw [holds_iff]
    intro j b found
    obtain ⟨below, rfl⟩ := List.getElem?_eq_some_iff.mp found
    simp [Field.chars, paramOf, valStrOffset]

theorem displayParam_self (isCmd : m.msgId = cmdMid p)
    (fits : m.size = (displayParamCmdT p).size) :
    (senderOf p m).displayParam m.fcnCode (paramOf p m) = m := by
  refine command_self isCmd fits fun i f found => ?_
  match i, found with
  | 0, found =>
    cases found
    let inner : Nat → UInt8 := fun i => m.memory (payloadOffset p + i)
    have same : storeFields inner 0 ((paramOf p m).fields p.byteOrder) = inner :=
      storeFields_self fun i f found => (holds_shift _).mpr (holds_paramOf i f found)
    show Holds m.memory (payloadOffset p)
      (bytesAt (storeFields inner 0 ((paramOf p m).fields p.byteOrder)) 0 _)
    rw [same, holds_bytesAt]
    intro i _
    rw [Nat.zero_add]

/-- A ground command that makes a request is the command of this request. -/
theorem command_of_parse {req : Request N} (isCmd : m.msgId = cmdMid p)
    (found : parse p N m = some req) :
    req.command (senderOf p m) (paddingOf p m) (paramOf p m) = some m := by
  obtain ⟨-, code, fits⟩ := wellSized_of_parse p m isCmd found
  have made : requestOf p N m req.handler = some req := by
    rwa [parse_of_cmdMid p m isCmd, code, Option.bind_some, if_pos fits] at found
  have listed := mem_commands_of_commandOf code
  cases req <;> simp only [commands, Request.handler, List.mem_cons, Prod.mk.injEq, reduceCtorEq,
    and_true, and_false, or_false, false_or, List.not_mem_nil] at listed
  case noop | resetCounters | process | resetAll | enableAll | disableAll =>
    rw [Request.command, ← listed, noArgs_self isCmd fits]
  case displayParam =>
    rw [Request.command, ← listed, displayParam_self isCmd fits]
  case resetSpec k | reportSpec k | enableSpec k | disableSpec k =>
    obtain ⟨k', number, same⟩ := Option.map_eq_some_iff.mp made
    cases same
    rw [Request.command, blinkerOf_iff.mp number, Option.map_some, ← listed,
      specBlinker_self isCmd fits]
  case swapCounts a b =>
    obtain ⟨a', first, rest⟩ := Option.bind_eq_some_iff.mp made
    obtain ⟨b', second, same⟩ := Option.map_eq_some_iff.mp rest
    cases same
    rw [Request.command, blinkerOf_iff.mp first, blinkerOf_iff.mp second, Option.bind_some,
      Option.map_some, ← listed, swapBlinkers_self isCmd fits]

end Decoding

/-! ## The requests that have a message -/

/-- The blinker numbers in a request. -/
def Request.numbers : Request N → List (Fin N)
  | .resetSpec k | .reportSpec k | .enableSpec k | .disableSpec k => [k]
  | .swapCounts a b => [a, b]
  | _ => []

variable (p) in
/-- Some sender. -/
def anySender : Sender p := ⟨.replicate _ 0, fun _ => 0⟩

/-- Some payload. -/
def anyParam : DisplayParamPayload := ⟨0, 0, .replicate _ 0⟩

variable (p) in
/-- A request is made by some message when its numbers have 16 bits. -/
theorem exists_message {req : Request N} (numbered : ∀ k ∈ req.numbers, k.val < 2 ^ 16) :
    ∃ m, parse p N m = some req := by
  have number (k : Fin N) (member : k ∈ req.numbers) :
      numberField k = some (UInt16.ofNat k) := if_pos (numbered k member)
  have encoded (m : SbBuffer) (made : req.command (anySender p) 0 anyParam = some m) :
      ∃ m, parse p N m = some req := ⟨m, (parse_command made).2⟩
  cases req with
  | sendHk => exact ⟨_, (parse_of_not_cmdMid p (bareMessage p (sendHkMid p))
      (cmdMid_ne_sendHkMid p).symm).trans (by simp [sendHkMid_ne_blinkCmdMid, bareMessage])⟩
  | blink => exact ⟨bareMessage p (blinkCmdMid p), if_pos rfl⟩
  | resetSpec k | reportSpec k | enableSpec k | disableSpec k =>
    exact encoded _ (congrArg (Option.map _) (number k (by simp [Request.numbers])))
  | swapCounts a b =>
    have first := number a (by simp [Request.numbers])
    have second := number b (by simp [Request.numbers])
    exact encoded _ ((congrArg (Option.bind · _) first).trans (congrArg (Option.map _) second))
  | _ => exact encoded _ rfl

theorem numbered_of_parse {m : SbBuffer} {req : Request N} (found : parse p N m = some req) :
    ∀ k ∈ req.numbers, k.val < 2 ^ 16 := by
  have field (k : Fin N) {n : UInt16} (holds : numberField k = some n) : k.val < 2 ^ 16 :=
    numberField_eq_some.mp holds ▸ n.toNat_lt
  by_cases isCmd : m.msgId = cmdMid p
  · have encoded := command_of_parse isCmd found
    intro k member
    cases req with
    | resetSpec j | reportSpec j | enableSpec j | disableSpec j =>
      obtain rfl := List.mem_singleton.mp member
      obtain ⟨n, holds, -⟩ := Option.map_eq_some_iff.mp encoded
      exact field k holds
    | swapCounts a b =>
      obtain ⟨n1, first, rest⟩ := Option.bind_eq_some_iff.mp encoded
      obtain ⟨n2, second, -⟩ := Option.map_eq_some_iff.mp rest
      simp only [Request.numbers, List.mem_cons, List.not_mem_nil, or_false] at member
      rcases member with rfl | rfl
      · exact field k first
      · exact field k second
    | _ => cases member
  · rw [parse_of_not_cmdMid p m isCmd] at found
    split at found
    · cases found
      simp [Request.numbers]
    · split at found <;> cases found
      simp [Request.numbers]

/-- The encoder and the parser are inverse to each other on the ground commands. -/
theorem command_iff (req : Request N) (m : SbBuffer) :
    (∃ (s : Sender p) (padding : UInt16) (param : DisplayParamPayload),
      req.command s padding param = some m) ↔ m.msgId = cmdMid p ∧ parse p N m = some req := by
  constructor
  · rintro ⟨s, padding, param, encoded⟩
    exact parse_command encoded
  · rintro ⟨isCmd, found⟩
    exact ⟨_, _, _, command_of_parse isCmd found⟩

/-! ## What the app makes of a command -/

/-- The app carries out the request, whatever its state and the answers of the cFE. -/
def Executes (p : Platform) (m : SbBuffer) (req : Request N) : Prop :=
  ∀ r d, taskPipe p r m d = ⟨(), effect r d req, requestTrace p r m d req⟩

/-- A request is known from what can be seen while it is carried out. -/
theorem requestTrace_injective (r : CfeReplies p) (m : SbBuffer) (d : Data p N)
    {req req' : Request N}
    (same : (requestTrace p r m d req : List (Obs p N)) = requestTrace p r m d req') :
    req = req' := by
  have handlers := congrArg (List.filterMap Obs.handled?) same
  have events := congrArg (List.filterMap Obs.event?) same
  rw [handled_requestTrace, handled_requestTrace] at handlers
  rw [events_requestTrace, events_requestTrace] at events
  have handler : req.handler = req'.handler := by
    injection handlers with first
    exact congrArg Prod.fst first
  cases req <;> cases req' <;> first | rfl | cases handler
  all_goals
    simp only [requestEvent, Option.toList_some, blinkerEvent, List.cons.injEq, Event.mk.injEq,
      Arg.int.injEq, true_and, and_true] at events
    grind

theorem executes_iff (p : Platform) (m : SbBuffer) (req : Request N) :
    Executes p m req ↔ parse p N m = some req := by
  constructor
  · intro executes
    have seen := congrArg Outcome.trace (executes default (zeroData p))
    cases found : parse p N m with
    | some req' =>
      rw [taskPipe_of_accepted p _ m _ found] at seen
      exact congrArg some (requestTrace_injective default m _ seen)
    | none =>
      rw [taskPipe_of_rejected p _ m _ found] at seen
      have errors := congrArg (List.filterMap Obs.errorEvent?) seen
      rw [errorEvents_rejection, errorEvents_requestTrace] at errors
      cases errors
  · intro found r d
    exact taskPipe_of_accepted p r m d found

/-- The ground commands that make the app carry out a request are exactly the C structs of
this request. Message id, function code and length are theirs; whatever else a sender leaves in
the header, in the padding and behind the message does not matter. The values of a
`DISPLAY_PARAM` are read as they were stored. -/
theorem commandFormat (p : Platform) :
    (∀ (N : Nat) (req : Request N) (m : SbBuffer),
      (m.msgId = cmdMid p ∧ Executes p m req) ↔
        ∃ (s : Sender p) (padding : UInt16) (param : DisplayParamPayload),
          req.command s padding param = some m) ∧
    ∀ (s : Sender p) (fcnCode : UInt16) (payload : DisplayParamPayload),
      let m := s.displayParam fcnCode payload
      valU32 p m = payload.valU32 ∧ valI16 p m = payload.valI16 ∧
        ∀ i : Fin stringValLen, m.memory (valStrOffset p + i) = payload.valStr.get i := by
  refine ⟨fun N req m => ?_, displayParam_read⟩
  rw [executes_iff]
  exact (command_iff req m).symm

end BlinkerApp
