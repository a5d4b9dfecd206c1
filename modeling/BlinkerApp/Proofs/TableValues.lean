import BlinkerApp.Misc.CStruct
import BlinkerApp.Model.Tables
import BlinkerApp.Proofs.MainRefinement
import BlinkerApp.Proofs.TableAccess

/-!
# The values of the table

The app registers its validation function with the table and reads the table only while it holds
its address, so that every value it uses comes from an image the function accepted, as long as
the table services make no image active but one that the registered function accepts. The image
of the table file is accepted.
-/

namespace BlinkerApp

open Traced Custody CLayout CType

variable {p : Platform} {N : Nat}

/-! ## Images -/

/-- The app reads an image as it was made. -/
theorem ExampleTable.load_image (order : ByteOrder) (memory : Nat → UInt8) (t : ExampleTable) :
    load order (t.image order memory) = t := by
  have int1 : (t.fields order)[0]? = some (.int order uint16 t.int1.toNat) := rfl
  have int2 : (t.fields order)[1]? = some (.int order uint16 t.int2.toNat) := rfl
  have first := (load_int_field memory 0 int1).trans (Nat.mod_eq_of_lt t.int1.toNat_lt)
  have second := (load_int_field memory 1 int2).trans (Nat.mod_eq_of_lt t.int2.toNat_lt)
  have read (i : Nat) (n : UInt16)
      (loaded : CLayout.load order (t.image order memory) (offsetof [uint16, uint16] i) 2 =
        n.toNat) :
      UInt16.ofNat
        (CLayout.load order (t.image order memory) (offsetof [uint16, uint16] i) 2) = n := by
    rw [loaded, UInt16.ofNat_toNat]
  exact congrArg₂ ExampleTable.mk (read 0 _ first) (read 1 _ second)

/-- The first value alone decides whether an image is accepted. -/
theorem tblValidationFunc_iff (order : ByteOrder) (tblData : Nat → UInt8) :
    tblValidationFunc order tblData = cfeSuccess ↔
      (ExampleTable.load order tblData).int1 ≤ tblElement1Max := by
  unfold tblValidationFunc
  split
  case isTrue above => exact iff_of_false (by decide) (UInt16.not_le.mpr above)
  case isFalse below => exact iff_of_true rfl (UInt16.not_lt.mp below)

/-- The table of the table file is accepted. -/
theorem exampleTableContents_valid (order : ByteOrder) (memory : Nat → UInt8) :
    tblValidationFunc order (exampleTableContents.image order memory) = cfeSuccess := by
  rw [tblValidationFunc_iff, ExampleTable.load_image]
  decide

/-! ## The table services -/

/-- What the table services keep of a table: the function that was registered with it, and the
image that is active. -/
structure TableServices where
  validation : Option TblCallbackFunc
  active : Option (Nat → UInt8)

/-- A function was registered, and it accepts the image. -/
def TableServices.Accept (services : TableServices) (image : Nat → UInt8) : Prop :=
  ∃ validation, services.validation = some validation ∧ validation image = cfeSuccess

/-- What the table services are assumed to do in a trace, with the addresses `held` at its start:
a registration that is no error hands them the validation function, a load that succeeds and the
management of a table make no image active but one that the registered function accepts, an
address is given out only of a table that was loaded, and the app finds the active image there
while it holds the address. Of a read without an address nothing is assumed. -/
def TablesServe (order : ByteOrder) :
    TableServices → List TblHandle → List (Obs p N) → Prop
  | _, _, [] => True
  | services, held, e :: trace =>
    let later (services : TableServices) := TablesServe order services
      (hold held e.transfer?) trace
    let replaced := ∃ image, services.Accept image ∧ later { services with active := some image }
    match e with
    | .tblRegister _ _ _ validation _ status =>
        later (if cfeSuccess ≤ status then { services with validation := some validation }
          else services)
    | .tblLoad _ _ _ status => if status = cfeSuccess then replaced else later services
    | .tblManage _ => later services ∨ replaced
    | .tblGetAddress _ status => (cfeSuccess ≤ status → services.active.isSome) ∧ later services
    | .tableRead int1 int2 =>
        (held ≠ [] → ∀ image, services.active = some image →
          ExampleTable.load order image = ⟨int1, int2⟩) ∧ later services
    | _ => later services

/-- The observations the assumption is about. -/
def Obs.ofTables : Obs p N → Bool
  | .tblRegister .. | .tblLoad .. | .tblManage _ | .tblGetAddress .. | .tblReleaseAddress ..
  | .tableRead .. => true
  | _ => false

/-- The validation function that is registered with the table. -/
def Obs.registered? : Obs p N → Option TblCallbackFunc
  | .tblRegister _ _ _ validation _ _ => some validation
  | _ => none

theorem tablesServe_filter {order : ByteOrder} {services : TableServices} {held : List TblHandle}
    {trace : List (Obs p N)} :
    TablesServe order services held (trace.filter Obs.ofTables) ↔
      TablesServe order services held trace := by
  induction trace generalizing services held with
  | nil => exact Iff.rfl
  | cons e trace ih =>
    cases e with
    | tblRegister | tblLoad | tblManage | tblGetAddress | tblReleaseAddress | tableRead =>
      simp only [List.filter, Obs.ofTables, TablesServe, ih]
    | _ => exact ih

/-- Every image that is active was accepted by the function. -/
structure TableServices.Validated (services : TableServices) (validation : TblCallbackFunc) :
    Prop where
  registered : ∀ other, services.validation = some other → other = validation
  accepted : ∀ image, services.active = some image → validation image = cfeSuccess

theorem TableServices.Validated.replace {services : TableServices} {validation : TblCallbackFunc}
    (validated : services.Validated validation) {image : Nat → UInt8}
    (accept : services.Accept image) :
    TableServices.Validated { services with active := some image } validation := by
  obtain ⟨other, registered, accepts⟩ := accept
  refine ⟨validated.registered, fun image' same => ?_⟩
  obtain rfl := Option.some.inj same
  exact validated.registered other registered ▸ accepts

theorem TableServices.Validated.register {services : TableServices}
    {validation other : TblCallbackFunc} (validated : services.Validated validation)
    (same : other = validation) (status : CfeStatus) :
    TableServices.Validated (if cfeSuccess ≤ status then
      { services with validation := some other } else services) validation := by
  split
  · exact ⟨fun other' again => (Option.some.inj again).symm.trans same, validated.accepted⟩
  · exact validated

/-- What is read while an address is held comes from an image that was accepted. -/
theorem reads_validated {order : ByteOrder} {validation : TblCallbackFunc}
    {services : TableServices} {held : List TblHandle} {trace : List (Obs p N)}
    (serves : TablesServe order services held trace)
    (obeys : Obeys Obs.transfer? TableRule held trace)
    (registers : ∀ e ∈ trace, ∀ other, e.registered? = some other → other = validation)
    (validated : services.Validated validation)
    (loaded : held ≠ [] → services.active.isSome) {int1 int2 : UInt16}
    (member : .tableRead int1 int2 ∈ trace) :
    ∃ image, validation image = cfeSuccess ∧ ExampleTable.load order image = ⟨int1, int2⟩ := by
  induction trace generalizing services held with
  | nil => cases member
  | cons e trace ih =>
    obtain ⟨allowed, obeysLater⟩ := (obeys_cons Obs.transfer? TableRule held e trace).mp obeys
    have registersLater := fun e' later => registers e' (List.mem_cons_of_mem e later)
    replace ih := fun services held serves obeys => @ih services held serves obeys registersLater
    cases e with
    | tblRegister name size options other handle status =>
      have same := registers _ List.mem_cons_self other rfl
      refine ih _ _ serves obeysLater (validated.register same status) (fun taken => ?_)
        (by simpa using member)
      have kept := loaded taken
      split <;> exact kept
    | tblLoad handle srcType file status =>
      have rest : .tableRead int1 int2 ∈ trace := by simpa using member
      by_cases ok : status = cfeSuccess
      · obtain ⟨image, accept, later⟩ := (if_pos ok).mp serves
        exact ih _ _ later obeysLater (validated.replace accept) (fun _ => rfl) rest
      · exact ih _ _ ((if_neg ok).mp serves) obeysLater validated loaded rest
    | tblManage handle =>
      have rest : .tableRead int1 int2 ∈ trace := by simpa using member
      rcases serves with later | ⟨image, accept, later⟩
      · exact ih _ _ later obeysLater validated loaded rest
      · exact ih _ _ later obeysLater (validated.replace accept) (fun _ => rfl) rest
    | tblGetAddress handle status =>
      refine ih _ _ serves.2 obeysLater validated (fun taken => ?_) (by simpa using member)
      by_cases failed : status < cfeSuccess
      · rw [Obs.transfer?, if_pos failed] at taken
        exact loaded taken
      · exact serves.1 (Int32.not_lt.mp failed)
    | tblReleaseAddress handle status =>
      refine ih _ _ serves obeysLater validated (fun still => loaded ?_) (by simpa using member)
      rintro rfl
      exact still rfl
    | tableRead int1' int2' =>
      rcases List.mem_cons.mp member with same | rest
      · cases same
        obtain ⟨image, isActive⟩ := Option.isSome_iff_exists.mp (loaded allowed)
        exact ⟨image, validated.accepted image isActive, serves.1 allowed image isActive⟩
      · exact ih _ _ serves.2 obeysLater validated loaded rest
    | _ => exact ih _ _ serves obeysLater validated loaded (by simpa using member)

/-! ## The whole program -/

/-- What is seen of the loop itself is not about addresses. -/
theorem settled_own {trace : List (Obs p N)} (own : ∀ e ∈ trace, LoopObs e) :
    Settled Obs.transfer? TableRule [] trace := by
  apply settled_of_still
  intro e member
  cases own e member <;> exact ⟨rfl, trivial⟩

section Program

variable (p) (a : InitReplies p)

/-- The loop holds no address between two messages. -/
theorem settled_mainLoop (its : List (Iteration p)) (d : Data p N) :
    Settled Obs.transfer? TableRule [] (mainLoop p its d).trace := by
  have calls (i : Iteration p) (d : Data p N) (e : Obs p N) (last : LoopObs e) :
      Settled Obs.transfer? TableRule [] (i.callTrace d ++ [e]) := by
    apply settled_own
    intro e' member
    rcases List.mem_append.mp member with called | same
    · exact mem_callTrace called
    · rw [List.mem_singleton.mp same]
      exact last
  induction its, d using mainLoop_induction p with
  | nil d => exact settled_nil _ _ _
  | left i later d stop =>
    rw [mainLoop_left p later stop]
    refine settled_own fun e member => ?_
    rw [List.mem_singleton.mp member]
    exact .esRunLoop _ _
  | received i later d go ok ih =>
    have before := calls i d (.taskPipe i.buffer) (.taskPipe _)
    have inside := settled_taskPipe i.replies i.buffer (i.enter d)
    rw [mainLoop_received p later go ok, Outcome.prepend_trace, List.append_cons]
    exact (before.append inside).append ih
  | failed i later d go failed ih =>
    rw [mainLoop_failed p later go failed, Outcome.prepend_trace]
    exact (calls i d _ .pipeErr).append ih

theorem settled_main (its : List (Iteration p)) (d₀ : Data p N) :
    Settled Obs.transfer? TableRule [] (main p a its d₀).trace := by
  have opening : Settled Obs.transfer? TableRule []
      (.esPerfLogEntry perfId :: (init p a d₀).trace) := by
    apply settled_of_still
    intro e member
    rcases List.mem_cons.mp member with rfl | atStart
    · exact ⟨rfl, trivial⟩
    · cases mem_init p a atStart <;> exact ⟨rfl, trivial⟩
  have leaving : Settled Obs.transfer? TableRule []
      (closing (loopOutcome p a its : Outcome (Data p N) (Obs p N) Bool)) := by
    apply settled_of_still
    intro e member
    rcases mem_closing member with rfl | rfl <;> exact ⟨rfl, trivial⟩
  rw [main_trace]
  exact opening.append ((settled_mainLoop p its _).append leaving)

/-- The app registers its own validation function only. -/
theorem main_registered (its : List (Iteration p)) (d₀ : Data p N) :
    ∀ e ∈ (main p a its d₀).trace, ∀ other, e.registered? = some other →
      other = tblValidationFunc p.byteOrder := by
  intro e member other registered
  have inside (e : Obs p N) (inner : e.outer = false) : e.registered? = none := by
    cases e <;> first | rfl | cases inner
  rcases mem_main p a member with (rfl | atStart) | inLoop | leaving
  · cases registered
  · cases atStart <;> cases registered
    rfl
  · rw [mainLoop_none p inside (fun e seen => by cases seen <;> rfl) its _ e inLoop] at registered
    cases registered
  · rcases mem_closing leaving with rfl | rfl <;> cases registered

variable {p a}

/-- In every execution of `BLINKER_APP_Main`, while the table services do what is assumed of
them, every value of the table the app uses comes from an image its validation function
accepted, so that the first one is in range. -/
theorem main_tableValues {its : List (Iteration p)} {d₀ : Data p N}
    (serves : TablesServe p.byteOrder ⟨none, none⟩ [] (main p a its d₀).trace) :
    ∀ int1 int2, .tableRead int1 int2 ∈ (main p a its d₀).trace →
      int1 ≤ tblElement1Max ∧ ∃ image, tblValidationFunc p.byteOrder image = cfeSuccess ∧
        ExampleTable.load p.byteOrder image = ⟨int1, int2⟩ := by
  intro int1 int2 member
  have nothing : TableServices.Validated ⟨none, none⟩ (tblValidationFunc p.byteOrder) :=
    ⟨nofun, nofun⟩
  obtain ⟨image, valid, read⟩ := reads_validated serves (settled_main p a its d₀).obeys
    (main_registered p a its d₀) nothing (fun held => absurd rfl held) member
  have inRange := (tblValidationFunc_iff p.byteOrder image).mp valid
  rw [read] at inRange
  exact ⟨inRange, image, valid, read⟩

/-- A `PROCESS` command that finds the table of the table file. -/
def processIteration : Iteration defaultPlatform :=
  ⟨fun runStatus => (true, runStatus), cfeSuccess, groundCommand defaultPlatform processCc [],
    { (default : CfeReplies defaultPlatform) with tableInt1 := 1, tableInt2 := 2 }⟩

theorem main_tableValues_contents :
    let start : Data defaultPlatform 1 := zeroData defaultPlatform
    let trace := (main defaultPlatform default [processIteration] start).trace
    ∀ int1 int2, .tableRead int1 int2 ∈ trace → int1 ≤ tblElement1Max := by
  intro start trace int1 int2 member
  have calls : trace.filter Obs.ofTables =
      [.tblRegister "ExampleTable" exampleTableT.size 0 (tblValidationFunc .little) 0 0,
        .tblLoad 0 0 tableFile 0, .tblGetAddress 0 0, .tableRead 1 2,
        .tblReleaseAddress 0 0] := rfl
  have serves : TablesServe defaultPlatform.byteOrder ⟨none, none⟩ [] trace := by
    rw [← tablesServe_filter, calls]
    refine ⟨exampleTableContents.image .little fun _ => 0, ⟨_, rfl, exampleTableContents_valid _ _⟩,
      fun _ => rfl, fun _ image same => ?_, trivial⟩
    rw [← Option.some.inj same]
    exact ExampleTable.load_image _ _ _
  exact (main_tableValues serves int1 int2 member).1

end Program

end BlinkerApp
