import BlinkerApp.Spec.Observations

/-!
# What each handler does

One equation for each handler: its status, the state it leaves and its trace, as
`effect` and `handlerTrace` say. Later proofs use these equations and never unfold
a handler.
-/

namespace BlinkerApp

open Traced CLayout Cells

variable {p : Platform} {N : Nat}

theorem outOfRange_iff (n : UInt16) : outOfRange N n ↔ ¬ n.toNat < N := by
  unfold outOfRange
  omega

/-! ## Array cells -/

theorem loadCount_apply (d : Data p N) (i : Nat) :
    loadCount i d = ⟨d.blinkerCounts.getD i 0, d, [.cellAccess .blinkerCounts i]⟩ := rfl

theorem storeCount_apply (d : Data p N) (i : Nat) (count : UInt16) :
    storeCount i count d = ⟨(), { d with
      blinkerCounts :=
        d.blinkerCounts.setIfInBounds i count }, [.cellAccess .blinkerCounts i]⟩ := rfl

theorem loadStatus_apply (d : Data p N) (i : Nat) :
    loadStatus i d = ⟨d.blinkerStatuses.getD i 0, d, [.cellAccess .blinkerStatuses i]⟩ := rfl

theorem storeStatus_apply (d : Data p N) (i : Nat) (status : UInt8) :
    storeStatus i status d = ⟨(), { d with
      blinkerStatuses := d.blinkerStatuses.setIfInBounds i status },
      [.cellAccess .blinkerStatuses i]⟩ := rfl

/-! ## Payload fields and the table -/

theorem loadBlinkerNumber_apply (m : SbBuffer) (d : Data p N) :
    loadUint16 m (blinkerNumberOffset p) d =
      ⟨blinkerNumber p m, d, [.payloadRead (blinkerNumberOffset p) 2]⟩ := rfl

theorem loadBlinkerNumber1_apply (m : SbBuffer) (d : Data p N) :
    loadUint16 m (blinkerNumber1Offset p) d =
      ⟨blinkerNumber1 p m, d, [.payloadRead (blinkerNumber1Offset p) 2]⟩ := rfl

theorem loadBlinkerNumber2_apply (m : SbBuffer) (d : Data p N) :
    loadUint16 m (blinkerNumber2Offset p) d =
      ⟨blinkerNumber2 p m, d, [.payloadRead (blinkerNumber2Offset p) 2]⟩ := rfl

theorem readTable_apply (r : CfeReplies p) (d : Data p N) :
    readTable r d =
      ⟨(r.tableInt1, r.tableInt2), d, [.tableRead r.tableInt1 r.tableInt2]⟩ := rfl

/-! ## Handlers without blinker numbers -/

theorem noopCmd_apply (d : Data p N) :
    noopCmd d = ⟨cfeSuccess, { d with cmdCounter := d.cmdCounter + 1 },
      [.evsSendEvent ⟨noopInfEid, .information, "BLINKER: NOOP command %s", [.str version]⟩]⟩ := rfl

theorem resetCountersCmd_apply (d : Data p N) :
    resetCountersCmd d = ⟨cfeSuccess, { d with cmdCounter := 0, errCounter := 0 },
      [.evsSendEvent ⟨resetInfEid, .information, "BLINKER: RESET command", []⟩]⟩ := rfl

/-- A handler that ends without an event. -/
theorem handlerTrace_of_silent (p : Platform) (r : CfeReplies p) (m : SbBuffer) (d : Data p N)
    {req : Request N} (silent : requestEvent p m d req = none) :
    handlerTrace p r m d req = actionTrace p r d req := by
  rw [handlerTrace, silent, Option.toList_none, List.map_nil, List.append_nil]

theorem processCmd_apply (p : Platform) (r : CfeReplies p) (m : SbBuffer) (d : Data p N) :
    processCmd r d = ⟨processStatus r, d, handlerTrace p r m d .process⟩ := by
  rw [handlerTrace_of_silent p r m d rfl, actionTrace]
  unfold processCmd getCrc processStatus processTrace
  by_cases failed : r.getAddress < cfeSuccess
  · simp [failed, cfeTblGetAddress, cfeEsWriteToSysLog]
  · by_cases info : r.getInfo = cfeSuccess <;> by_cases released : r.releaseAddress = cfeSuccess <;>
      simp [failed, info, released, cfeTblGetAddress, cfeTblGetInfo, cfeTblReleaseAddress,
        cfeEsWriteToSysLog, readTable_apply]

theorem displayParamCmd_apply (p : Platform) (r : CfeReplies p) (m : SbBuffer) (d : Data p N) :
    displayParamCmd p m d = ⟨cfeSuccess, d, handlerTrace p r m d .displayParam⟩ := rfl

/-! ## Loops over the blinkers -/

/-- A loop that stores one value in the first `n` counters. -/
theorem storeCounts_apply (d : Data p N) (n : Nat) (count : UInt16) (below : n ≤ N) :
    each (fun i => storeCount i count) (List.range n) d =
      ⟨(), { d with blinkerCounts := changeBelow d.blinkerCounts n fun _ _ => count },
        (List.range n).map (.cellAccess .blinkerCounts ·)⟩ := by
  have loop := each_range (fun i => storeCount (p := p) (N := N) i count)
    (fun i => { d with blinkerCounts := changeBelow d.blinkerCounts i fun _ _ => count })
    (fun i => [.cellAccess .blinkerCounts i]) (n := n)
    (fun i low => by
      simp only [storeCount_apply]
      rw [← changeBelow_succ d.blinkerCounts (fun _ _ => count) ⟨i, by omega⟩])
  simp only [changeBelow_zero] at loop
  rw [loop, List.map_eq_flatMap]

/-- A loop that stores one value in the first `n` statuses. -/
theorem storeStatuses_apply (d : Data p N) (n : Nat) (status : UInt8) (below : n ≤ N) :
    each (fun i => storeStatus i status) (List.range n) d =
      ⟨(), { d with blinkerStatuses := changeBelow d.blinkerStatuses n fun _ _ => status },
        (List.range n).map (.cellAccess .blinkerStatuses ·)⟩ := by
  have loop := each_range (fun i => storeStatus (p := p) (N := N) i status)
    (fun i => { d with blinkerStatuses := changeBelow d.blinkerStatuses i fun _ _ => status })
    (fun i => [.cellAccess .blinkerStatuses i]) (n := n)
    (fun i low => by
      simp only [storeStatus_apply]
      rw [← changeBelow_succ d.blinkerStatuses (fun _ _ => status) ⟨i, by omega⟩])
  simp only [changeBelow_zero] at loop
  rw [loop, List.map_eq_flatMap]

theorem loopBound_le (N : Nat) : loopBound N ≤ N := by
  unfold loopBound
  omega

theorem resetAllBlinkersCmd_apply (p : Platform) (r : CfeReplies p) (m : SbBuffer) (d : Data p N) :
    resetAllBlinkersCmd d = ⟨cfeSuccess, effect r d .resetAll, handlerTrace p r m d .resetAll⟩ := by
  unfold resetAllBlinkersCmd allBlinkersCmd
  rw [← loopBound]
  simp only [bind_apply, storeCounts_apply d _ 0 (loopBound_le N)]
  rfl

theorem enableAllBlinkersCmd_apply (p : Platform) (r : CfeReplies p) (m : SbBuffer) (d : Data p N) :
    enableAllBlinkersCmd d =
      ⟨cfeSuccess, effect r d .enableAll, handlerTrace p r m d .enableAll⟩ := by
  unfold enableAllBlinkersCmd allBlinkersCmd
  rw [← loopBound]
  simp only [bind_apply, storeStatuses_apply d _ 1 (loopBound_le N)]
  rfl

theorem disableAllBlinkersCmd_apply (p : Platform) (r : CfeReplies p) (m : SbBuffer)
    (d : Data p N) :
    disableAllBlinkersCmd d =
      ⟨cfeSuccess, effect r d .disableAll, handlerTrace p r m d .disableAll⟩ := by
  unfold disableAllBlinkersCmd allBlinkersCmd
  rw [← loopBound]
  simp only [bind_apply, storeStatuses_apply d _ 0 (loopBound_le N)]
  rfl

theorem blink_apply (r : CfeReplies p) (d : Data p N) :
    blink d = ⟨(), effect r d .blink, (List.range N).flatMap (tickCells d)⟩ := by
  let bump : Fin N → UInt16 → UInt16 := fun k count =>
    if d.blinkerStatuses.get k ≠ 0 then count + 1 else count
  have loop := each_range
    (fun i => do
      let status ← loadStatus (p := p) (N := N) i
      if status ≠ 0 then
        let count ← loadCount i
        storeCount i (count + 1)
      else
        pure ())
    (fun i => { d with blinkerCounts := changeBelow d.blinkerCounts i bump })
    (tickCells d) (n := N)
    (fun i low => by
      let k : Fin N := ⟨i, low⟩
      have next := changeBelow_succ d.blinkerCounts bump k
      have same := changeBelow_succ_of_eq d.blinkerCounts bump k
      have count : (changeBelow d.blinkerCounts i bump).getD i 0 = d.blinkerCounts.get k := by
        rw [getD_fin _ k 0, get_changeBelow, if_neg (Nat.lt_irrefl _)]
      have status : d.blinkerStatuses.getD i 0 = d.blinkerStatuses.get k := getD_fin _ k 0
      by_cases off : d.blinkerStatuses.get k = 0
      · have idle : bump k (d.blinkerCounts.get k) = d.blinkerCounts.get k := by simp [bump, off]
        simp [loadStatus_apply, tickCells, status, off, same idle, k]
      · have bumped : bump k (d.blinkerCounts.get k) = d.blinkerCounts.get k + 1 := by
          simp [bump, off]
        rw [bumped] at next
        simp [loadStatus_apply, loadCount_apply, storeCount_apply, tickCells, status, off, count,
          ← next, k])
  simp only [changeBelow_zero] at loop
  exact loop

/-! ## Handlers that name blinkers -/

theorem specBlinkersCmd_inRange (p : Platform) (m : SbBuffer) (act : UInt16 → App p N Unit)
    (d : Data p N) (inRange : (blinkerNumber p m).toNat < N) :
    specBlinkersCmd p m act d =
      ⟨cfeSuccess, (act (blinkerNumber p m) d).state,
        .payloadRead (blinkerNumberOffset p) 2 :: (act (blinkerNumber p m) d).trace⟩ := by
  have inside : ¬ outOfRange N (blinkerNumber p m) := by rw [outOfRange_iff]; simpa using inRange
  simp [specBlinkersCmd, loadBlinkerNumber_apply, inside]

theorem specBlinkersCmd_outOfRange (p : Platform) (m : SbBuffer) (act : UInt16 → App p N Unit)
    (d : Data p N) (out : ¬ (blinkerNumber p m).toNat < N) :
    specBlinkersCmd p m act d =
      ⟨-1, d, [.payloadRead (blinkerNumberOffset p) 2, .evsSendEvent ⟨ccErrEid, .error,
        "BLINKER_APP: User provided Blinker #%d which exceeds the blinkers being tracked (%d)",
        [.int (blinkerNumber p m).toNat, .int N]⟩]⟩ := by
  have outside : outOfRange N (blinkerNumber p m) := (outOfRange_iff _).mpr out
  simp [specBlinkersCmd, loadBlinkerNumber_apply, outside, cfeEvsSendEvent]

theorem swapBlinkerCountsCmd_inRange (p : Platform) (m : SbBuffer) (d : Data p N) {a b : Fin N}
    (first : (blinkerNumber1 p m).toNat = a) (second : (blinkerNumber2 p m).toNat = b) :
    swapBlinkerCountsCmd p m d =
      ⟨cfeSuccess, { d with blinkerCounts := d.blinkerCounts.swap a b a.isLt b.isLt },
        [.payloadRead (blinkerNumber1Offset p) 2, .payloadRead (blinkerNumber2Offset p) 2,
         .cellAccess .blinkerCounts a, .cellAccess .blinkerCounts b,
         .cellAccess .blinkerCounts a, .cellAccess .blinkerCounts b,
         .cellAccess .blinkerCounts a, .cellAccess .blinkerCounts b,
         .evsSendEvent (blinkerEvent "BLINKER_APP: Blinker #%d and #%d swapped values (%d <-> %d)"
           [.int a, .int b, .int (d.blinkerCounts.get b).toNat,
            .int (d.blinkerCounts.get a).toNat])]⟩ := by
  have inside : ¬ (outOfRange N (blinkerNumber1 p m) ∨ outOfRange N (blinkerNumber2 p m)) := by
    simp [outOfRange_iff, first, second]
  have swapped := exchange_eq_swap d.blinkerCounts a b
  have now1 : (d.blinkerCounts.swap a b a.isLt b.isLt).get a = d.blinkerCounts.get b := by
    rw [get_swap, Equiv.swap_apply_left]
  have now2 : (d.blinkerCounts.swap a b a.isLt b.isLt).get b = d.blinkerCounts.get a := by
    rw [get_swap, Equiv.swap_apply_right]
  simp only [swapBlinkerCountsCmd, bind_apply, loadBlinkerNumber1_apply, loadBlinkerNumber2_apply,
    inside, ↓reduceIte, first, second, emit_apply, pure_apply, loadCount_apply, storeCount_apply,
    getD_fin, swapped, now1, now2, blinkerEvent, cfeEvsSendEvent, Outcome.prepend_mk,
    List.cons_append, List.nil_append]

theorem swapBlinkerCountsCmd_outOfRange (p : Platform) (m : SbBuffer) (d : Data p N)
    (out : ¬ ((blinkerNumber1 p m).toNat < N ∧ (blinkerNumber2 p m).toNat < N)) :
    swapBlinkerCountsCmd p m d =
      ⟨-1, d, [.payloadRead (blinkerNumber1Offset p) 2, .payloadRead (blinkerNumber2Offset p) 2,
        .evsSendEvent ⟨ccErrEid, .error,
        "BLINKER_APP: User provided Blinkers #%d and #%d which exceeds the blinkers being tracked (%d)",
        [.int (blinkerNumber1 p m).toNat, .int (blinkerNumber2 p m).toNat, .int N]⟩]⟩ := by
  have outside : outOfRange N (blinkerNumber1 p m) ∨ outOfRange N (blinkerNumber2 p m) := by
    rw [outOfRange_iff, outOfRange_iff, ← not_and_or]
    exact out
  simp [swapBlinkerCountsCmd, loadBlinkerNumber1_apply, loadBlinkerNumber2_apply, outside,
    cfeEvsSendEvent]

end BlinkerApp
