import BlinkerApp.Misc.CObject

/-!
# Structs read back

A memory byte by byte: what a store leaves at every place, the bytes that are read from a place,
and structs that are fields of others. What is stored is read back, and storing what is read
changes nothing.
-/

namespace CLayout

open CType

/-! ## Bytes of a memory -/

/-- The bytes of the memory from `offset` on. -/
def bytesAt (memory : Nat → UInt8) (offset width : Nat) : List UInt8 :=
  (List.range width).map fun i => memory (offset + i)

@[simp] theorem length_bytesAt (memory : Nat → UInt8) (offset width : Nat) :
    (bytesAt memory offset width).length = width := by
  simp [bytesAt]

theorem bytesAt_congr {memory memory' : Nat → UInt8} {offset width : Nat}
    (same : ∀ i < width, memory (offset + i) = memory' (offset + i)) :
    bytesAt memory offset width = bytesAt memory' offset width :=
  List.map_congr_left fun i member => same i (List.mem_range.mp member)

theorem getD_bytesAt {memory : Nat → UInt8} {offset width i : Nat} (below : i < width) :
    (bytesAt memory offset width).getD i 0 = memory (offset + i) := by
  simp [bytesAt, below]

theorem holds_iff {memory : Nat → UInt8} {offset : Nat} {bytes : List UInt8} :
    Holds memory offset bytes ↔ ∀ i b, bytes[i]? = some b → memory (offset + i) = b := by
  induction bytes generalizing offset with
  | nil => simp [Holds]
  | cons b bytes ih =>
    simp only [Holds, ih]
    constructor
    · rintro ⟨first, rest⟩ i b' found
      cases i with
      | zero => exact first.trans (by simpa using found)
      | succ i =>
        rw [Nat.add_comm i, ← Nat.add_assoc]
        exact rest i b' (by simpa using found)
    · intro all
      refine ⟨all 0 b rfl, fun i b' found => ?_⟩
      rw [Nat.add_assoc, Nat.add_comm 1]
      exact all (i + 1) b' (by simpa using found)

theorem holds_bytesAt {memory memory' : Nat → UInt8} {offset offset' width : Nat} :
    Holds memory offset (bytesAt memory' offset' width) ↔
      ∀ i < width, memory (offset + i) = memory' (offset' + i) := by
  rw [holds_iff]
  constructor
  · intro all i below
    exact all i _ (by simp [bytesAt, below])
  · intro same i b found
    obtain ⟨below, rfl⟩ := List.getElem?_eq_some_iff.mp found
    rw [length_bytesAt] at below
    simp only [bytesAt, List.getElem_map, List.getElem_range]
    exact same i below

theorem holds_shift {memory : Nat → UInt8} (base : Nat) {offset : Nat} {bytes : List UInt8} :
    Holds (fun i => memory (base + i)) offset bytes ↔ Holds memory (base + offset) bytes := by
  rw [holds_iff, holds_iff]
  simp only [Nat.add_assoc]

theorem load_lt (order : ByteOrder) (memory : Nat → UInt8) (offset width : Nat) :
    load order memory offset width < 256 ^ width := by
  cases order with
  | little =>
    show loadLittle memory offset width < 256 ^ width
    induction width generalizing offset with
    | zero => exact Nat.one_pos
    | succ width ih =>
      have first := (memory offset).toNat_lt
      have rest := ih (offset + 1)
      rw [loadLittle, Nat.pow_succ]
      omega
  | big =>
    show loadBig memory offset width < 256 ^ width
    induction width with
    | zero => exact Nat.one_pos
    | succ width ih =>
      have last := (memory (offset + width)).toNat_lt
      rw [loadBig, Nat.pow_succ]
      omega

theorem UInt8.ofNat_add_mul (b : UInt8) (n : Nat) : UInt8.ofNat (b.toNat + 256 * n) = b := by
  apply UInt8.toNat_inj.mp
  have small := b.toNat_lt
  rw [UInt8.toNat_ofNat']
  omega

/-- The memory holds the integer that is loaded from it. -/
theorem holds_load (order : ByteOrder) (memory : Nat → UInt8) (offset width : Nat) :
    Holds memory offset (bytesOf order width (load order memory offset width)) := by
  cases order with
  | little =>
    show Holds memory offset (bytesLittle width (loadLittle memory offset width))
    induction width generalizing offset with
    | zero => trivial
    | succ width ih =>
      have small := (memory offset).toNat_lt
      constructor
      · exact (UInt8.ofNat_add_mul _ _).symm
      · have rest : loadLittle memory offset (width + 1) / 256 =
            loadLittle memory (offset + 1) width := by
          rw [loadLittle]
          omega
        rw [rest]
        exact ih (offset + 1)
  | big =>
    show Holds memory offset (bytesBig width (loadBig memory offset width))
    induction width with
    | zero => trivial
    | succ width ih =>
      have small := (memory (offset + width)).toNat_lt
      have rest : loadBig memory offset (width + 1) / 256 = loadBig memory offset width := by
        rw [loadBig]
        omega
      rw [bytesBig, rest, holds_append]
      refine ⟨ih, ?_, trivial⟩
      rw [show (bytesBig width _).length = width from length_bytesOf .big _ _, loadBig,
        Nat.add_comm (256 * _)]
      exact (UInt8.ofNat_add_mul _ _).symm

/-! ## Structs read back -/

/-- A store byte by byte. -/
theorem store_apply (memory : Nat → UInt8) (offset : Nat) (bytes : List UInt8) (i : Nat) :
    store memory offset bytes i =
      if offset ≤ i ∧ i < offset + bytes.length then bytes.getD (i - offset) 0 else memory i := by
  by_cases inside : offset ≤ i ∧ i < offset + bytes.length
  · have stored := holds_iff.mp (holds_store memory offset bytes) (i - offset)
    have below : i - offset < bytes.length := by omega
    have place : offset + (i - offset) = i := by omega
    have found : bytes[i - offset]? = some bytes[i - offset] := List.getElem?_eq_getElem below
    rw [if_pos inside, List.getD_eq_getElem?_getD, found, Option.getD_some, ← stored _ found, place]
  · rw [if_neg inside, store_outside (by omega)]

theorem store_self {memory : Nat → UInt8} {offset : Nat} {bytes : List UInt8}
    (holds : Holds memory offset bytes) : store memory offset bytes = memory := by
  induction bytes generalizing offset with
  | nil => rfl
  | cons b bytes ih =>
    funext i
    rw [store, ih holds.2]
    split
    case isTrue here => rw [here, holds.1]
    case isFalse => rfl

/-- Storing the fields a memory holds already changes nothing. -/
theorem storeFields_place_self {memory : Nat → UInt8} {cursor : Nat} {fields : List Field}
    (holds : ∀ i f, fields[i]? = some f →
      Holds memory ((place cursor (fields.map Field.type)).getD i 0) f.bytes) :
    storeFields memory cursor fields = memory := by
  induction fields generalizing cursor with
  | nil => rfl
  | cons f fs ih =>
    have first : Holds memory (alignUp f.type.alignLog cursor) f.bytes := holds 0 f rfl
    rw [storeFields, store_self first]
    exact ih fun i f' found => holds (i + 1) f' (by simpa using found)

theorem storeFields_self {memory : Nat → UInt8} {fields : List Field}
    (holds : ∀ i f, fields[i]? = some f →
      Holds memory (offsetof (fields.map Field.type) i) f.bytes) :
    storeFields memory 0 fields = memory :=
  storeFields_place_self holds

namespace Field

/-- An array of bytes. -/
def chars {n : Nat} (bytes : Vector UInt8 n) : Field :=
  ⟨uint8.array n, bytes.toList, by simp [CType.array, uint8]⟩

/-- A struct as a field of another; its padding keeps what `memory` held. -/
def struct (memory : Nat → UInt8) (fields : List Field) : Field :=
  ⟨CType.struct (fields.map Field.type),
    bytesAt (storeFields memory 0 fields) 0 (CType.struct (fields.map Field.type)).size,
    length_bytesAt _ _ _⟩

/-- The bytes of an array of zeros are zero. -/
theorem eq_zero_of_mem_array {order : ByteOrder} {t : CType} {n : Nat} {b : UInt8}
    (member : b ∈ (Field.array order t (List.replicate n 0)).bytes) : b = 0 := by
  obtain ⟨v, isZero, inside⟩ := List.mem_flatMap.mp member
  rw [List.eq_of_mem_replicate isZero, bytesOf_zero] at inside
  exact List.eq_of_mem_replicate inside

end Field

/-- Storing zeros behind the cursor changes nothing where the memory is zero. -/
theorem storeFields_zero {memory : Nat → UInt8} {cursor : Nat} {fields : List Field}
    (zero : ∀ i, cursor ≤ i → memory i = 0) (blank : ∀ f ∈ fields, ∀ b ∈ f.bytes, b = 0) :
    storeFields memory cursor fields = memory := by
  induction fields generalizing cursor with
  | nil => rfl
  | cons f fs ih =>
    have aligned := le_alignUp f.type.alignLog cursor
    have first : store memory (alignUp f.type.alignLog cursor) f.bytes = memory := by
      refine store_self (holds_iff.mpr fun i b found => ?_)
      rw [zero _ (by omega), blank f List.mem_cons_self b (List.mem_of_getElem? found)]
    rw [storeFields, first]
    refine ih (fun i behind => zero i (by omega)) fun f' later => ?_
    exact blank f' (List.mem_cons_of_mem f later)

/-- A struct holds the fields of a struct that is one of its fields. -/
theorem holds_nested (memory inner : Nat → UInt8) (i j : Nat) {fields innerFields : List Field}
    {f : Field} (outer : fields[i]? = some (.struct inner innerFields))
    (found : innerFields[j]? = some f) :
    Holds (storeFields memory 0 fields)
      (offsetof (fields.map Field.type) i + offsetof (innerFields.map Field.type) j) f.bytes := by
  have copied := holds_bytesAt.mp (holds_storeFields memory i outer)
  have inside := offsetof_add_size_le (innerFields.map Field.type) j f.type (by simp [found])
  rw [← holds_shift]
  refine holds_congr (fun k _ high => ?_) (holds_storeFields inner j found)
  rw [f.fits] at high
  rw [copied k (by omega), Nat.zero_add]

end CLayout
