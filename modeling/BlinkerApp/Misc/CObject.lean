import BlinkerApp.Misc.CLayout

/-!
# The bytes of C objects

The bytes of an integer in either byte order, the bytes of a struct whose fields are
stored at their offsets over whatever the memory held before, and the loads that read
them back. A packed record, by contrast, has its entries one after another.
-/

namespace CLayout

/-! ## Integers -/

/-- The low `width` bytes of an integer, lowest byte first. -/
def bytesLittle : Nat → Nat → List UInt8
  | 0, _ => []
  | width + 1, n => UInt8.ofNat n :: bytesLittle width (n / 256)

/-- The low `width` bytes of an integer, highest byte first. -/
def bytesBig : Nat → Nat → List UInt8
  | 0, _ => []
  | width + 1, n => bytesBig width (n / 256) ++ [UInt8.ofNat n]

def bytesOf (order : ByteOrder) (width n : Nat) : List UInt8 :=
  match order with
  | .little => bytesLittle width n
  | .big => bytesBig width n

@[simp] theorem length_bytesOf (order : ByteOrder) (width n : Nat) :
    (bytesOf order width n).length = width := by
  cases order with
  | little =>
    show (bytesLittle width n).length = width
    induction width generalizing n with
    | zero => rfl
    | succ width ih => rw [bytesLittle, List.length_cons, ih]
  | big =>
    show (bytesBig width n).length = width
    induction width generalizing n with
    | zero => rfl
    | succ width ih => rw [bytesBig, List.length_append, ih, List.length_singleton]

theorem bytesOf_zero (order : ByteOrder) (width : Nat) :
    bytesOf order width 0 = List.replicate width 0 := by
  cases order with
  | little =>
    show bytesLittle width 0 = _
    induction width with
    | zero => rfl
    | succ width ih => rw [bytesLittle, Nat.zero_div, ih]; rfl
  | big =>
    show bytesBig width 0 = _
    induction width with
    | zero => rfl
    | succ width ih => rw [bytesBig, Nat.zero_div, ih, List.replicate_succ']; rfl

/-- The memory holds `bytes` from `offset` on. -/
def Holds (memory : Nat → UInt8) : Nat → List UInt8 → Prop
  | _, [] => True
  | offset, b :: bytes => memory offset = b ∧ Holds memory (offset + 1) bytes

theorem holds_append (memory : Nat → UInt8) (offset : Nat) (bs cs : List UInt8) :
    Holds memory offset (bs ++ cs) ↔
      Holds memory offset bs ∧ Holds memory (offset + bs.length) cs := by
  induction bs generalizing offset with
  | nil => simp [Holds]
  | cons b bs ih =>
    simp only [List.cons_append, Holds, List.length_cons, ih, and_assoc]
    rw [Nat.add_assoc, Nat.add_comm 1]

/-- What a memory holds depends on the bytes there only. -/
theorem holds_congr {memory memory' : Nat → UInt8} {offset : Nat} {bytes : List UInt8}
    (same : ∀ i, offset ≤ i → i < offset + bytes.length → memory' i = memory i)
    (holds : Holds memory offset bytes) : Holds memory' offset bytes := by
  induction bytes generalizing offset with
  | nil => trivial
  | cons b bytes ih =>
    rw [List.length_cons] at same
    constructor
    · rw [same offset (Nat.le_refl offset) (by omega)]
      exact holds.1
    · exact ih (fun i low high => same i (by omega) (by omega)) holds.2

theorem toNat_ofNat_add (n width : Nat) :
    (UInt8.ofNat n).toNat + 256 * (n / 256 % 256 ^ width) = n % 256 ^ (width + 1) := by
  rw [Nat.pow_succ', Nat.mod_mul]
  rfl

/-- Loading an integer gives its low bytes back. -/
theorem load_of_holds {order : ByteOrder} {memory : Nat → UInt8} {offset width n : Nat}
    (holds : Holds memory offset (bytesOf order width n)) :
    load order memory offset width = n % 256 ^ width := by
  cases order with
  | little =>
    show loadLittle memory offset width = n % 256 ^ width
    replace holds : Holds memory offset (bytesLittle width n) := holds
    induction width generalizing offset n with
    | zero => rw [Nat.pow_zero, Nat.mod_one, loadLittle]
    | succ width ih =>
      rw [loadLittle, holds.1, ih holds.2, toNat_ofNat_add]
  | big =>
    show loadBig memory offset width = n % 256 ^ width
    replace holds : Holds memory offset (bytesBig width n) := holds
    induction width generalizing n with
    | zero => rw [Nat.pow_zero, Nat.mod_one, loadBig]
    | succ width ih =>
      obtain ⟨high, low, -⟩ := (holds_append _ _ _ _).mp holds
      rw [show (bytesBig width (n / 256)).length = width from length_bytesOf .big _ _] at low
      rw [loadBig, low, ih high, Nat.add_comm, toNat_ofNat_add]

theorem load_one (order : ByteOrder) (memory : Nat → UInt8) (offset : Nat) :
    load order memory offset 1 = (memory offset).toNat := by
  cases order with
  | little => simp [load, loadLittle]
  | big => simp [load, loadBig]

/-! ## Structs -/

/-- The memory with `bytes` stored at `offset`. -/
def store (memory : Nat → UInt8) : Nat → List UInt8 → Nat → UInt8
  | _, [], i => memory i
  | offset, b :: bytes, i => if i = offset then b else store memory (offset + 1) bytes i

theorem store_outside {memory : Nat → UInt8} {offset : Nat} {bytes : List UInt8} {i : Nat}
    (outside : i < offset ∨ offset + bytes.length ≤ i) :
    store memory offset bytes i = memory i := by
  induction bytes generalizing offset with
  | nil => rfl
  | cons b bytes ih =>
    rw [List.length_cons] at outside
    rw [store, if_neg (by omega), ih (by omega)]

theorem holds_store (memory : Nat → UInt8) (offset : Nat) (bytes : List UInt8) :
    Holds (store memory offset bytes) offset bytes := by
  induction bytes generalizing offset with
  | nil => trivial
  | cons b bytes ih =>
    constructor
    · exact if_pos rfl
    · refine holds_congr ?_ (ih (offset + 1))
      intro i low _
      rw [store, if_neg (by omega)]

/-- A field of a struct with the bytes of its value. -/
structure Field where
  type : CType
  bytes : List UInt8
  fits : bytes.length = type.size

namespace Field

/-- An integer field. -/
def int (order : ByteOrder) (t : CType) (n : Nat) : Field :=
  ⟨t, bytesOf order t.size n, length_bytesOf order t.size n⟩

theorem length_flatMap_bytesOf (order : ByteOrder) (width : Nat) (values : List Nat) :
    (values.flatMap (bytesOf order width)).length = width * values.length := by
  induction values with
  | nil => rfl
  | cons n values ih =>
    rw [List.flatMap_cons, List.length_append, ih, length_bytesOf, List.length_cons, Nat.mul_succ,
      Nat.add_comm]

/-- An array of integers. -/
def array (order : ByteOrder) (t : CType) (values : List Nat) : Field :=
  ⟨t.array values.length, values.flatMap (bytesOf order t.size),
    length_flatMap_bytesOf order t.size values⟩

end Field

open CType

/-- The memory with the fields stored from `cursor` on, each aligned. The padding keeps
what the memory held. -/
def storeFields (memory : Nat → UInt8) (cursor : Nat) : List Field → Nat → UInt8
  | [] => memory
  | f :: fs =>
    let offset := alignUp f.type.alignLog cursor
    storeFields (store memory offset f.bytes) (offset + f.type.size) fs

theorem storeFields_below {memory : Nat → UInt8} {cursor i : Nat} {fields : List Field}
    (below : i < cursor) : storeFields memory cursor fields i = memory i := by
  induction fields generalizing memory cursor with
  | nil => rfl
  | cons f fs ih =>
    have aligned := le_alignUp f.type.alignLog cursor
    rw [storeFields, ih (by omega), store_outside (.inl (by omega))]

theorem holds_storeFields_place (memory : Nat → UInt8) (cursor i : Nat) {fields : List Field}
    {f : Field} (found : fields[i]? = some f) :
    Holds (storeFields memory cursor fields) ((place cursor (fields.map Field.type)).getD i 0)
      f.bytes := by
  induction fields generalizing memory cursor i with
  | nil => simp at found
  | cons f' fs ih =>
    cases i with
    | zero =>
      obtain rfl : f' = f := by simpa using found
      refine holds_congr ?_ (holds_store memory (alignUp f'.type.alignLog cursor) f'.bytes)
      intro j _ high
      rw [f'.fits] at high
      -- the later fields are stored behind this one
      exact storeFields_below high
    | succ i => exact ih _ _ i (by simpa using found)

/-- A struct holds each of its fields at the offset of the field. -/
theorem holds_storeFields (memory : Nat → UInt8) (i : Nat) {fields : List Field} {f : Field}
    (found : fields[i]? = some f) :
    Holds (storeFields memory 0 fields) (offsetof (fields.map Field.type) i) f.bytes :=
  holds_storeFields_place memory 0 i found

theorem load_int_field {order : ByteOrder} {t : CType} {n : Nat} (memory : Nat → UInt8) (i : Nat)
    {fields : List Field} (found : fields[i]? = some (.int order t n)) :
    load order (storeFields memory 0 fields) (offsetof (fields.map Field.type) i) t.size =
      n % 256 ^ t.size :=
  load_of_holds (holds_storeFields memory i found)

theorem load_element {order : ByteOrder} {memory : Nat → UInt8} {offset width n : Nat}
    {values : List Nat} (holds : Holds memory offset (values.flatMap (bytesOf order width)))
    (k : Nat) (found : values[k]? = some n) :
    load order memory (offset + width * k) width = n % 256 ^ width := by
  induction values generalizing offset k with
  | nil => simp at found
  | cons v values ih =>
    rw [List.flatMap_cons, holds_append, length_bytesOf] at holds
    cases k with
    | zero =>
      obtain rfl : v = n := by simpa using found
      exact load_of_holds holds.1
    | succ k =>
      rw [Nat.mul_succ, Nat.add_comm (width * k), ← Nat.add_assoc]
      exact ih holds.2 k (by simpa using found)

theorem load_array_field {order : ByteOrder} {t : CType} {values : List Nat} {n : Nat}
    (memory : Nat → UInt8) (i k : Nat) {fields : List Field}
    (found : fields[i]? = some (.array order t values)) (element : values[k]? = some n) :
    load order (storeFields memory 0 fields) (offsetof (fields.map Field.type) i + t.size * k)
      t.size = n % 256 ^ t.size :=
  load_element (holds_storeFields memory i found) k element

/-! ## Packed records -/

/-- The values of the entries of a record, one after another from `offset` on. -/
def loadPacked {ν : Type} (order : ByteOrder) (memory : Nat → UInt8) (offset : Nat) :
    List (ν × CType) → List (ν × Nat)
  | [] => []
  | (name, t) :: entries =>
    (name, load order memory offset t.size) :: loadPacked order memory (offset + t.size) entries

end CLayout
