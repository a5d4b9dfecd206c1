import Mathlib.Algebra.Group.Nat.Defs
import Mathlib.Tactic.ByContra
import Mathlib.Tactic.Push

/-!
# Memory layout of C objects

Sizes and alignments of C types, the placement of the fields of a struct, integer
loads in either byte order, and the extent of a NUL-terminated string. A memory is
a function from byte offsets to bytes.
-/

namespace CLayout

/-- The order in which a machine keeps the bytes of an integer. -/
inductive ByteOrder where
  | big
  | little
  deriving DecidableEq, Repr

/-- A C object type. Alignments are powers of two, and arrays leave no gap between
their elements because the alignment divides the size. -/
structure CType where
  size : Nat
  alignLog : Nat
  aligned : 2 ^ alignLog ∣ size

/-- The first multiple of `2 ^ log` from `n` on. -/
def alignUp (log n : Nat) : Nat := (n + 2 ^ log - 1) / 2 ^ log * 2 ^ log

theorem le_alignUp (log n : Nat) : n ≤ alignUp log n := by
  have positive : 0 < 2 ^ log := Nat.two_pow_pos log
  have division := Nat.div_add_mod (n + 2 ^ log - 1) (2 ^ log)
  have remainder := Nat.mod_lt (n + 2 ^ log - 1) positive
  rw [Nat.mul_comm] at division
  unfold alignUp
  omega

theorem dvd_alignUp (log n : Nat) : 2 ^ log ∣ alignUp log n := Nat.dvd_mul_left _ _

namespace CType

def uint8 : CType := ⟨1, 0, by decide⟩

def uint16 : CType := ⟨2, 1, by decide⟩

def int16 : CType := ⟨2, 1, by decide⟩

def uint32 : CType := ⟨4, 2, by decide⟩

/-- `t[n]` -/
def array (t : CType) (n : Nat) : CType :=
  ⟨t.size * n, t.alignLog, Nat.dvd_mul_right_of_dvd t.aligned n⟩

/-- The offsets of the fields placed from `cursor` on. -/
def place (cursor : Nat) : List CType → List Nat
  | [] => []
  | t :: ts => alignUp t.alignLog cursor :: place (alignUp t.alignLog cursor + t.size) ts

/-- Where the fields placed from `cursor` on end. -/
def fieldsEnd (cursor : Nat) : List CType → Nat
  | [] => cursor
  | t :: ts => fieldsEnd (alignUp t.alignLog cursor + t.size) ts

/-- The alignment of a struct is that of its most aligned field. -/
def structAlignLog (fields : List CType) : Nat :=
  fields.foldr (fun t log => max t.alignLog log) 0

/-- `struct { fields }`, with the padding natural alignment asks for. -/
def struct (fields : List CType) : CType :=
  ⟨alignUp (structAlignLog fields) (fieldsEnd 0 fields), structAlignLog fields, dvd_alignUp _ _⟩

/-- The offset of field `i` of `struct { fields }`. -/
def offsetof (fields : List CType) (i : Nat) : Nat := (place 0 fields).getD i 0

theorem le_fieldsEnd (fields : List CType) (cursor : Nat) : cursor ≤ fieldsEnd cursor fields := by
  induction fields generalizing cursor with
  | nil => exact Nat.le_refl cursor
  | cons t ts ih =>
    have padded := le_alignUp t.alignLog cursor
    have rest := ih (alignUp t.alignLog cursor + t.size)
    simp only [fieldsEnd]
    omega

theorem place_le_fieldsEnd (fields : List CType) (cursor i : Nat) (t : CType)
    (found : fields[i]? = some t) :
    (place cursor fields).getD i 0 + t.size ≤ fieldsEnd cursor fields := by
  induction fields generalizing cursor i with
  | nil => simp at found
  | cons t' ts ih =>
    cases i with
    | zero =>
      obtain rfl : t' = t := by simpa using found
      simpa [place, fieldsEnd] using le_fieldsEnd ts (alignUp t'.alignLog cursor + t'.size)
    | succ i =>
      simpa [place, fieldsEnd] using ih (alignUp t'.alignLog cursor + t'.size) i
        (by simpa using found)

/-- A field lies inside its struct. -/
theorem offsetof_add_size_le (fields : List CType) (i : Nat) (t : CType)
    (found : fields[i]? = some t) : offsetof fields i + t.size ≤ (struct fields).size :=
  Nat.le_trans (place_le_fieldsEnd fields 0 i t found) (le_alignUp _ _)

/-- The first field of a struct is at its start. -/
theorem offsetof_first (t : CType) (ts : List CType) : offsetof (t :: ts) 0 = 0 := by
  have positive : 0 < 2 ^ t.alignLog := Nat.two_pow_pos t.alignLog
  show (0 + 2 ^ t.alignLog - 1) / 2 ^ t.alignLog * 2 ^ t.alignLog = 0
  rw [Nat.div_eq_of_lt (by omega), Nat.zero_mul]

end CType

/-! ## Loads -/

/-- The integer kept in the `width` bytes from `offset` on, lowest byte first. -/
def loadLittle (memory : Nat → UInt8) (offset : Nat) : Nat → Nat
  | 0 => 0
  | width + 1 => (memory offset).toNat + 256 * loadLittle memory (offset + 1) width

/-- The integer kept in the `width` bytes from `offset` on, highest byte first. -/
def loadBig (memory : Nat → UInt8) (offset : Nat) : Nat → Nat
  | 0 => 0
  | width + 1 => 256 * loadBig memory offset width + (memory (offset + width)).toNat

def load (order : ByteOrder) (memory : Nat → UInt8) (offset width : Nat) : Nat :=
  match order with
  | .little => loadLittle memory offset width
  | .big => loadBig memory offset width

theorem load_zero (order : ByteOrder) (offset width : Nat) :
    load order (fun _ => 0) offset width = 0 := by
  cases order with
  | little =>
    show loadLittle _ offset width = 0
    induction width generalizing offset with
    | zero => rfl
    | succ width ih => rw [loadLittle, ih]; rfl
  | big =>
    show loadBig _ offset width = 0
    induction width with
    | zero => rfl
    | succ width ih => rw [loadBig, ih]; rfl

/-! ## Strings -/

/-- A reader of the NUL-terminated string at `offset` reads byte `i`: it reads from
`offset` up to and including the first NUL. -/
def StringReads (memory : Nat → UInt8) (offset i : Nat) : Prop :=
  offset ≤ i ∧ ∀ j, offset ≤ j → j < i → memory j ≠ 0

/-- The reader stays below `bound` exactly when it meets a NUL there. -/
theorem stringReads_lt_iff (memory : Nat → UInt8) (offset bound : Nat) :
    (∀ i, StringReads memory offset i → i < bound) ↔
      ∃ i, offset ≤ i ∧ i < bound ∧ memory i = 0 := by
  constructor
  · intro inside
    by_contra none
    push Not at none
    -- without a NUL below the bound the reader reads the byte at the bound itself
    have start : offset < bound := inside offset ⟨Nat.le_refl _, fun j low high => by omega⟩
    have := inside bound ⟨by omega, fun j low high => none j low high⟩
    omega
  · rintro ⟨i, low, high, nul⟩ j ⟨from_, before⟩
    by_contra beyond
    exact before i low (by omega) nul

end CLayout
