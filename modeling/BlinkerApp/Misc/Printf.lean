import Mathlib.Data.List.Forall2
import Mathlib.Data.List.Pairwise
import Mathlib.Data.Nat.Digits.Defs

/-!
# Format strings

The part of C's `printf` with `%s` and the integer conversions `%d`, `%u`, `%x` and `%X`, with
`l` and zero padding. A call whose arguments do not fit its format is undefined. The arguments
can be read back from the text when each numeral is followed by something else and a string
stands at the end only; two formats are told apart by their texts when they differ before that.
-/

namespace Printf

inductive Kind where
  | d | u | x | X
  deriving DecidableEq

/-- A conversion of an integer, padded with zeros to `width`. -/
structure Conversion where
  kind : Kind
  width : Nat
  deriving DecidableEq

inductive Piece where
  | lit (c : Char)
  | num (conv : Conversion)
  | str
  deriving DecidableEq

inductive Arg where
  | int (n : Int)
  | str (s : List Char)

/-! ## Reading a format -/

def kindOf (c : Char) : Option Kind :=
  if c = 'd' then some .d else if c = 'u' then some .u
  else if c = 'x' then some .x else if c = 'X' then some .X else none

/-- Where the reader stands: in the text, or in a directive with the width read so far, if
there was a `0`. -/
inductive Mode where
  | text
  | directive (width : Option Nat)

/-- Read one character, with the pieces before it, the last one first. -/
def readChar : Option (Mode × List Piece) → Char → Option (Mode × List Piece)
  | none, _ => none
  | some (.text, ps), c => some (if c = '%' then (.directive none, ps) else (.text, .lit c :: ps))
  | some (.directive none, ps), c =>
      if c = '%' then some (.text, .lit c :: ps)
      else if c = 's' then some (.text, .str :: ps)
      else if c = 'l' then some (.directive none, ps)
      else if c = '0' then some (.directive (some 0), ps)
      else (kindOf c).map fun kind => (.text, .num ⟨kind, 0⟩ :: ps)
  | some (.directive (some width), ps), c =>
      if c.isDigit then some (.directive (some (10 * width + (c.toNat - '0'.toNat))), ps)
      else if c = 'l' then some (.directive (some width), ps)
      else (kindOf c).map fun kind => (.text, .num ⟨kind, width⟩ :: ps)

/-- The pieces of a format; a directive that is not known or not finished is undefined. -/
def pieces (fmt : String) : Option (List Piece) :=
  match fmt.toList.foldl readChar (some (.text, [])) with
  | some (.text, ps) => some ps.reverse
  | _ => none

/-! ## Numerals -/

/-- The digits of a number in base `b`, from the last on, at least one and at least `width`. -/
def padded (b width n : Nat) : List Nat :=
  Nat.digits b n ++ List.replicate (max width 1 - (Nat.digits b n).length) 0

def numeral (digit : Nat → Char) (b width n : Nat) : List Char :=
  ((padded b width n).map digit).reverse

/-- The text of an integer. -/
def Conversion.text (conv : Conversion) (n : Int) : List Char :=
  match conv.kind with
  | .d =>
      if n < 0 then '-' :: numeral Nat.digitChar 10 (conv.width - 1) n.natAbs
      else numeral Nat.digitChar 10 conv.width n.natAbs
  | .u => numeral Nat.digitChar 10 conv.width n.natAbs
  | .x => numeral Nat.digitChar 16 conv.width n.natAbs
  | .X => numeral (Char.toUpper ∘ Nat.digitChar) 16 conv.width n.natAbs

/-- The conversion is made for the integer: all but `%d` are for unsigned ones. -/
def Conversion.Takes (conv : Conversion) (n : Int) : Prop := conv.kind = .d ∨ 0 ≤ n

instance (conv : Conversion) (n : Int) : Decidable (conv.Takes n) :=
  inferInstanceAs (Decidable (_ ∨ _))

/-! ## Rendering -/

/-- The text of the pieces with their arguments; a call with others is undefined. -/
def render : List Piece → List Arg → Option (List Char)
  | [], [] => some []
  | .lit c :: ps, as => (render ps as).map (c :: ·)
  | .num conv :: ps, .int n :: as =>
      if conv.Takes n then (render ps as).map (conv.text n ++ ·) else none
  | .str :: ps, .str s :: as => (render ps as).map (s ++ ·)
  | _, _ => none

/-- What `sprintf` writes. -/
def sprintf (fmt : String) (as : List Arg) : Option (List Char) :=
  (pieces fmt).bind (render · as)

/-! ## Calls that are defined -/

/-- What the directives of a format ask for: an integer for a conversion, or a string. -/
def demands : List Piece → List (Option Conversion)
  | [] => []
  | .lit _ :: ps => demands ps
  | .num conv :: ps => some conv :: demands ps
  | .str :: ps => none :: demands ps

/-- The argument is what a directive asks for. -/
def Fits : Option Conversion → Arg → Prop
  | some conv, .int n => conv.Takes n
  | none, .str _ => True
  | _, _ => False

/-- A call is defined exactly when there is one fitting argument for each directive. -/
theorem render_isSome_iff (ps : List Piece) (as : List Arg) :
    (render ps as).isSome ↔ List.Forall₂ Fits (demands ps) as := by
  induction ps generalizing as with
  | nil => cases as <;> simp [render, demands]
  | cons piece ps ih =>
    cases piece with
    | lit c => simp only [render, demands, Option.isSome_map, ih]
    | num conv =>
      cases as with
      | nil => simp [render, demands]
      | cons a as =>
        cases a with
        | int n =>
          by_cases takes : conv.Takes n <;> simp [render, demands, Fits, takes, ih]
        | str s => simp [render, demands, Fits]
    | str =>
      cases as with
      | nil => simp [render, demands]
      | cons a as => cases a <;> simp [render, demands, Fits, ih]

theorem sprintf_isSome {fmt : String} {demanded : List (Option Conversion)} {as : List Arg}
    (asks : (pieces fmt).map demands = some demanded) (fit : List.Forall₂ Fits demanded as) :
    (sprintf fmt as).isSome := by
  obtain ⟨ps, found, rfl⟩ := Option.map_eq_some_iff.mp asks
  rw [sprintf, found, Option.bind_some]
  exact (render_isSome_iff ps as).mpr fit

/-! ## Numerals read back -/

theorem ofDigits_padded (b width n : Nat) : Nat.ofDigits b (padded b width n) = n := by
  rw [padded, Nat.ofDigits_append, Nat.ofDigits_digits, Nat.ofDigits_replicate_zero, Nat.mul_zero,
    Nat.add_zero]

theorem lt_of_mem_padded {b width n i : Nat} (base : 1 < b) (member : i ∈ padded b width n) :
    i < b := by
  rcases List.mem_append.mp member with digit | zero
  · exact Nat.digits_lt_base base digit
  · rw [List.eq_of_mem_replicate zero]
    exact Nat.lt_trans Nat.zero_lt_one base

theorem padded_ne_nil (b width n : Nat) : padded b width n ≠ [] := by
  intro nil
  have length := congrArg List.length nil
  simp only [padded, List.length_append, List.length_replicate, List.length_nil] at length
  omega

/-- The digits of a base have characters of their own. -/
def Faithful (digit : Nat → Char) (b : Nat) : Prop :=
  ∀ i < b, ∀ j < b, digit i = digit j → i = j

theorem Faithful.map_injective {digit : Nat → Char} {b : Nat} (faithful : Faithful digit b)
    {is js : List Nat} (small : ∀ i ∈ is, i < b) (small' : ∀ j ∈ js, j < b)
    (same : is.map digit = js.map digit) : is = js := by
  induction is generalizing js with
  | nil => exact (List.map_eq_nil_iff.mp same.symm).symm
  | cons i is ih =>
    cases js with
    | nil => cases same
    | cons j js =>
      obtain ⟨here, later⟩ := List.cons_eq_cons.mp same
      rw [List.forall_mem_cons] at small small'
      rw [faithful i small.1 j small'.1 here, ih small.2 small'.2 later]

theorem numeral_injective {digit : Nat → Char} {b : Nat} (base : 1 < b)
    (faithful : Faithful digit b) {width m n : Nat}
    (same : numeral digit b width m = numeral digit b width n) : m = n := by
  have digits := faithful.map_injective (fun _ => lt_of_mem_padded base)
    (fun _ => lt_of_mem_padded base) (List.reverse_inj.mp same)
  rw [← ofDigits_padded b width m, digits, ofDigits_padded]

theorem faithful_digitChar : Faithful Nat.digitChar 16 := by unfold Faithful; decide

theorem faithful_toUpper : Faithful (Char.toUpper ∘ Nat.digitChar) 16 := by
  unfold Faithful; decide

theorem Faithful.mono {digit : Nat → Char} {b b' : Nat} (faithful : Faithful digit b')
    (le : b ≤ b') : Faithful digit b :=
  fun i small j small' => faithful i (Nat.lt_of_lt_of_le small le) j (Nat.lt_of_lt_of_le small' le)

/-- The characters that occur in numerals. -/
def isNumeral (c : Char) : Bool :=
  c.isDigit || ('a' ≤ c && c ≤ 'f') || ('A' ≤ c && c ≤ 'F') || c = '-'

theorem isNumeral_of_mem_numeral {digit : Nat → Char} {b width n : Nat} (base : 1 < b)
    (numerals : ∀ i < b, isNumeral (digit i) = true) {c : Char}
    (member : c ∈ numeral digit b width n) : isNumeral c = true := by
  obtain ⟨i, here, rfl⟩ := List.mem_map.mp (List.mem_reverse.mp member)
  exact numerals i (lt_of_mem_padded base here)

theorem isNumeral_digitChar : ∀ i < 16, isNumeral (Nat.digitChar i) = true := by decide

theorem isNumeral_toUpper : ∀ i < 16, isNumeral ((Char.toUpper ∘ Nat.digitChar) i) = true := by
  decide

theorem Conversion.isNumeral_of_mem_text {conv : Conversion} {n : Int} {c : Char}
    (member : c ∈ conv.text n) : isNumeral c = true := by
  have decimal {width : Nat} (member : c ∈ numeral Nat.digitChar 10 width n.natAbs) :
      isNumeral c = true :=
    isNumeral_of_mem_numeral (by decide) (fun i small => isNumeral_digitChar i (by omega)) member
  unfold Conversion.text at member
  split at member
  · split at member
    · rcases List.mem_cons.mp member with rfl | digit
      · rfl
      · exact decimal digit
    · exact decimal member
  · exact decimal member
  · exact isNumeral_of_mem_numeral (by decide) isNumeral_digitChar member
  · exact isNumeral_of_mem_numeral (by decide) isNumeral_toUpper member

theorem numeral_ne_nil (digit : Nat → Char) (b width n : Nat) : numeral digit b width n ≠ [] := by
  simpa [numeral] using padded_ne_nil b width n

theorem Conversion.text_ne_nil (conv : Conversion) (n : Int) : conv.text n ≠ [] := by
  unfold Conversion.text
  split
  · split
    · exact List.cons_ne_nil _ _
    · exact numeral_ne_nil _ _ _ _
  all_goals exact numeral_ne_nil _ _ _ _

/-- No numeral without a sign has one. -/
theorem numeral_ne_cons_minus {width width' m n : Nat} :
    numeral Nat.digitChar 10 width m ≠ '-' :: numeral Nat.digitChar 10 width' n := by
  intro same
  have member : '-' ∈ numeral Nat.digitChar 10 width m := same ▸ List.mem_cons_self
  obtain ⟨i, here, minus⟩ := List.mem_map.mp (List.mem_reverse.mp member)
  have unsigned : ∀ i < 10, Nat.digitChar i ≠ '-' := by decide
  exact unsigned i (lt_of_mem_padded (by decide) here) minus

theorem Conversion.text_injective {conv : Conversion} {m n : Int} (takes : conv.Takes m)
    (takes' : conv.Takes n) (same : conv.text m = conv.text n) : m = n := by
  have decimal : Faithful Nat.digitChar 10 := faithful_digitChar.mono (by decide)
  have unsigned (magnitude : m.natAbs = n.natAbs) (other : conv.kind ≠ .d) : m = n := by
    have nonneg := takes.resolve_left other
    have nonneg' := takes'.resolve_left other
    omega
  unfold Conversion.text at same
  split at same
  · split at same <;> split at same
    · have magnitude := numeral_injective (by decide) decimal (List.cons_eq_cons.mp same).2
      omega
    · exact absurd same.symm numeral_ne_cons_minus
    · exact absurd same numeral_ne_cons_minus
    · have magnitude := numeral_injective (by decide) decimal same
      omega
  all_goals refine unsigned (numeral_injective (by decide) ?_ same) (by simp_all)
  · exact decimal
  · exact faithful_digitChar
  · exact faithful_toUpper

/-! ## Arguments read back -/

/-- What follows a numeral does not continue it. -/
def stops : List Piece → Bool
  | [] => true
  | .lit c :: _ => !isNumeral c
  | _ => false

/-- Every numeral ends where another character begins, and a string at the end of the text. -/
def separated : List Piece → Bool
  | [] => true
  | .lit _ :: ps => separated ps
  | .num _ :: ps => stops ps && separated ps
  | .str :: ps => ps.isEmpty

/-- The rest of a text after a numeral. -/
def NoNumeral (t : List Char) : Prop := ∀ c ∈ t.head?, isNumeral c = false

theorem noNumeral_of_stops {ps : List Piece} (stop : stops ps = true) {as : List Arg}
    {t : List Char} (rendered : render ps as = some t) : NoNumeral t := by
  cases ps with
  | nil =>
    cases as with
    | nil =>
      cases rendered
      exact fun _ none => by cases none
    | cons => cases rendered
  | cons piece ps =>
    cases piece with
    | lit c =>
      obtain ⟨rest, -, rfl⟩ := Option.map_eq_some_iff.mp rendered
      intro c' same
      obtain rfl : c = c' := Option.some.inj same
      simpa [stops] using stop
    | _ => cases stop

/-- Two numerals before texts that do not continue them. -/
theorem split_numeral {ds ds' t t' : List Char} (numerals : ∀ c ∈ ds, isNumeral c = true)
    (numerals' : ∀ c ∈ ds', isNumeral c = true) (stop : NoNumeral t) (stop' : NoNumeral t')
    (same : ds ++ t = ds' ++ t') : ds = ds' ∧ t = t' := by
  induction ds generalizing ds' with
  | nil =>
    cases ds' with
    | nil => exact ⟨rfl, same⟩
    | cons c ds' =>
      have begins : t.head? = some c := by rw [show t = _ from same]; rfl
      exact absurd (numerals' c List.mem_cons_self) (by rw [stop c begins]; exact Bool.false_ne_true)
  | cons c ds ih =>
    cases ds' with
    | nil =>
      have begins : t'.head? = some c := by rw [← show _ = t' from same]; rfl
      exact absurd (numerals c List.mem_cons_self) (by rw [stop' c begins]; exact Bool.false_ne_true)
    | cons c' ds' =>
      obtain ⟨here, later⟩ := List.cons_eq_cons.mp same
      obtain ⟨digits, rest⟩ := ih (List.forall_mem_cons.mp numerals).2
        (List.forall_mem_cons.mp numerals').2 later
      exact ⟨by rw [here, digits], rest⟩

/-- A text that begins with a numeral was rendered so. -/
theorem render_num {conv : Conversion} {ps : List Piece} {as : List Arg} {t : List Char}
    (rendered : render (.num conv :: ps) as = some t) :
    ∃ n as' t', as = .int n :: as' ∧ conv.Takes n ∧ render ps as' = some t' ∧
      t = conv.text n ++ t' := by
  cases as with
  | nil => cases rendered
  | cons a as =>
    cases a with
    | str => cases rendered
    | int n =>
      rw [render] at rendered
      split at rendered
      case isFalse => cases rendered
      case isTrue takes =>
        obtain ⟨t', rest, rfl⟩ := Option.map_eq_some_iff.mp rendered
        exact ⟨n, as, t', rfl, takes, rest, rfl⟩

theorem render_str {ps : List Piece} {as : List Arg} {t : List Char}
    (rendered : render (.str :: ps) as = some t) :
    ∃ s as' t', as = .str s :: as' ∧ render ps as' = some t' ∧ t = s ++ t' := by
  cases as with
  | nil => cases rendered
  | cons a as =>
    cases a with
    | int => cases rendered
    | str s =>
      obtain ⟨t', rest, rfl⟩ := Option.map_eq_some_iff.mp rendered
      exact ⟨s, as, t', rfl, rest, rfl⟩

theorem render_nil {as : List Arg} {t : List Char} (rendered : render [] as = some t) :
    as = [] ∧ t = [] := by
  cases as with
  | nil => exact ⟨rfl, (Option.some.inj rendered).symm⟩
  | cons => cases rendered

/-- The text of a separated format determines the arguments. -/
theorem render_injective {ps : List Piece} (sep : separated ps = true) {as as' : List Arg}
    {t : List Char} (rendered : render ps as = some t) (rendered' : render ps as' = some t) :
    as = as' := by
  induction ps generalizing as as' t with
  | nil => rw [(render_nil rendered).1, (render_nil rendered').1]
  | cons piece ps ih =>
    cases piece with
    | lit c =>
      obtain ⟨r, rest, rfl⟩ := Option.map_eq_some_iff.mp rendered
      obtain ⟨r', rest', same⟩ := Option.map_eq_some_iff.mp rendered'
      obtain rfl := (List.cons_eq_cons.mp same).2
      exact ih sep rest rest'
    | num conv =>
      obtain ⟨stop, sep⟩ := Bool.and_eq_true_iff.mp sep
      obtain ⟨n, as, r, rfl, takes, rest, rfl⟩ := render_num rendered
      obtain ⟨n', as', r', rfl, takes', rest', same⟩ := render_num rendered'
      obtain ⟨digits, rfl⟩ := split_numeral (fun _ => conv.isNumeral_of_mem_text)
        (fun _ => conv.isNumeral_of_mem_text) (noNumeral_of_stops stop rest)
        (noNumeral_of_stops stop rest') same
      rw [conv.text_injective takes takes' digits, ih sep rest rest']
    | str =>
      obtain rfl := List.isEmpty_iff.mp sep
      obtain ⟨s, as, r, rfl, rest, rfl⟩ := render_str rendered
      obtain ⟨s', as', r', rfl, rest', same⟩ := render_str rendered'
      obtain ⟨rfl, rfl⟩ := render_nil rest
      obtain ⟨rfl, rfl⟩ := render_nil rest'
      rw [List.append_cancel_right same]

/-! ## Formats told apart -/

/-- The formats differ before the first string, so that no text is one of both. -/
def apart : List Piece → List Piece → Bool
  | [], .lit _ :: _ | .lit _ :: _, [] | [], .num _ :: _ | .num _ :: _, [] => true
  | .lit c :: ps, .lit c' :: ps' => c ≠ c' || apart ps ps'
  | .lit c :: _, .num _ :: _ | .num _ :: _, .lit c :: _ => !isNumeral c
  | .num _ :: ps, .num _ :: ps' => stops ps && stops ps' && apart ps ps'
  | _, _ => false

theorem isNumeral_of_cons_eq {conv : Conversion} {n : Int} {c : Char} {t t' : List Char}
    (same : c :: t = conv.text n ++ t') : isNumeral c = true := by
  cases text : conv.text n with
  | nil => exact absurd text (conv.text_ne_nil n)
  | cons d ds =>
    rw [text] at same
    obtain rfl : c = d := (List.cons_eq_cons.mp same).1
    exact conv.isNumeral_of_mem_text (n := n) (by simp [text])

theorem text_append_ne_nil (conv : Conversion) (n : Int) (t : List Char) : conv.text n ++ t ≠ [] :=
  fun nil => conv.text_ne_nil n (List.append_eq_nil_iff.mp nil).1

/-- No text is one of two formats that are told apart. -/
theorem render_ne_of_apart {ps ps' : List Piece} (differ : apart ps ps' = true)
    {as as' : List Arg} {t : List Char} (rendered : render ps as = some t) :
    render ps' as' ≠ some t := by
  intro rendered'
  induction ps generalizing ps' as as' t with
  | nil =>
    obtain rfl := (render_nil rendered).2
    cases ps' with
    | nil => cases differ
    | cons piece ps' =>
      cases piece with
      | lit c =>
        obtain ⟨r, -, same⟩ := Option.map_eq_some_iff.mp rendered'
        cases same
      | num conv =>
        obtain ⟨n, as', r, -, -, -, same⟩ := render_num rendered'
        exact text_append_ne_nil conv n r same.symm
      | str => cases differ
  | cons piece ps ih =>
    cases piece with
    | lit c =>
      obtain ⟨r, rest, rfl⟩ := Option.map_eq_some_iff.mp rendered
      cases ps' with
      | nil => cases (render_nil rendered').2
      | cons piece' ps' =>
        cases piece' with
        | lit c' =>
          obtain ⟨r', rest', same⟩ := Option.map_eq_some_iff.mp rendered'
          obtain ⟨rfl, rfl⟩ := List.cons_eq_cons.mp same
          have later : apart ps ps' = true := by simpa [apart] using differ
          exact ih later rest rest'
        | num conv =>
          obtain ⟨n, as', r', -, -, -, same⟩ := render_num rendered'
          have other : isNumeral c = false := by simpa [apart] using differ
          rw [isNumeral_of_cons_eq same] at other
          cases other
        | str => cases differ
    | num conv =>
      obtain ⟨n, as, r, -, -, rest, rfl⟩ := render_num rendered
      cases ps' with
      | nil => exact text_append_ne_nil conv n r (render_nil rendered').2
      | cons piece' ps' =>
        cases piece' with
        | lit c =>
          obtain ⟨r', -, same⟩ := Option.map_eq_some_iff.mp rendered'
          have other : isNumeral c = false := by simpa [apart] using differ
          rw [isNumeral_of_cons_eq same] at other
          cases other
        | num conv' =>
          obtain ⟨n', as', r', -, -, rest', same⟩ := render_num rendered'
          have later : (stops ps = true ∧ stops ps' = true) ∧ apart ps ps' = true := by
            simpa [apart] using differ
          obtain ⟨-, rfl⟩ := split_numeral (fun _ => conv.isNumeral_of_mem_text)
            (fun _ => conv'.isNumeral_of_mem_text) (noNumeral_of_stops later.1.1 rest)
            (noNumeral_of_stops later.1.2 rest') same
          exact ih later.2 rest rest'
        | str => cases differ
    | str => cases ps' <;> cases differ

theorem apart_self (ps : List Piece) : apart ps ps = false := by
  induction ps with
  | nil => rfl
  | cons piece ps ih => cases piece <;> simp [apart, ih]

/-- No text is one of both formats. -/
def Distinct (fmt fmt' : String) : Prop :=
  ∀ as as' t, sprintf fmt as = some t → sprintf fmt' as' ≠ some t

/-- Formats that are separated and told apart. -/
def Unambiguous (fmts : List String) : Prop :=
  (∀ ps ∈ fmts.map pieces, ps.any separated = true) ∧
    (fmts.map pieces).Pairwise fun ps ps' => (ps.any fun ps => ps'.any (apart ps)) = true

instance (fmts : List String) : Decidable (Unambiguous fmts) :=
  inferInstanceAs (Decidable (_ ∧ _))

theorem distinct_of_apart {fmt fmt' : String}
    (differ : ((pieces fmt).any fun ps => (pieces fmt').any (apart ps)) = true) :
    Distinct fmt fmt' := by
  intro as as' t written written'
  obtain ⟨ps, found, rendered⟩ := Option.bind_eq_some_iff.mp written
  obtain ⟨ps', found', rendered'⟩ := Option.bind_eq_some_iff.mp written'
  rw [found, found'] at differ
  exact render_ne_of_apart differ rendered rendered'

theorem Unambiguous.nodup {fmts : List String} (clear : Unambiguous fmts) : fmts.Nodup := by
  refine (List.pairwise_map.mp clear.2).imp fun {fmt fmt'} differ => ?_
  rintro rfl
  cases found : pieces fmt with
  | none => simp [found] at differ
  | some ps => simp [found, apart_self] at differ

/-- The format and the arguments can be read back from every text of one of the formats. -/
theorem sprintf_injective {fmts : List String} (clear : Unambiguous fmts)
    {fmt fmt' : String} (member : fmt ∈ fmts) (member' : fmt' ∈ fmts) {as as' : List Arg}
    {t : List Char} (written : sprintf fmt as = some t) (written' : sprintf fmt' as' = some t) :
    fmt = fmt' ∧ as = as' := by
  have symm : Std.Symm Distinct :=
    ⟨fun _ _ distinct as as' t written written' => distinct as' as t written' written⟩
  have pairs : fmts.Pairwise Distinct := (List.pairwise_map.mp clear.2).imp distinct_of_apart
  by_cases same : fmt = fmt'
  · subst same
    obtain ⟨ps, found, rendered⟩ := Option.bind_eq_some_iff.mp written
    obtain ⟨ps', found', rendered'⟩ := Option.bind_eq_some_iff.mp written'
    obtain rfl := Option.some.inj (found.symm.trans found')
    have sep := clear.1 (pieces fmt) (List.mem_map_of_mem member)
    rw [found] at sep
    exact ⟨rfl, render_injective sep rendered rendered'⟩
  · exact absurd written' (pairs.forall member member' same as as' t written)

end Printf
