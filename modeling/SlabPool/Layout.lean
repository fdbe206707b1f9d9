import SlabPool.Word

/-!
# Memory layouts

A layout says how many bytes something takes and at which addresses it may
start: at the multiples of its alignment, which is a power of two.  A layout is
valid only if its size, rounded up to the alignment, can be spanned by one
memory block; `Layout.of?` makes every valid layout and nothing else.
-/

namespace SlabPool

/-- The least multiple of `unit` that is not below `amount`. -/
def roundUp
    (amount unit : Nat) :
    Nat :=
  (amount + unit - 1) / unit * unit

/-- The greatest multiple of `unit` that is not above `amount`. -/
def roundDown
    (amount unit : Nat) :
    Nat :=
  amount / unit * unit

theorem dvd_roundUp (amount unit : Nat) : unit ∣ roundUp amount unit :=
  Nat.dvd_mul_left unit _

theorem le_roundUp
    {unit : Nat}
    (positive : 0 < unit)
    (amount : Nat) :
    amount ≤ roundUp amount unit := by
  have split := Nat.div_add_mod (amount + unit - 1) unit
  have small := Nat.mod_lt (amount + unit - 1) positive
  rw [Nat.mul_comm] at split
  unfold roundUp
  omega

/-- No multiple that is not below the amount is below its rounded value. -/
theorem roundUp_le
    {amount unit multiple : Nat}
    (positive : 0 < unit)
    (divides : unit ∣ multiple)
    (above : amount ≤ multiple) :
    roundUp amount unit ≤ multiple := by
  rcases divides with ⟨factor, rfl⟩
  unfold roundUp
  rw [Nat.mul_comm unit factor]
  apply Nat.mul_le_mul_right
  have below : (amount + unit - 1) / unit < factor + 1 := by
    rw [Nat.div_lt_iff_lt_mul positive, Nat.add_mul, Nat.one_mul,
      Nat.mul_comm factor unit]
    omega
  exact Nat.le_of_lt_succ below

/-- A size in bytes with an alignment. -/
structure Layout where
  /-- Bytes taken. -/
  size : Nat
  /-- Every address of this layout is a multiple of the alignment. -/
  align : Nat
  /-- The alignment is a power of two. -/
  align_pow : align.isPowerOfTwo
  /-- The padded size can be spanned by one block. -/
  padded_le : roundUp size align ≤ Word.spanLimit
  deriving DecidableEq, Repr

namespace Layout

/-- The layout of this size and alignment, if it is valid. -/
def of?
    (size align : Nat) :
    Option Layout :=
  if valid : align.isPowerOfTwo ∧ roundUp size align ≤ Word.spanLimit then
    some ⟨size, align, valid.1, valid.2⟩
  else
    none

/-- What is said of a size and an alignment that make no layout. -/
def rejection : String :=
  "invalid parameters to Layout::from_size_align"

theorem align_pos (layout : Layout) : 0 < layout.align :=
  Nat.pos_of_isPowerOfTwo layout.align_pow

theorem of?_eq_some_iff
    {size align : Nat}
    {layout : Layout} :
    of? size align = some layout ↔
      layout.size = size ∧ layout.align = align := by
  constructor
  · intro made
    unfold of? at made
    split at made
    · cases made
      exact ⟨rfl, rfl⟩
    · cases made
  · rintro ⟨rfl, rfl⟩
    simp [of?, layout.align_pow, layout.padded_le]

end Layout

end SlabPool
