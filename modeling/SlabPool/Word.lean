/-!
# Arithmetic of machine words

Sizes, addresses and counts are natural numbers below `modulus`, the number of
values of a 64-bit machine word.  An operation on them says what becomes of a
result that leaves that range: it wraps around, it is reported, or it stops at
the greatest word.

While a result stays in range all three give the exact result; `add_eq`,
`sub_eq` and `mul_eq` say so for the operations that wrap, and the `_iff`
lemmas say when the checked ones succeed.
-/

namespace SlabPool.Word

/-- The number of machine words, two to the power of 64. -/
abbrev modulus : Nat := 0x10000000000000000

/-- The greatest machine word. -/
abbrev greatest : Nat := modulus - 1

/--
The greatest number of bytes one memory block may span, just below half of all
words.
-/
abbrev spanLimit : Nat := 0x7fffffffffffffff

/-- The sum, wrapped into the range of words. -/
def add (left right : Nat) : Nat :=
  (left + right) % modulus

/-- The difference, wrapped into the range of words. -/
def sub (left right : Nat) : Nat :=
  (left + modulus - right) % modulus

/-- The product, wrapped into the range of words. -/
def mul (left right : Nat) : Nat :=
  (left * right) % modulus

/-- The sum, if it is a word. -/
def add? (left right : Nat) : Option Nat :=
  if left + right < modulus then some (left + right) else none

/-- The product, if it is a word. -/
def mul? (left right : Nat) : Option Nat :=
  if left * right < modulus then some (left * right) else none

/-- The product, or the greatest word where it is no word. -/
def saturatingMul (left right : Nat) : Nat :=
  min (left * right) greatest

/-- The sum of a list, if it and all sums on the way are words. -/
def sum? (terms : List Nat) : Option Nat :=
  terms.foldlM add? 0

/--
The word `offset` places after `address`, or before it where `offset` is
negative.
-/
def displace
    (address : Nat)
    (offset : Int) :
    Nat :=
  ((address + offset) % (modulus : Int)).toNat

theorem add_eq
    {left right : Nat}
    (inRange : left + right < modulus) :
    add left right = left + right :=
  Nat.mod_eq_of_lt inRange

theorem sub_eq
    {left right : Nat}
    (ordered : right ≤ left)
    (inRange : left < modulus) :
    sub left right = left - right := by
  have regroup : left + modulus - right = left - right + modulus := by omega
  rw [sub, regroup, Nat.add_mod_right]
  exact Nat.mod_eq_of_lt (by omega)

theorem mul_eq
    {left right : Nat}
    (inRange : left * right < modulus) :
    mul left right = left * right :=
  Nat.mod_eq_of_lt inRange

@[simp]
theorem add?_eq_some_iff
    {left right total : Nat} :
    add? left right = some total ↔
      left + right < modulus ∧ left + right = total := by
  simp [add?]

@[simp]
theorem mul?_eq_some_iff
    {left right total : Nat} :
    mul? left right = some total ↔
      left * right < modulus ∧ left * right = total := by
  simp [mul?]

end SlabPool.Word
