/-!
# Marks

A mark is one bit for each slot of a slab, set while the slot is vacant.  Marks
are kept in words of 64 bits, so a few more slots can be marked than the slab
has; a slot whose word does not exist has no mark.  The place of a mark in its
word is a remainder below 64, so that no narrower number is too small for it.

`has_write?` says that writing a mark changes that mark and no other.
-/

namespace SlabPool

/-- One bit for each slot, in words of 64. -/
structure Marks where
  words : Array (BitVec 64)
  deriving DecidableEq, Repr

namespace Marks

/-- The number of words that hold a mark for each of `slots` slots. -/
def wordsFor (slots : Nat) : Nat :=
  (slots + 63) / 64

/-- The marks of no slot. -/
def empty : Marks :=
  ⟨#[]⟩

/-- The unset marks of `slots` slots. -/
def blank (slots : Nat) : Marks :=
  ⟨Array.replicate (wordsFor slots) 0#64⟩

/-- Whether the slot is marked. -/
def has
    (marks : Marks)
    (index : Nat) :
    Bool :=
  match marks.words[index / 64]? with
  | none => false
  | some word => word.getLsbD (index % 64)

/-- The word with one bit set or unset. -/
def writeBit
    (word : BitVec 64)
    (bit : Nat)
    (value : Bool) :
    BitVec 64 :=
  if value then
    word ||| BitVec.twoPow 64 bit
  else
    word &&& ~~~ BitVec.twoPow 64 bit

/-- Set or unset the mark of a slot, if it has one. -/
def write?
    (marks : Marks)
    (index : Nat)
    (value : Bool) :
    Option Marks :=
  if inside : index / 64 < marks.words.size then
    let word := writeBit marks.words[index / 64] (index % 64) value
    some ⟨marks.words.set (index / 64) word inside⟩
  else
    none

/-- Unset all marks. -/
def wiped (marks : Marks) : Marks :=
  ⟨marks.words.map fun _ => 0#64⟩

/-- The number of set bits of a word. -/
def weight (word : BitVec 64) : Nat :=
  if word = 0#64 then
    0
  else
    (List.range 64).countP fun bit => word.getLsbD bit

/-- The number of marked slots. -/
def count (marks : Marks) : Nat :=
  marks.words.foldl (fun total word => total + weight word) 0

@[simp]
theorem getLsbD_writeBit
    {word : BitVec 64}
    {bit : Nat}
    (inside : bit < 64)
    (value : Bool)
    (tested : Nat) :
    (writeBit word bit value).getLsbD tested =
      if tested = bit then value else word.getLsbD tested := by
  by_cases same : tested = bit
  · subst same
    cases value <;> simp [writeBit, inside]
  · have differs : ¬ bit = tested := fun equal => same equal.symm
    cases value
    · by_cases narrow : tested < 64
      · simp [writeBit, same, narrow]
      · have beyond : word.getLsbD tested = false :=
          BitVec.getLsbD_of_ge word tested (by omega)
        simp [writeBit, same, beyond]
    · simp [writeBit, same, differs]

theorem write?_isSome_iff
    {marks : Marks}
    {index : Nat}
    {value : Bool} :
    (marks.write? index value).isSome ↔
      index / 64 < marks.words.size := by
  unfold write?
  split <;> simp_all

theorem size_write?
    {marks written : Marks}
    {index : Nat}
    {value : Bool}
    (success : marks.write? index value = some written) :
    written.words.size = marks.words.size := by
  unfold write? at success
  split at success
  · cases success
    simp
  · cases success

/-- Writing a mark changes that mark and no other. -/
theorem has_write?
    {marks written : Marks}
    {index : Nat}
    {value : Bool}
    (success : marks.write? index value = some written)
    (tested : Nat) :
    written.has tested =
      if tested = index then value else marks.has tested := by
  unfold write? at success
  split at success
  case isFalse => cases success
  case isTrue inside =>
    cases success
    have bitInside : index % 64 < 64 := Nat.mod_lt _ (by decide)
    by_cases sameWord : index / 64 = tested / 64
    · have sameIndex : tested % 64 = index % 64 ↔ tested = index := by omega
      have testedInside : tested / 64 < marks.words.size := by omega
      simp only [has, ← sameWord]
      simp [inside, bitInside, sameIndex]
    · have differs : ¬ tested = index := by
        rintro rfl
        exact sameWord rfl
      simp [has, sameWord, differs]

@[simp]
theorem has_blank (slots index : Nat) : (blank slots).has index = false := by
  unfold has blank
  simp only [Array.getElem?_replicate]
  split
  · rfl
  · rename_i found
    split at found
    · cases found
      simp
    · cases found

@[simp]
theorem has_empty (index : Nat) : empty.has index = false := by
  simp [has, empty]

@[simp]
theorem has_wiped
    (marks : Marks)
    (index : Nat) :
    marks.wiped.has index = false := by
  unfold has wiped
  simp only [Array.getElem?_map]
  cases marks.words[index / 64]? <;> simp

end Marks

end SlabPool
