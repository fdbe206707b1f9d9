import Mathlib.Algebra.GroupWithZero.Nat
import Mathlib.Data.Finset.Card
import Mathlib.Data.Finset.Lattice.Fold
import Mathlib.Data.Finset.Range
import Mathlib.Order.Lattice.Nat
import SlabPool.Vacancies

/-!
# Slots in use

Below the high-water mark of a slab a slot is either vacant or in use.
`Vacancies.inUse` is the set of those in use.

The record of the vacancies is `Faithful` if its list and its marks agree, and
`Settled` at a mark if moreover the slot right below the mark is in use.  Each
operation on the record keeps it faithful and changes the set by one slot:
taking the highest vacancy adds it (`Settled.inUse_take`), recording a vacancy removes
it (`inUse_record`).
-/

namespace SlabPool

/-! ## Marks are counted word by word -/

namespace Marks

theorem weight_eq_countP (word : BitVec 64) :
    weight word = (List.range 64).countP fun bit => word.getLsbD bit := by
  unfold weight
  split
  case isTrue zero =>
    subst zero
    simp
  case isFalse => rfl

theorem count_eq_sum (marks : Marks) :
    marks.count = (marks.words.toList.map weight).sum := by
  have accumulate :
      ∀ (words : List (BitVec 64)) (start : Nat),
        words.foldl (fun total word => total + weight word) start =
          start + (words.map weight).sum := by
    intro words
    induction words with
    | nil => intro start; rfl
    | cons word rest ih =>
      intro start
      rw [List.foldl_cons, ih, List.map_cons, List.sum_cons, Nat.add_assoc]
  rw [count, ← Array.foldl_toList, accumulate, Nat.zero_add]

/-- The bits of the leading words are the marks of the leading slots. -/
theorem sum_take_weight
    (marks : Marks)
    {leading : Nat}
    (inside : leading ≤ marks.words.size) :
    ((marks.words.toList.take leading).map weight).sum =
      (List.range (64 * leading)).countP marks.has := by
  induction leading with
  | zero => rfl
  | succ leading ih =>
    have bounded : leading < marks.words.toList.length := inside
    have bits :
        weight marks.words.toList[leading] =
          ((List.range 64).map (64 * leading + ·)).countP marks.has := by
      rw [weight_eq_countP, List.countP_map]
      apply List.countP_congr
      intro bit member
      have small : bit < 64 := List.mem_range.1 member
      have word : (64 * leading + bit) / 64 = leading := by omega
      have place : (64 * leading + bit) % 64 = bit := by omega
      have found : marks.words[leading]? = some marks.words.toList[leading] := by
        simp
      simp only [Function.comp, has, word, place, found]
    rw [List.take_succ_eq_append_getElem bounded, List.map_append,
      List.sum_append, ih (Nat.le_of_succ_le inside), Nat.mul_add, Nat.mul_one,
      List.range_add, List.countP_append, List.map_singleton,
      List.sum_singleton, bits]

/-- A slot that is marked has a word for its mark. -/
theorem lt_of_has
    {marks : Marks}
    {index : Nat}
    (marked : marks.has index = true) :
    index / 64 < marks.words.size := by
  by_contra beyond
  have missing : marks.words[index / 64]? = none := by
    rw [Array.getElem?_eq_none_iff]
    omega
  simp only [has, missing, Bool.false_eq_true] at marked

end Marks

namespace Vacancies

/-! ## Records of vacancies -/

/-- The list and the marks of the record agree, and each slot has a mark. -/
structure Faithful (vacancies : Vacancies) (capacity : Nat) : Prop where
  descending : vacancies.stack.Pairwise (· > ·)
  marked :
    ∀ index, vacancies.marks.has index = true ↔ index ∈ vacancies.stack
  words : vacancies.marks.words.size = Marks.wordsFor capacity
  fits : vacancies.size ≤ vacancies.room

/-- The record is faithful, and the slot below the mark is not vacant. -/
structure Settled (vacancies : Vacancies) (capacity mark : Nat) : Prop extends
    Faithful vacancies capacity where
  mark_le : mark ≤ capacity
  buried : ∀ index ∈ vacancies.stack, index + 1 < mark

/-- The slots below the mark that are not vacant. -/
def inUse (vacancies : Vacancies) (mark : Nat) : Finset Nat :=
  (Finset.range mark).filter (· ∉ vacancies.stack)

@[simp]
theorem mem_inUse
    {vacancies : Vacancies}
    {mark index : Nat} :
    index ∈ vacancies.inUse mark ↔ index < mark ∧ index ∉ vacancies.stack := by
  simp [inUse]

/-! ## The set in use -/

section InUse

variable {vacancies : Vacancies} {capacity mark : Nat}

theorem Faithful.nodup
    (faithful : vacancies.Faithful capacity) :
    vacancies.stack.Nodup :=
  faithful.descending.imp fun above equal => by omega

theorem Faithful.contains_iff
    (faithful : vacancies.Faithful capacity)
    {index : Nat} :
    vacancies.contains index = true ↔ index ∈ vacancies.stack :=
  faithful.marked index

/-- There are as many marks as vacancies. -/
theorem Faithful.count_eq
    {vacancies : Vacancies}
    {capacity : Nat}
    (faithful : vacancies.Faithful capacity) :
    vacancies.marks.count = vacancies.size := by
  let marked := (List.range (64 * vacancies.marks.words.size)).filter
    vacancies.marks.has
  have same : marked.Perm vacancies.stack := by
    rw [List.perm_ext_iff_of_nodup (List.nodup_range.filter _) faithful.nodup]
    intro index
    rw [← faithful.marked, List.mem_filter, List.mem_range]
    refine ⟨And.right, fun set => ⟨?_, set⟩⟩
    have inside := Marks.lt_of_has set
    omega
  have whole := vacancies.marks.sum_take_weight (Nat.le_refl _)
  rw [← Array.length_toList, List.take_length, Array.length_toList] at whole
  rw [Marks.count_eq_sum, whole, List.countP_eq_length_filter]
  exact same.length_eq

theorem Settled.lt_of_mem_inUse
    (settled : vacancies.Settled capacity mark)
    {index : Nat}
    (used : index ∈ vacancies.inUse mark) :
    index < capacity :=
  Nat.lt_of_lt_of_le (mem_inUse.1 used).1 settled.mark_le

/-- Every slot below the mark is vacant or in use. -/
theorem Settled.card_inUse
    (settled : vacancies.Settled capacity mark) :
    (vacancies.inUse mark).card + vacancies.size = mark := by
  have vacantCard : vacancies.stack.toFinset.card = vacancies.size :=
    List.toFinset_card_of_nodup settled.nodup
  have vacantBelow : vacancies.stack.toFinset ⊆ Finset.range mark := by
    intro index member
    have below := settled.buried index (List.mem_toFinset.1 member)
    exact Finset.mem_range.2 (by omega)
  have split :
      vacancies.inUse mark = Finset.range mark \ vacancies.stack.toFinset := by
    ext index
    rw [mem_inUse, Finset.mem_sdiff, Finset.mem_range, List.mem_toFinset]
  rw [split, Finset.card_sdiff_of_subset vacantBelow, vacantCard,
    Finset.card_range]
  have bounded := Finset.card_le_card vacantBelow
  rw [vacantCard, Finset.card_range] at bounded
  omega

/-- The slot below the mark is in use. -/
theorem Settled.top_mem_inUse
    (settled : vacancies.Settled capacity mark)
    (positive : 0 < mark) :
    mark - 1 ∈ vacancies.inUse mark := by
  rw [mem_inUse]
  refine ⟨by omega, ?_⟩
  intro vacant
  have below := settled.buried _ vacant
  omega

/-- The mark is right above the highest slot in use. -/
theorem Settled.mark_eq
    (settled : vacancies.Settled capacity mark) :
    mark = (vacancies.inUse mark).sup (· + 1) := by
  apply Nat.le_antisymm
  · rcases Nat.eq_zero_or_pos mark with zero | positive
    · omega
    · have top := Finset.le_sup (f := (· + 1)) (settled.top_mem_inUse positive)
      change mark - 1 + 1 ≤ _ at top
      omega
  · apply Finset.sup_le
    intro index used
    exact (mem_inUse.1 used).1

end InUse

/-! ## Records without vacancies -/

theorem settled_blank (capacity : Nat) : (blank capacity).Settled capacity 0 where
  descending := List.Pairwise.nil
  marked index := by simp [blank]
  words := by simp [blank, Marks.blank]
  fits := Nat.le_refl 0
  mark_le := Nat.zero_le capacity
  buried := by simp [blank]

theorem settled_empty : empty.Settled 0 0 where
  descending := List.Pairwise.nil
  marked index := by simp [empty]
  words := rfl
  fits := Nat.le_refl 0
  mark_le := Nat.le_refl 0
  buried := by simp [empty]

theorem Faithful.wiped
    {vacancies : Vacancies}
    {capacity : Nat}
    (faithful : vacancies.Faithful capacity) :
    vacancies.wiped.Settled capacity 0 where
  descending := List.Pairwise.nil
  marked index := by simp [Vacancies.wiped]
  words := by simp [Vacancies.wiped, Marks.wiped, faithful.words]
  fits := Nat.zero_le _
  mark_le := Nat.zero_le capacity
  buried := by simp [Vacancies.wiped]

/-- Without vacancies, the next slot above the mark joins those in use. -/
theorem Settled.extend
    {vacancies : Vacancies}
    {capacity mark : Nat}
    (settled : vacancies.Settled capacity mark)
    (room : mark < capacity) :
    vacancies.Settled capacity (mark + 1) where
  toFaithful := settled.toFaithful
  mark_le := room
  buried index vacant := Nat.lt_succ_of_lt (settled.buried index vacant)

theorem Settled.inUse_extend
    {vacancies : Vacancies}
    {capacity mark : Nat}
    (settled : vacancies.Settled capacity mark) :
    vacancies.inUse (mark + 1) = insert mark (vacancies.inUse mark) := by
  have untouched : mark ∉ vacancies.stack := by
    intro vacant
    have below := settled.buried mark vacant
    omega
  ext index
  rw [Finset.mem_insert, mem_inUse, mem_inUse]
  constructor
  · rintro ⟨below, free⟩
    rcases Nat.lt_succ_iff_lt_or_eq.1 below with lower | rfl
    · exact Or.inr ⟨lower, free⟩
    · exact Or.inl rfl
  · rintro (rfl | ⟨lower, free⟩)
    · exact ⟨Nat.lt_succ_self index, untouched⟩
    · exact ⟨Nat.lt_succ_of_lt lower, free⟩

/-! ## Operations on the record -/

/-- A slot of a slab has a word for its mark. -/
theorem Faithful.lt_words
    {vacancies : Vacancies}
    {capacity : Nat}
    (faithful : vacancies.Faithful capacity)
    {index : Nat}
    (inside : index < capacity) :
    index / 64 < vacancies.marks.words.size := by
  rw [faithful.words, Marks.wordsFor]
  omega

/-- A slot of a slab has a mark to write. -/
theorem Faithful.exists_write?
    {vacancies : Vacancies}
    {capacity : Nat}
    (faithful : vacancies.Faithful capacity)
    {index : Nat}
    (inside : index < capacity)
    (value : Bool) :
    ∃ written, vacancies.marks.write? index value = some written := by
  rw [← Option.isSome_iff_exists, Marks.write?_isSome_iff]
  exact faithful.lt_words inside

section Take

variable {vacancies : Vacancies} {top : Nat} {rest : List Nat}

/-- A record keeps its faith when one slot leaves both its list and its marks. -/
theorem Faithful.drop
    {capacity : Nat}
    (faithful : vacancies.Faithful capacity)
    (stacked : vacancies.stack = top :: rest)
    {written : Marks}
    (success : vacancies.marks.write? top false = some written) :
    Faithful ⟨rest, written, vacancies.room⟩ capacity where
  descending := by
    have descending := faithful.descending
    rw [stacked, List.pairwise_cons] at descending
    exact descending.2
  marked index := by
    have nodup := faithful.nodup
    have before := faithful.marked index
    rw [stacked, List.nodup_cons] at nodup
    rw [stacked, List.mem_cons] at before
    rw [Marks.has_write? success]
    split
    case isTrue same =>
      subst same
      simp [nodup.1]
    case isFalse differs =>
      rw [before]
      simp [differs]
  words := (Marks.size_write? success).trans faithful.words
  fits := by
    have fits := faithful.fits
    rw [size, stacked] at fits
    exact Nat.le_of_succ_le fits

/-- The highest vacancy can be taken off the record, as it has a mark. -/
theorem Faithful.takeHighest_eq
    {capacity : Nat}
    (faithful : vacancies.Faithful capacity)
    (stacked : vacancies.stack = top :: rest) :
    ∃ written,
      vacancies.takeHighest =
        (.ok (some top), ⟨rest, written, vacancies.room⟩) ∧
      Faithful ⟨rest, written, vacancies.room⟩ capacity := by
  have vacant : top ∈ vacancies.stack := by
    rw [stacked]
    exact List.mem_cons_self
  have inside := Marks.lt_of_has ((faithful.marked top).2 vacant)
  have writable : (vacancies.marks.write? top false).isSome :=
    Marks.write?_isSome_iff.2 inside
  rcases Option.isSome_iff_exists.1 writable with ⟨written, success⟩
  refine ⟨written, ?_, faithful.drop stacked success⟩
  rw [takeHighest, stacked]
  dsimp only
  rw [success]

theorem Settled.takeHighest_eq
    {capacity mark : Nat}
    (settled : vacancies.Settled capacity mark)
    (stacked : vacancies.stack = top :: rest) :
    ∃ written,
      vacancies.takeHighest =
        (.ok (some top), ⟨rest, written, vacancies.room⟩) ∧
      Settled ⟨rest, written, vacancies.room⟩ capacity mark := by
  rcases settled.toFaithful.takeHighest_eq stacked with
    ⟨written, taken, faithful⟩
  exact
    ⟨written, taken,
      { faithful with
        mark_le := settled.mark_le
        buried := fun index member => by
          apply settled.buried index
          rw [stacked]
          exact List.mem_cons_of_mem top member }⟩

/-- A vacancy that is taken off the record is in use again. -/
theorem Settled.inUse_take
    {capacity mark : Nat}
    (settled : vacancies.Settled capacity mark)
    (stacked : vacancies.stack = top :: rest)
    (written : Marks)
    (room : Nat) :
    inUse ⟨rest, written, room⟩ mark = insert top (vacancies.inUse mark) := by
  have nodup := settled.nodup
  have below := settled.buried top (by rw [stacked]; exact List.mem_cons_self)
  rw [stacked, List.nodup_cons] at nodup
  ext index
  simp only [Finset.mem_insert, mem_inUse, stacked, List.mem_cons]
  constructor
  · rintro ⟨lower, free⟩
    by_cases same : index = top
    · exact Or.inl same
    · exact Or.inr ⟨lower, fun vacant => vacant.elim same free⟩
  · rintro (rfl | ⟨lower, free⟩)
    · exact ⟨by omega, nodup.1⟩
    · exact ⟨lower, fun vacant => free (Or.inr vacant)⟩

end Take

theorem size_insertDescending
    (index : Nat)
    (stack : List Nat) :
    (insertDescending index stack).length = stack.length + 1 :=
  (insertDescending_perm index stack).length_eq

/--
An index that is not on record and has a word for its mark can be recorded;
where the storage is full, it grows.
-/
theorem Faithful.record_eq
    {vacancies : Vacancies}
    {capacity index : Nat}
    (faithful : vacancies.Faithful capacity)
    (fresh : index ∉ vacancies.stack)
    (inside : index / 64 < vacancies.marks.words.size) :
    ∃ written,
      let recorded : Vacancies :=
        { stack := insertDescending index vacancies.stack
          marks := written
          room :=
            if vacancies.size = vacancies.room then
              extendedRoom vacancies.room
            else
              vacancies.room }
      vacancies.record index = (.ok (), recorded) ∧ recorded.Faithful capacity := by
  have unmarked : ¬ vacancies.contains index = true := by
    rwa [faithful.contains_iff]
  have writable : (vacancies.marks.write? index true).isSome :=
    Marks.write?_isSome_iff.2 inside
  rcases Option.isSome_iff_exists.1 writable with ⟨written, success⟩
  refine ⟨written, ?_, ?_⟩
  · rw [record, if_neg unmarked, success]
  · exact
      { descending := descending_insertDescending fresh faithful.descending
        marked := fun tested => by
          rw [Marks.has_write? success, mem_insertDescending]
          split
          case isTrue same => simp [same]
          case isFalse differs =>
            rw [faithful.marked]
            simp [differs]
        words := (Marks.size_write? success).trans faithful.words
        fits := by
          have fits := faithful.fits
          have larger := lt_extendedRoom vacancies.room
          rw [size, size_insertDescending]
          change vacancies.size + 1 ≤ _
          dsimp only
          split <;> omega }

/-- A slot in use below the top can be recorded as vacant, where there is room. -/
theorem record_inUse
    {vacancies : Vacancies}
    {capacity mark index : Nat}
    (settled : vacancies.Settled capacity mark)
    (used : index ∈ vacancies.inUse mark)
    (below : index + 1 < mark)
    (room : vacancies.size < vacancies.room) :
    ∃ written,
      vacancies.record index =
        (.ok (),
          ⟨insertDescending index vacancies.stack, written, vacancies.room⟩) ∧
      Settled ⟨insertDescending index vacancies.stack, written, vacancies.room⟩
        capacity mark := by
  have fresh : index ∉ vacancies.stack := (mem_inUse.1 used).2
  rcases settled.toFaithful.record_eq fresh
      (settled.lt_words (settled.lt_of_mem_inUse used)) with
    ⟨written, recorded, faithful⟩
  rw [if_neg (Nat.ne_of_lt room)] at recorded faithful
  exact
    ⟨written, recorded,
      { faithful with
        mark_le := settled.mark_le
        buried := fun tested vacant => by
          rcases mem_insertDescending.1 vacant with rfl | earlier
          · exact below
          · exact settled.buried tested earlier }⟩

/-- An index that finds room on record leaves the room as it is. -/
theorem room_record
    {vacancies : Vacancies}
    (room : vacancies.size < vacancies.room)
    (index : Nat) :
    (vacancies.record index).2.room = vacancies.room := by
  unfold record
  split
  case isTrue twice => rfl
  case isFalse fresh =>
    cases vacancies.marks.write? index true with
    | none => rfl
    | some written => exact if_neg (Nat.ne_of_lt room)

/-- A slot that is recorded as vacant is no longer in use. -/
theorem inUse_record
    (vacancies : Vacancies)
    (written : Marks)
    (room mark index : Nat) :
    inUse ⟨insertDescending index vacancies.stack, written, room⟩ mark =
      (vacancies.inUse mark).erase index := by
  ext tested
  simp only [Finset.mem_erase, mem_inUse, mem_insertDescending, not_or]
  constructor
  · rintro ⟨lower, differs, free⟩
    exact ⟨differs, lower, free⟩
  · rintro ⟨differs, lower, free⟩
    exact ⟨lower, differs, free⟩

end Vacancies

end SlabPool
