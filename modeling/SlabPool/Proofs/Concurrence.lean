import SlabPool.Proofs.Atomicity
import SlabPool.Proofs.Queries

/-!
# Providers that decide alike

Two providers may place blocks wherever they like and still decide alike on
each request that is made of them: `Concur` says so of two lists of requests.
What a growth asks for next depends on the decisions so far, on capacities and
on room, but on no address.  So two pools that are alike but for their
addresses make the same requests of such providers and end their growths in the
same way (`grow_concur`).
-/

namespace SlabPool

/-! ## The same decisions -/

/-- Where both lists have a request in the same place, the decision is the same. -/
def Concur (left right : List (Query × Bool)) : Prop :=
  ∀ pair ∈ left.reverse.zip right.reverse, pair.1.2 = pair.2.2

instance (left right : List (Query × Bool)) : Decidable (Concur left right) :=
  inferInstanceAs
    (Decidable (∀ pair ∈ left.reverse.zip right.reverse, pair.1.2 = pair.2.2))

theorem zip_prefix_zip
    {α β : Type}
    {xs earlierXs : List α}
    {ys earlierYs : List β}
    (left : earlierXs <+: xs)
    (right : earlierYs <+: ys) :
    earlierXs.zip earlierYs <+: xs.zip ys := by
  rcases left with ⟨moreXs, rfl⟩
  rcases right with ⟨moreYs, rfl⟩
  induction earlierXs generalizing earlierYs with
  | nil => exact List.nil_prefix
  | cons x xs ih =>
    cases earlierYs with
    | nil => exact List.nil_prefix
    | cons y ys =>
      rw [List.cons_append, List.cons_append, List.zip_cons_cons,
        List.zip_cons_cons, List.prefix_cons_inj]
      exact ih

namespace Concur

variable {left right earlierLeft earlierRight : List (Query × Bool)}

theorem earlier
    (concur : Concur left right)
    (leftSuffix : earlierLeft <:+ left)
    (rightSuffix : earlierRight <:+ right) :
    Concur earlierLeft earlierRight := by
  intro pair member
  have kept :=
    zip_prefix_zip (List.reverse_prefix.2 leftSuffix)
      (List.reverse_prefix.2 rightSuffix)
  exact concur pair (kept.subset member)

/-- After the same past, the newest requests are decided alike. -/
theorem decision
    {past : List (Query × Bool)}
    {first second : Query × Bool}
    (concur : Concur (first :: past) (second :: past)) :
    first.2 = second.2 := by
  apply concur (first, second)
  rw [List.reverse_cons, List.reverse_cons, List.zip_append rfl]
  exact List.mem_append_right _ List.mem_cons_self

end Concur

/-! ## Single requests -/

namespace Memory

variable {σ τ : Type} [Provider σ] [Provider τ]
variable {left : Memory σ} {right : Memory τ}

theorem secure_concur
    (same : left.queries = right.queries)
    {resource : Resource}
    {bytes : Nat}
    (concur :
      Concur (left.secure resource bytes).2.queries
        (right.secure resource bytes).2.queries) :
    (left.secure resource bytes).1 = (right.secure resource bytes).1 ∧
      (left.secure resource bytes).2.queries =
        (right.secure resource bytes).2.queries := by
  rw [queries_secure, queries_secure, same] at concur ⊢
  have decision := concur.decision
  dsimp only at decision
  exact ⟨decision, by rw [decision]⟩

theorem acquire_concur
    (same : left.queries = right.queries)
    {layout : Layout}
    (concur :
      Concur (left.acquire layout).2.queries
        (right.acquire layout).2.queries) :
    (left.acquire layout).1.isSome = (right.acquire layout).1.isSome ∧
      (left.acquire layout).2.queries = (right.acquire layout).2.queries := by
  rw [queries_acquire, queries_acquire, same] at concur ⊢
  have decision := concur.decision
  dsimp only at decision
  exact ⟨decision, by rw [decision]⟩

end Memory

/-! ## The requests of a pool -/

section Parts

variable {σ τ : Type} [Provider σ] [Provider τ] {geometry : Geometry}

theorem Shelf.answer_reserveRetirement
    (shelf : Shelf geometry)
    (memory : Memory σ) :
    (shelf.reserveRetirement memory).1 =
      if shelf.retiredCount = shelf.room then
        if (memory.secure .retirement
            (entryBytes * extendedRoom shelf.room)).1 then
          .ok { shelf with room := extendedRoom shelf.room }
        else
          .error (.allocationFailed entryBytes entryAlign)
      else
        .ok shelf := by
  unfold reserveRetirement
  dsimp only
  split
  case isTrue full =>
    rcases memory.secure .retirement _ with ⟨granted | granted, after⟩ <;> rfl
  case isFalse roomy => rfl

omit [Provider σ] in
/-- A new slab takes no room on the shelf. -/
theorem Shelf.room_activate
    (shelf : Shelf geometry)
    (slab : Slab geometry)
    (previousItems : Nat)
    (memory : Memory σ) :
    (shelf.activate slab previousItems memory).2.1.room = shelf.room := by
  unfold activate
  cases shelf.active with
  | none => rfl
  | some previous =>
    dsimp only
    split
    case isTrue empty => rfl
    case isFalse nonempty => cases previous.withLive previousItems <;> rfl

/-- Room for retired slabs is found or refused alike. -/
theorem Shelf.reserveRetirement_concur
    {left right : Shelf geometry}
    {leftMemory : Memory σ}
    {rightMemory : Memory τ}
    (room : left.room = right.room)
    (count : left.retiredCount = right.retiredCount)
    (same : leftMemory.queries = rightMemory.queries)
    (concur :
      Concur (left.reserveRetirement leftMemory).2.queries
        (right.reserveRetirement rightMemory).2.queries) :
    (left.reserveRetirement leftMemory).2.queries =
        (right.reserveRetirement rightMemory).2.queries ∧
      ∃ answer : Except Fault Nat,
        (left.reserveRetirement leftMemory).1 =
            answer.map (fun room => { left with room }) ∧
          (right.reserveRetirement rightMemory).1 =
            answer.map (fun room => { right with room }) := by
  rw [left.answer_reserveRetirement, right.answer_reserveRetirement]
  rw [left.memory_reserveRetirement, right.memory_reserveRetirement] at concur ⊢
  rw [← room, ← count] at concur ⊢
  by_cases full : left.retiredCount = left.room
  · rw [if_pos full, if_pos full] at concur
    rcases Memory.secure_concur same concur with ⟨decision, queries⟩
    simp only [if_pos full, ← decision]
    refine ⟨queries, ?_⟩
    split
    case isTrue granted => exact ⟨.ok (extendedRoom left.room), rfl, rfl⟩
    case isFalse refused =>
      exact ⟨.error (.allocationFailed entryBytes entryAlign), rfl, rfl⟩
  · simp only [if_neg full]
    exact ⟨same, .ok left.room, rfl, by rw [room]; rfl⟩

theorem Slab.answer_acquire
    {capacity : Nat}
    {layout : Layout}
    (made : geometry.slabLayout capacity = .ok layout)
    (memory : Memory σ) :
    (acquire geometry capacity memory).1 =
      match (memory.acquire layout).1 with
      | some base => .ok ⟨base, capacity, 0⟩
      | none => .error (.allocationFailed layout.size layout.align) := by
  unfold acquire
  rw [made]
  dsimp only
  rcases memory.acquire layout with ⟨_ | base, after⟩ <;> rfl

/-- A slab is granted at some base or other, or refused alike. -/
theorem Slab.acquire_concur
    {leftMemory : Memory σ}
    {rightMemory : Memory τ}
    (same : leftMemory.queries = rightMemory.queries)
    {capacity : Nat}
    (concur :
      Concur (acquire geometry capacity leftMemory).2.queries
        (acquire geometry capacity rightMemory).2.queries) :
    (acquire geometry capacity leftMemory).2.queries =
        (acquire geometry capacity rightMemory).2.queries ∧
      ∃ answer : Except Fault (Nat × Nat),
        (acquire geometry capacity leftMemory).1 =
            answer.map (fun bases => ⟨bases.1, capacity, 0⟩) ∧
          (acquire geometry capacity rightMemory).1 =
            answer.map (fun bases => ⟨bases.2, capacity, 0⟩) := by
  cases made : geometry.slabLayout capacity with
  | error fault =>
    have refused {σ : Type} [Provider σ] (memory : Memory σ) :
        acquire geometry capacity memory = (.error fault, memory) := by
      rw [acquire, made]
    rw [refused, refused]
    exact ⟨same, .error fault, rfl, rfl⟩
  | ok layout =>
    rw [answer_acquire made, answer_acquire made]
    rw [memory_acquire made, memory_acquire made] at concur ⊢
    rcases Memory.acquire_concur same concur with ⟨decision, queries⟩
    refine ⟨queries, ?_⟩
    cases leftBase : (leftMemory.acquire layout).1 with
    | none =>
      rw [leftBase, Option.isSome_none, eq_comm, Option.isSome_eq_false_iff,
        Option.isNone_iff_eq_none] at decision
      rw [decision]
      exact ⟨.error (.allocationFailed layout.size layout.align), rfl, rfl⟩
    | some base =>
      rw [leftBase, Option.isSome_some, eq_comm, Option.isSome_iff_exists]
        at decision
      rcases decision with ⟨other, rightBase⟩
      rw [rightBase]
      exact ⟨.ok (base, other), rfl, rfl⟩

theorem Vacancies.answer_ofCapacity
    (capacity : Nat)
    (memory : Memory σ)
    {bytes : Nat}
    (spanned :
      Word.saturatingMul (Marks.wordsFor capacity) entryBytes = bytes) :
    ofCapacity capacity memory =
      if bytes = 0 then
        (.ok (blank capacity), memory)
      else
        (if (memory.secure .marks bytes).1 then
          .ok (blank capacity)
        else
          .error (.allocationFailed bytes entryBytes),
        (memory.secure .marks bytes).2) := by
  unfold ofCapacity
  rw [spanned]
  dsimp only
  by_cases nothing : bytes = 0
  · rw [if_pos nothing, if_pos nothing]
  · rw [if_neg nothing, if_neg nothing]
    rcases memory.secure .marks bytes with ⟨granted | granted, after⟩ <;> rfl

/-- The marks of a slab are granted or refused alike. -/
theorem Vacancies.ofCapacity_concur
    {leftMemory : Memory σ}
    {rightMemory : Memory τ}
    (same : leftMemory.queries = rightMemory.queries)
    {capacity : Nat}
    (concur :
      Concur (ofCapacity capacity leftMemory).2.queries
        (ofCapacity capacity rightMemory).2.queries) :
    (ofCapacity capacity leftMemory).2.queries =
        (ofCapacity capacity rightMemory).2.queries ∧
      (ofCapacity capacity leftMemory).1 =
        (ofCapacity capacity rightMemory).1 := by
  rw [answer_ofCapacity _ _ rfl, answer_ofCapacity _ _ rfl] at concur ⊢
  split
  case isTrue nothing => exact ⟨same, rfl⟩
  case isFalse something =>
    rw [if_neg something, if_neg something] at concur
    rcases Memory.secure_concur same concur with ⟨decision, queries⟩
    exact ⟨queries, by rw [decision]⟩

theorem Vacancies.answer_reserve
    (vacancies : Vacancies)
    (memory : Memory σ) :
    vacancies.reserve memory =
      if vacancies.size = vacancies.room then
        (if (memory.secure .vacancies
            (entryBytes * extendedRoom vacancies.room)).1 then
          .ok { vacancies with room := extendedRoom vacancies.room }
        else
          .error (.allocationFailed entryBytes entryBytes),
        (memory.secure .vacancies
          (entryBytes * extendedRoom vacancies.room)).2)
      else
        (.ok vacancies, memory) := by
  unfold reserve
  dsimp only
  by_cases full : vacancies.size = vacancies.room
  · rw [if_pos full, if_pos full]
    rcases memory.secure .vacancies _ with ⟨granted | granted, after⟩ <;> rfl
  · rw [if_neg full, if_neg full]

/-- Room for a vacancy is found or refused alike. -/
theorem Vacancies.reserve_concur
    {leftMemory : Memory σ}
    {rightMemory : Memory τ}
    (same : leftMemory.queries = rightMemory.queries)
    {vacancies : Vacancies}
    (concur :
      Concur (vacancies.reserve leftMemory).2.queries
        (vacancies.reserve rightMemory).2.queries) :
    (vacancies.reserve leftMemory).2.queries =
        (vacancies.reserve rightMemory).2.queries ∧
      (vacancies.reserve leftMemory).1 = (vacancies.reserve rightMemory).1 := by
  rw [answer_reserve, answer_reserve] at concur ⊢
  split
  case isTrue full =>
    rw [if_pos full, if_pos full] at concur
    rcases Memory.secure_concur same concur with ⟨decision, queries⟩
    exact ⟨queries, by rw [decision]⟩
  case isFalse roomy => exact ⟨same, rfl⟩

end Parts

/-! ## The requests of a growth -/

section Growth

variable {σ τ : Type} [Provider σ] [Provider τ]

section Furnish

variable {geometry : Geometry}

/-- A slab is furnished at some base or other, or refused alike. -/
theorem Slab.furnish_concur
    {leftMemory : Memory σ}
    {rightMemory : Memory τ}
    (same : leftMemory.queries = rightMemory.queries)
    {capacity : Nat}
    (concur :
      Concur (furnish geometry capacity leftMemory).2.queries
        (furnish geometry capacity rightMemory).2.queries) :
    (furnish geometry capacity leftMemory).2.queries =
        (furnish geometry capacity rightMemory).2.queries ∧
      ∃ answer : Except Fault ((Nat × Nat) × Vacancies),
        (furnish geometry capacity leftMemory).1 =
            answer.map (fun made => (⟨made.1.1, capacity, 0⟩, made.2)) ∧
          (furnish geometry capacity rightMemory).1 =
            answer.map (fun made => (⟨made.1.2, capacity, 0⟩, made.2)) := by
  have early :=
    concur.earlier (queries_furnish_suffix geometry capacity leftMemory)
      (queries_furnish_suffix geometry capacity rightMemory)
  rcases acquire_concur same early with
    ⟨placedSame, answer, leftAnswer, rightAnswer⟩
  cases leftAcquired : acquire geometry capacity leftMemory with
  | mk _ leftPlaced =>
    cases rightAcquired : acquire geometry capacity rightMemory with
    | mk _ rightPlaced =>
      rw [leftAcquired] at leftAnswer placedSame
      rw [rightAcquired] at rightAnswer placedSame
      dsimp only at leftAnswer rightAnswer placedSame
      subst leftAnswer rightAnswer
      cases answer with
      | error fault =>
        rw [furnish, furnish, leftAcquired, rightAcquired]
        exact ⟨placedSame, .error fault, rfl, rfl⟩
      | ok bases =>
        rcases furnish_of_granted leftAcquired with ⟨leftMade, leftQueries⟩
        rcases furnish_of_granted rightAcquired with ⟨rightMade, rightQueries⟩
        rw [leftQueries, rightQueries] at concur
        rcases Vacancies.ofCapacity_concur placedSame concur with
          ⟨markedSame, decision⟩
        refine ⟨by rw [leftQueries, rightQueries, markedSame], ?_⟩
        rw [leftMade, rightMade, decision]
        refine
          ⟨(Vacancies.ofCapacity capacity rightPlaced).1.map (bases, ·), ?_, ?_⟩
        · cases (Vacancies.ofCapacity capacity rightPlaced).1 <;> rfl
        · cases (Vacancies.ofCapacity capacity rightPlaced).1 <;> rfl

end Furnish

namespace Pool

variable {config : Config}

variable {left right : Pool config}
variable {leftMemory : Memory σ} {rightMemory : Memory τ}

/-- All that a growth needs is granted, at some base or other, or refused alike. -/
theorem prepare_concur
    (room : left.shelf.room = right.shelf.room)
    (count : left.shelf.retiredCount = right.shelf.retiredCount)
    (same : leftMemory.queries = rightMemory.queries)
    {capacity : Nat}
    (concur :
      Concur (left.prepare capacity leftMemory).2.2.queries
        (right.prepare capacity rightMemory).2.2.queries) :
    (left.prepare capacity leftMemory).2.2.queries =
        (right.prepare capacity rightMemory).2.2.queries ∧
      ∃ (room : Nat) (answer : Except Fault ((Nat × Nat) × Vacancies)),
        (left.prepare capacity leftMemory).1 =
            answer.map (fun made => (⟨made.1.1, capacity, 0⟩, made.2)) ∧
          (right.prepare capacity rightMemory).1 =
            answer.map (fun made => (⟨made.1.2, capacity, 0⟩, made.2)) ∧
          (left.prepare capacity leftMemory).2.1 = { left.shelf with room } ∧
          (right.prepare capacity rightMemory).2.1 =
            { right.shelf with room } := by
  have early :=
    concur.earlier (left.prepare_spec capacity leftMemory).queries_suffix
      (right.prepare_spec capacity rightMemory).queries_suffix
  rcases Shelf.reserveRetirement_concur room count same early with
    ⟨roomySame, answer, leftAnswer, rightAnswer⟩
  unfold prepare at concur ⊢
  generalize left.shelf.reserveRetirement leftMemory = leftResult
    at concur leftAnswer roomySame ⊢
  generalize right.shelf.reserveRetirement rightMemory = rightResult
    at concur rightAnswer roomySame ⊢
  rcases leftResult with ⟨_, leftRoomy⟩
  rcases rightResult with ⟨_, rightRoomy⟩
  cases leftAnswer
  cases rightAnswer
  cases answer with
  | error fault =>
    exact ⟨roomySame, left.shelf.room, .error fault, rfl, rfl, rfl,
      by rw [room]⟩
  | ok room =>
    rcases Slab.furnish_concur roomySame concur with
      ⟨madeSame, answer, leftMade, rightMade⟩
    exact ⟨madeSame, room, answer, leftMade, rightMade, rfl, rfl⟩

omit [Provider σ] in
theorem room_install
    (pool : Pool config)
    (slab : Slab config.geometry)
    (vacancies : Vacancies)
    (memory : Memory σ) :
    (pool.install slab vacancies memory).pool.shelf.room =
      pool.shelf.room := by
  have kept := pool.shelf.room_activate slab pool.activeItems memory
  rcases pool.install_cases slab vacancies memory with
    ⟨answer, shelf, after, activated, same, -⟩
  rw [same, ← kept, activated]

/-- A growth is refused alike, or a slab is installed on both sides. -/
theorem grow_concur
    (room : left.shelf.room = right.shelf.room)
    (count : left.shelf.retiredCount = right.shelf.retiredCount)
    (hint : left.hint = right.hint)
    (same : leftMemory.queries = rightMemory.queries)
    {required : Nat}
    (concur :
      Concur (left.grow required leftMemory).memory.queries
        (right.grow required rightMemory).memory.queries) :
    (left.grow required leftMemory).memory.queries =
        (right.grow required rightMemory).memory.queries ∧
      ((∃ fault room,
        (left.grow required leftMemory).answer = .error (.fault fault) ∧
          (right.grow required rightMemory).answer = .error (.fault fault) ∧
          (left.grow required leftMemory).pool =
            { left with shelf := { left.shelf with room } } ∧
          (right.grow required rightMemory).pool =
            { right with shelf := { right.shelf with room } }) ∨
      ((∀ fault,
          (left.grow required leftMemory).answer ≠ .error (.fault fault)) ∧
        (∀ fault,
          (right.grow required rightMemory).answer ≠ .error (.fault fault)) ∧
        (left.grow required leftMemory).pool.shelf.room =
          (right.grow required rightMemory).pool.shelf.room)) := by
  by_cases within : required ≤ config.limit
  · have capacity :
        left.grownCapacity required = right.grownCapacity required := by
      rw [grownCapacity, grownCapacity, hint]
    rw [queries_grow _ within, queries_grow _ within] at concur ⊢
    rw [grow, grow, if_neg (Nat.not_lt.2 within), if_neg (Nat.not_lt.2 within)]
    rw [capacity] at concur ⊢
    rcases prepare_concur room count same concur with
      ⟨prepared, room, answer, leftAnswer, rightAnswer, leftShelf, rightShelf⟩
    refine ⟨prepared, ?_⟩
    generalize left.prepare (right.grownCapacity required) leftMemory =
      leftResult at leftAnswer leftShelf ⊢
    generalize right.prepare (right.grownCapacity required) rightMemory =
      rightResult at rightAnswer rightShelf ⊢
    rcases leftResult with ⟨_, _, leftAfter⟩
    rcases rightResult with ⟨_, _, rightAfter⟩
    cases leftAnswer
    cases rightAnswer
    cases leftShelf
    cases rightShelf
    cases answer with
    | error fault => exact Or.inl ⟨fault, room, rfl, rfl, rfl, rfl⟩
    | ok made =>
      refine Or.inr ⟨?_, ?_, ?_⟩
      · exact answer_install_ne_fault _ _ _ leftAfter
      · exact answer_install_ne_fault _ _ _ rightAfter
      · have leftRoom :=
          room_install { left with shelf := { left.shelf with room } }
            ⟨made.1.1, right.grownCapacity required, 0⟩ made.2 leftAfter
        have rightRoom :=
          room_install { right with shelf := { right.shelf with room } }
            ⟨made.1.2, right.grownCapacity required, 0⟩ made.2 rightAfter
        exact leftRoom.trans rightRoom.symm
  · have beyond := Nat.lt_of_not_le within
    rw [grow, grow, if_pos beyond, if_pos beyond]
    refine ⟨same, Or.inl ⟨_, left.shelf.room, rfl, rfl, rfl, ?_⟩⟩
    rw [room]

end Pool

end Growth

end SlabPool
