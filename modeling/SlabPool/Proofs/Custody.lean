import SlabPool.Proofs.Mapping

/-!
# What becomes of the items

An item that is brought to a pool is discarded inside the call that brought it,
or it is stored.  A stored item is handed to the caller that moves it out, or
forgotten when the pool is cleared, destroyed or disposed of.

Items may be equal, and one that was handed out may be brought again.  So a run
is told by `Parcel`s: an item with the number of the deal that brought it.  The
`books` of a run put every parcel in its place, told from the requests and their
answers alone.  `Handling` says what one call does to the items of the pool.

A pool has `Custody` of its items by some books if the books balance, with every
parcel in exactly one place, and the pool keeps to them: it discarded what the
books say was discarded, handed out what they say was handed out, and still has
what they say is stored.  `custody_of_run` says so of the books of an abiding
run, and once more of its end, when the pool is disposed of: then the books
forget what was stored.
-/

namespace SlabPool.ItemPool

variable {config : Config} {σ α : Type}

/-- The item that a request brings to the pool. -/
def Request.item? : Request σ α → Option α
  | .insert item => some item
  | .insertWith initializer => some initializer.item
  | _ => none

/-- The item that was handed to the caller. -/
def Answer.moved? : Answer α → Option α
  | .moved item => some item
  | _ => none

/-! ## One call -/

/-- What one call does to the items of a pool. -/
inductive Handling
    (before after : ItemPool config α) :
    Request σ α → Answer α → Prop where
  /-- The item was stored, and none was discarded. -/
  | stored
      {request : Request σ α}
      {item : α}
      {address : Nat}
      (brings : request.item? = some item)
      (read : after.read? address = some item)
      (discarded : after.discarded = before.discarded) :
      Handling before after request (.placed address)
  /-- The call failed, and its item was discarded before it ended. -/
  | discarded
      {request : Request σ α}
      {item : α}
      (brings : request.item? = some item)
      (stop : Stop)
      (items : after.items = before.items)
      (discarded : after.discarded = item :: before.discarded) :
      Handling before after request (.stopped stop)
  /-- The item left the pool without being discarded. -/
  | moved
      {item : α}
      {address : Nat}
      (read : before.read? address = some item)
      (items : after.items = before.items.erase address)
      (discarded : after.discarded = before.discarded) :
      Handling before after (.remove address) (.moved item)
  /-- No item was brought or moved, and all are where they were. -/
  | untouched
      {request : Request σ α}
      {answer : Answer α}
      (brings : request.item? = none)
      (moves : answer.moved? = none)
      (items : after.items = before.items)
      (discarded : after.discarded = before.discarded) :
      Handling before after request answer

theorem read?_insert
    (items : Std.HashMap Nat α)
    (address : Nat)
    (item : α) :
    (items.insert address item)[address]? = some item := by
  rw [Std.HashMap.getElem?_insert, if_pos (beq_self_eq_true address)]

/-- A permitted call handles the items of a pool that mirrors a map. -/
theorem World.Mirrors.handling
    [Provider σ]
    [SeparatingProvider σ]
    {world : World config σ α}
    {bindings : Bindings α}
    {imprint : Imprint α}
    (mirrors : world.Mirrors bindings imprint)
    {request : Request σ α}
    (permitted : request.Permitted world bindings) :
    Handling world.pool (world.perform request).2.pool request
      (world.perform request).1 := by
  rcases world with ⟨pool, memory⟩
  have houses := mirrors.houses
  cases request with
  | insert item =>
    dsimp only [perform, ItemPool.insert]
    generalize pool.slots.allocate memory = outcome
    rcases outcome with ⟨stop | address, left, after⟩
    · exact .discarded rfl stop rfl rfl
    · exact .stored rfl (read?_insert pool.items address item) rfl
  | insertWith initializer =>
    dsimp only [perform, ItemPool.insertWith]
    generalize pool.slots.allocate memory = outcome
    rcases outcome with ⟨stop | address, left, after⟩
    · exact .discarded rfl stop rfl rfl
    · cases initializer with
      | writes item =>
        exact .stored rfl (read?_insert pool.items address item) rfl
      | givesUp item message => exact .discarded rfl _ rfl rfl
  | remove address =>
    have allowed :
        address ∈ bindings.keys ∨ pool.slots.contains address = false := by
      rw [Finmap.mem_keys]
      exact permitted
    dsimp only [perform, ItemPool.remove]
    rcases houses.removeWith_cases allowed moveOut (pool.items, none) with
      ⟨left, after, removed, member, -⟩ | ⟨fault, left, after, refused, -⟩
    · rcases Finmap.mem_iff.1 (Finmap.mem_keys.1 member) with ⟨item, bound⟩
      have stored := mirrors.stored bound
      rw [read?] at stored
      rw [removed, moveOut, stored]
      exact .moved stored rfl rfl
    · rw [refused]
      exact .untouched rfl rfl rfl rfl
  | reserve additional =>
    dsimp only [perform, ItemPool.reserve]
    generalize pool.slots.reserve additional memory = outcome
    rcases outcome with ⟨stop | done, left, after⟩
    · exact .untouched rfl rfl rfl rfl
    · exact .untouched rfl rfl rfl rfl
  | clear => exact .untouched rfl rfl rfl rfl
  | destroy => exact .untouched rfl rfl rfl rfl
  | supply provider => exact .untouched rfl rfl rfl rfl

/-! ## The books -/

/-- An item with the number of the deal that brought it. -/
structure Parcel (α : Type) where
  /-- How many deals were made before. -/
  number : Nat
  /-- The item. -/
  item : α
  deriving DecidableEq

/-- The items of a map, each as often as it is bound. -/
def contents (bindings : Bindings α) : Multiset α :=
  bindings.entries.map Sigma.snd

theorem contents_insert
    {bindings : Bindings α}
    {address : Nat}
    (fresh : address ∉ bindings)
    (item : α) :
    contents (bindings.insert address item) = item ::ₘ contents bindings := by
  rw [contents, Finmap.entries_insert_of_notMem fresh, Multiset.map_cons,
    contents]

section Lookup

variable {bindings : Bindings α} {address : Nat} {item : α}

theorem contents_erase
    (bound : bindings.lookup address = some item) :
    contents bindings = item ::ₘ contents (bindings.erase address) := by
  have restored : (bindings.erase address).insert address item = bindings := by
    apply Finmap.ext_lookup
    intro other
    by_cases same : other = address
    · subst same
      rw [Finmap.lookup_insert, bound]
    · rw [Finmap.lookup_insert_of_ne _ same, Finmap.lookup_erase_ne same]
  rw [← contents_insert Finmap.notMem_erase_self item, restored]

theorem mem_contents
    (bound : bindings.lookup address = some item) :
    item ∈ contents bindings := by
  rw [contents_erase bound]
  exact Multiset.mem_cons_self item _

end Lookup

/-- What became of the parcels that were brought to a pool. -/
structure Books (α : Type) where
  /-- Parcels in the pool, by address. -/
  stored : Bindings (Parcel α)
  /-- Parcels that were discarded, the newest first. -/
  discarded : List (Parcel α)
  /-- Parcels that were handed out, the one that left last first. -/
  handed : List (Parcel α)
  /-- Parcels that were in the pool when it was cleared or destroyed. -/
  forgotten : Multiset (Parcel α)

namespace Books

/-- The books before any deal. -/
def blank : Books α :=
  ⟨∅, [], [], 0⟩

variable (books : Books α)

/-- All parcels, each as often as it has a place. -/
def all : Multiset (Parcel α) :=
  books.discarded + books.handed + books.forgotten + contents books.stored

def store (address : Nat) (parcel : Parcel α) : Books α :=
  { books with stored := books.stored.insert address parcel }

def discard (parcel : Parcel α) : Books α :=
  { books with discarded := parcel :: books.discarded }

/-- Hand out the parcel at an address, if there is one. -/
def handOut (address : Nat) : Books α :=
  match books.stored.lookup address with
  | none => books
  | some parcel =>
    { books with
      stored := books.stored.erase address
      handed := parcel :: books.handed }

/-- Forget all parcels that are stored. -/
def forget : Books α :=
  { books with
    stored := ∅
    forgotten := books.forgotten + contents books.stored }

/-- The books after a request with this answer, the deal of this number. -/
def enter
    (number : Nat)
    (request : Request σ α)
    (answer : Answer α) :
    Books α :=
  match request, answer with
  | .insert item, .placed address => books.store address ⟨number, item⟩
  | .insert item, .stopped _ => books.discard ⟨number, item⟩
  | .insertWith initializer, .placed address =>
    books.store address ⟨number, initializer.item⟩
  | .insertWith initializer, .stopped _ =>
    books.discard ⟨number, initializer.item⟩
  | .remove address, .moved _ => books.handOut address
  | .clear, _ => books.forget
  | .destroy, _ => books.forget
  | _, _ => books

/-- The books have the items of a map where the map has them. -/
def Match (books : Books α) (bindings : Bindings α) : Prop :=
  ∀ address,
    bindings.lookup address =
      (books.stored.lookup address).map Parcel.item

variable {books} {bindings : Bindings α} {address : Nat}

theorem match_blank : (blank : Books α).Match ∅ :=
  fun _ => rfl

namespace Match

theorem not_mem
    (same : books.Match bindings)
    (fresh : address ∉ bindings) :
    address ∉ books.stored := by
  rw [← Finmap.lookup_eq_none] at fresh ⊢
  rw [same address, Option.map_eq_none_iff] at fresh
  exact fresh

theorem exists_parcel
    (same : books.Match bindings)
    {item : α}
    (bound : bindings.lookup address = some item) :
    ∃ parcel,
      books.stored.lookup address = some parcel ∧ parcel.item = item := by
  rw [same address, Option.map_eq_some_iff] at bound
  exact bound

theorem store
    (same : books.Match bindings)
    (parcel : Parcel α) :
    (books.store address parcel).Match
      (bindings.insert address parcel.item) := by
  intro other
  change _ =
    ((books.stored.insert address parcel).lookup other).map Parcel.item
  by_cases equal : other = address
  · subst equal
    rw [Finmap.lookup_insert, Finmap.lookup_insert, Option.map_some]
  · rw [Finmap.lookup_insert_of_ne _ equal, Finmap.lookup_insert_of_ne _ equal]
    exact same other

end Match

theorem all_store
    (fresh : address ∉ books.stored)
    (parcel : Parcel α) :
    (books.store address parcel).all = parcel ::ₘ books.all := by
  rw [all, store, contents_insert fresh, Multiset.add_cons, all]

theorem all_discard (parcel : Parcel α) :
    (books.discard parcel).all = parcel ::ₘ books.all := by
  rw [all, discard, ← Multiset.cons_coe, Multiset.cons_add, Multiset.cons_add,
    Multiset.cons_add, all]

theorem all_forget : books.forget.all = books.all := by
  show _ + (books.forgotten + contents books.stored) + 0 = _
  rw [add_zero, ← add_assoc]
  rfl

section HandOut

variable {parcel : Parcel α}

theorem handOut_eq
    (stored : books.stored.lookup address = some parcel) :
    books.handOut address =
      { books with
        stored := books.stored.erase address
        handed := parcel :: books.handed } := by
  rw [handOut, stored]

theorem all_handOut
    (stored : books.stored.lookup address = some parcel) :
    (books.handOut address).all = books.all := by
  rw [handOut_eq stored, all, all, contents_erase stored]
  dsimp only
  rw [← Multiset.cons_coe, Multiset.add_cons, Multiset.cons_add,
    Multiset.cons_add, Multiset.add_cons]

theorem Match.handOut
    (same : books.Match bindings)
    (stored : books.stored.lookup address = some parcel) :
    (books.handOut address).Match (bindings.erase address) := by
  intro other
  rw [handOut_eq stored]
  dsimp only
  by_cases equal : other = address
  · subst equal
    rw [Finmap.lookup_erase, Finmap.lookup_erase, Option.map_none]
  · rw [Finmap.lookup_erase_ne equal, Finmap.lookup_erase_ne equal]
    exact same other

theorem discarded_handOut (address : Nat) :
    (books.handOut address).discarded = books.discarded := by
  unfold handOut
  split <;> rfl

end HandOut

/-! ## The books of one deal -/

/-- A parcel is entered in the books just if the request brought an item. -/
theorem all_enter
    (same : books.Match bindings)
    (number : Nat)
    {request : Request σ α}
    {answer : Answer α}
    {after : Bindings α}
    (step : MapStep bindings request answer after) :
    (books.enter number request answer).all =
      (request.item?.map (Parcel.mk number)).toList + books.all := by
  cases step with
  | inserted fresh => exact all_store (same.not_mem fresh) _
  | insertFailed item fault => exact all_discard _
  | filled fresh => exact all_store (same.not_mem fresh) _
  | abandoned item message => exact all_discard _
  | fillFailed initializer fault => exact all_discard _
  | removed bound =>
    rcases same.exists_parcel bound with ⟨parcel, stored, -⟩
    exact (all_handOut stored).trans (zero_add _).symm
  | cleared => exact all_forget.trans (zero_add _).symm
  | destroyed => exact all_forget.trans (zero_add _).symm
  | removalFailed address fault => exact (zero_add _).symm
  | reserved additional => exact (zero_add _).symm
  | reservationFailed additional fault => exact (zero_add _).symm
  | supplied provider => exact (zero_add _).symm

theorem Match.enter
    (same : books.Match bindings)
    (number : Nat)
    {request : Request σ α}
    {answer : Answer α}
    {after : Bindings α}
    (step : MapStep bindings request answer after) :
    (books.enter number request answer).Match after := by
  cases step with
  | inserted fresh => exact same.store ⟨number, _⟩
  | filled fresh => exact same.store ⟨number, _⟩
  | removed bound =>
    rcases same.exists_parcel bound with ⟨parcel, stored, -⟩
    exact same.handOut stored
  | cleared => exact fun _ => rfl
  | destroyed => exact fun _ => rfl
  | insertFailed item fault => exact same
  | abandoned item message => exact same
  | fillFailed initializer fault => exact same
  | removalFailed address fault => exact same
  | reserved additional => exact same
  | reservationFailed additional fault => exact same
  | supplied provider => exact same

/-- What is handed out is what the caller gets. -/
theorem handed_enter
    (same : books.Match bindings)
    (number : Nat)
    {request : Request σ α}
    {answer : Answer α}
    {after : Bindings α}
    (step : MapStep bindings request answer after) :
    (books.enter number request answer).handed.map Parcel.item =
      answer.moved?.toList ++ books.handed.map Parcel.item := by
  cases step with
  | removed bound =>
    rcases same.exists_parcel bound with ⟨parcel, stored, rfl⟩
    change (books.handOut _).handed.map Parcel.item = _
    rw [handOut_eq stored]
    rfl
  | inserted fresh => rfl
  | insertFailed item fault => rfl
  | filled fresh => rfl
  | abandoned item message => rfl
  | fillFailed initializer fault => rfl
  | removalFailed address fault => rfl
  | reserved additional => rfl
  | reservationFailed additional fault => rfl
  | cleared => rfl
  | destroyed => rfl
  | supplied provider => rfl

/-- What is discarded is what the pool discarded meanwhile. -/
theorem discarded_enter
    (number : Nat)
    {request : Request σ α}
    {answer : Answer α}
    {before after : ItemPool config α}
    (handling : Handling before after request answer)
    (same : before.discarded = books.discarded.map Parcel.item) :
    after.discarded =
      (books.enter number request answer).discarded.map Parcel.item := by
  cases handling with
  | stored brings read discarded =>
    rw [discarded, same]
    cases request <;> cases brings <;> rfl
  | discarded brings stop items discarded =>
    rw [discarded, same]
    cases request <;> cases brings <;> rfl
  | moved read items discarded =>
    rw [discarded, same]
    exact congrArg _ (discarded_handOut _).symm
  | untouched brings moves items discarded =>
    rw [discarded, same]
    cases request with
    | insert item => cases brings
    | insertWith initializer => cases brings
    | remove address =>
      cases answer with
      | moved item => cases moves
      | done => rfl
      | placed other => rfl
      | stopped stop => rfl
    | reserve additional => rfl
    | clear => rfl
    | destroy => rfl
    | supply provider => rfl

/-! ## Books without repetition -/

/-- Nothing is discarded or handed out twice, and what is discarded is nowhere else. -/
structure Once (books : Books α) : Prop where
  discarded : books.discarded.Nodup
  handed : books.handed.Nodup
  apart :
    ∀ parcel ∈ books.discarded,
      parcel ∉ books.handed ∧
        parcel ∉ books.forgotten ∧ parcel ∉ contents books.stored

theorem once_of_nodup
    (nodup : books.all.Nodup) :
    books.Once := by
  unfold all at nodup
  rcases Multiset.nodup_add.1 nodup with ⟨nodup, -, apartStored⟩
  rcases Multiset.nodup_add.1 nodup with ⟨nodup, -, apartForgotten⟩
  rcases Multiset.nodup_add.1 nodup with ⟨discarded, handed, apartHanded⟩
  refine
    ⟨Multiset.coe_nodup.1 discarded, Multiset.coe_nodup.1 handed, ?_⟩
  intro parcel member
  have listed : parcel ∈ (books.discarded : Multiset (Parcel α)) :=
    Multiset.mem_coe.2 member
  have left :
      parcel ∈ (books.discarded : Multiset (Parcel α)) + books.handed :=
    Multiset.mem_add.2 (Or.inl listed)
  refine ⟨fun handed => ?_, fun forgotten => ?_, fun stored => ?_⟩
  · exact
      Multiset.disjoint_left.1 apartHanded listed (Multiset.mem_coe.2 handed)
  · exact Multiset.disjoint_left.1 apartForgotten left forgotten
  · exact
      Multiset.disjoint_left.1 apartStored
        (Multiset.mem_add.2 (Or.inl left)) stored

end Books

/-! ## A whole run -/

section Runs

/-- The parcels that were brought to the pool, the newest first. -/
def brought : List (Deal config σ α) → List (Parcel α)
  | [] => []
  | deal :: earlier =>
    (deal.request.item?.map (Parcel.mk earlier.length)).toList ++
      brought earlier

variable {deals : List (Deal config σ α)}

theorem number_lt_of_mem_brought
    {parcel : Parcel α}
    (member : parcel ∈ brought deals) :
    parcel.number < deals.length := by
  induction deals with
  | nil => cases member
  | cons deal earlier ih =>
    rw [List.length_cons]
    rcases List.mem_append.1 member with new | old
    · rw [Option.mem_toList, Option.map_eq_some_iff] at new
      rcases new with ⟨item, -, rfl⟩
      exact Nat.lt_succ_self _
    · exact Nat.lt_succ_of_lt (ih old)

/-- No two deals bring the same parcel. -/
theorem nodup_brought : (brought deals).Nodup := by
  induction deals with
  | nil => exact List.nodup_nil
  | cons deal earlier ih =>
    rw [brought]
    cases deal.request.item? with
    | none => exact ih
    | some item =>
      refine List.nodup_cons.2 ⟨fun member => ?_, ih⟩
      exact Nat.lt_irrefl _ (number_lt_of_mem_brought member)

/-- Books that balance have no parcel twice. -/
theorem once_of_balance
    {books : Books α}
    (balance : (brought deals : Multiset (Parcel α)) = books.all) :
    books.Once := by
  apply Books.once_of_nodup
  rw [← balance]
  exact Multiset.coe_nodup.2 nodup_brought

variable [Provider σ]

/-- The books of a run. -/
def books : List (Deal config σ α) → Books α
  | [] => .blank
  | deal :: earlier =>
    (books earlier).enter earlier.length deal.request deal.answer

/-- The items that callers were handed, the newest first. -/
def handouts (deals : List (Deal config σ α)) : List α :=
  deals.filterMap fun deal => deal.answer.moved?

/-- After these deals, the pool has done with its items what the books say. -/
structure Custody
    (books : Books α)
    (deals : List (Deal config σ α))
    (pool : ItemPool config α) :
    Prop where
  /-- The pool discarded what the books say, in this order. -/
  discards : pool.discarded = books.discarded.map Parcel.item
  /-- Callers were handed what the books say, in this order. -/
  hands : handouts deals = books.handed.map Parcel.item
  /-- What the books say is stored can be read. -/
  stores :
    ∀ {address parcel}, books.stored.lookup address = some parcel →
      pool.read? address = some parcel.item
  /-- Each parcel that was brought has a place in the books. -/
  balance : (brought deals : Multiset (Parcel α)) = books.all
  /-- It has no other. -/
  once : books.Once

variable [SeparatingProvider σ] {world : World config σ α}

/-- An abiding run and its books go together. -/
theorem Run.books_spec
    (run : Run deals world)
    (abiding : Abiding deals) :
    (books deals).Match (bindings deals) ∧
      world.pool.discarded = (books deals).discarded.map Parcel.item ∧
        handouts deals = (books deals).handed.map Parcel.item ∧
          (brought deals : Multiset (Parcel α)) = (books deals).all := by
  induction run with
  | start provider => exact ⟨Books.match_blank, rfl, rfl, rfl⟩
  | @next deals world run request ih =>
    rcases ih abiding.1 with ⟨same, discards, hands, balance⟩
    have mirrors := run.mirrors abiding.1
    have step := (mirrors.next abiding.2).1
    refine ⟨same.enter deals.length step, ?_, ?_, ?_⟩
    · exact
        Books.discarded_enter deals.length (mirrors.handling abiding.2)
          discards
    · have handed := Books.handed_enter same deals.length step
      rw [← hands] at handed
      rw [books, handed, handouts, List.filterMap_cons]
      cases (Deal.answer ⟨world, request⟩).moved? <;> rfl
    · rw [books, Books.all_enter same deals.length step, brought,
        ← Multiset.coe_add, balance]

theorem Run.custody
    (run : Run deals world)
    (abiding : Abiding deals) :
    Custody (books deals) deals world.pool := by
  rcases run.books_spec abiding with ⟨same, discards, hands, balance⟩
  refine ⟨discards, hands, ?_, balance, once_of_balance balance⟩
  intro address parcel stored
  refine (run.mirrors abiding).stored ?_
  rw [same address, stored, Option.map_some]

/-! ## The end of a run -/

/-- The world after the pool was disposed of. -/
def World.disposed
    (world : World config σ α)
    (unwinding : Bool) :
    World config σ α :=
  .ofOutcome (world.pool.dispose unwinding world.memory)

omit [SeparatingProvider σ] in
/-- A pool that is disposed of forgets what is stored and keeps to its books. -/
theorem Custody.disposed
    (custody : Custody (books deals) deals world.pool)
    (unwinding : Bool) :
    Custody (books deals).forget deals (world.disposed unwinding).pool :=
  have balance := custody.balance.trans Books.all_forget.symm
  { discards := custody.discards
    hands := custody.hands
    stores := nofun
    balance
    once := once_of_balance balance }

/--
Disposal discards nothing: each item that was stored is forgotten, whether the
pool had to be empty or not.  No slab and no block is left.
-/
structure Closed
    (deals : List (Deal config σ α))
    (world left : World config σ α) :
    Prop where
  custody : Custody (books deals).forget deals left.pool
  discarded : left.pool.discarded = world.pool.discarded
  forgotten :
    ∀ {address parcel}, (books deals).stored.lookup address = some parcel →
      parcel ∈ (books deals).forget.forgotten ∧
        parcel ∉ (books deals).forget.discarded
  slabs : left.pool.slots.shelf.slabs = []
  held : left.memory.held = []

theorem Run.closed
    (run : Run deals world)
    (abiding : Abiding deals)
    (unwinding : Bool) :
    Closed deals world (world.disposed unwinding) := by
  have custody := run.custody abiding
  have balanced := (run.mirrors abiding).houses.balanced
  refine
    ⟨custody.disposed unwinding, rfl, ?_, balanced.slabs_dispose unwinding,
      balanced.held_dispose unwinding⟩
  intro address parcel stored
  have member := mem_contents stored
  exact
    ⟨Multiset.mem_add.2 (Or.inr member),
      fun discarded => (custody.once.apart parcel discarded).2.2 member⟩

/--
In an abiding run each item that was brought is in exactly one place: discarded
in the call that brought it, handed to a caller, forgotten with a clearing or a
destruction, or stored where it can be read.  When the run ends with the
disposal of the pool, what is stored is forgotten too.  So none is discarded
twice, and one that was stored is never discarded.
-/
theorem custody_of_run
    (run : Run deals world)
    (abiding : Abiding deals) :
    Custody (books deals) deals world.pool ∧
    (books deals).Match (bindings deals) ∧
    (brought deals).Nodup ∧
    (∀ request, Abiding (⟨world, request⟩ :: deals) →
      Handling world.pool (Deal.after ⟨world, request⟩).pool request
        (Deal.answer ⟨world, request⟩)) ∧
    ∀ unwinding, Closed deals world (world.disposed unwinding) := by
  refine
    ⟨run.custody abiding, (run.books_spec abiding).1, nodup_brought, ?_,
      run.closed abiding⟩
  intro request permitted
  exact (run.mirrors abiding).handling permitted.2

end Runs

/--
An initializer gives up, the pool is cleared with an item in it, a removal at
an address of nothing fails, and the third item after that is refused.
-/
def Sample.troubled : List (Request Arena Nat) :=
  [.insert 7, .insert 9,
    .supply { Sample.arena with refused := [.slots], cursor := 16 },
    .remove 0, .insert 8, .clear, .insertWith (.givesUp 7 "no"), .insert 7]

theorem custody_of_troubled :
    let deals : List (Deal Sample.config Arena Nat) :=
      history Sample.arena Sample.troubled
    let world : World Sample.config Arena Nat :=
      reached Sample.arena Sample.troubled
    let next : Deal Sample.config Arena Nat :=
      ⟨world, .remove Arena.origin⟩
    world.pool.discarded = [7, 7] ∧
      (books deals).discarded = [⟨7, 7⟩, ⟨1, 7⟩] ∧
      (books deals).forgotten = {⟨0, 7⟩} ∧
      world.pool.read? Arena.origin = some 8 ∧
      Handling world.pool next.after.pool next.request next.answer ∧
      (world.disposed false).pool.discarded = [7, 7] ∧
      (⟨3, 8⟩ : Parcel Nat) ∈ (books deals).forget.forgotten ∧
      (world.disposed false).memory.held = [] := by
  intro deals world next
  have run : Run deals world := run_history Sample.arena Sample.troubled
  have abiding : Abiding deals := by
    refine ⟨⟨⟨⟨⟨⟨⟨⟨trivial, trivial⟩, trivial⟩, trivial⟩, trivial⟩, Or.inr ?_⟩,
      trivial⟩, trivial⟩, trivial⟩
    decide +kernel
  have stored :
      (books deals).stored.lookup Arena.origin = some ⟨3, 8⟩ := by
    decide +kernel
  have bound : (bindings deals).lookup Arena.origin = some 8 := by
    decide +kernel
  have told : (books deals).discarded = [⟨7, 7⟩, ⟨1, 7⟩] := by
    decide +kernel
  rcases custody_of_run run abiding with
    ⟨custody, -, -, handling, closed⟩
  have discarded : world.pool.discarded = [7, 7] := by
    rw [custody.discards, told]
    rfl
  refine
    ⟨discarded, told, by decide +kernel, custody.stores stored, ?_,
      (closed false).discarded.trans discarded,
      ((closed false).forgotten stored).1, (closed false).held⟩
  exact
    handling (.remove Arena.origin)
      ⟨abiding, Or.inl (Finmap.mem_iff.2 ⟨8, bound⟩)⟩

end SlabPool.ItemPool
