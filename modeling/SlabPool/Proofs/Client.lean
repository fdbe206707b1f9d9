import Mathlib.Logic.Function.Basic
import SlabPool.Proofs.Queries
import SlabPool.Proofs.Refinement

/-!
# Clients

A client knows the slots of a pool by handles: slots are numbered as they are
handed out, from zero on.  It is run on errands that name slots by handles, and
leaves out an errand whose handle is not that of a live slot.  So it gives back
nothing but live slots (`Client.Honest`), whatever its errands are.  Nor does it
ask about slots it gave back: their addresses may have been handed out again, by
one provider and not by another.

What it gets to see of a deal (`Sight`) names no address.  A slot is shown by
its index in the active slab, the only one from which slots are handed out or
listed, and slabs are counted as they are made.
-/

namespace SlabPool.Pool

/-- What a client is sent to do; slots are named by their handles. -/
inductive Errand where
  | allocate
  | reserve (additional : Nat)
  | remove (handle : Nat)
  | contains (handle : Nat)
  | clear
  | destroy
  | slotsInUse
  deriving DecidableEq, Repr

/-- A reply without addresses. -/
inductive Told where
  /-- The reply names no address. -/
  | plain (reply : Reply)
  /-- The slots of the active slab that start at the addresses of the reply. -/
  | slots (indices : List (Option Nat))
  deriving DecidableEq, Repr

/-- What a client gets to see of a deal. -/
structure Sight where
  /-- What was replied. -/
  told : Told
  /-- How many slabs were made so far; the active slab is the last of them. -/
  made : Nat
  /-- The counts of the pool afterwards. -/
  statistics : Except Breach Statistics
  /-- What the provider was asked meanwhile, and what it decided. -/
  queries : List (Query × Bool)

variable {config : Config} {σ : Type}

/-- The slot of the active slab that starts at the address. -/
def slotOf? (pool : Pool config) (address : Nat) : Option Nat :=
  pool.shelf.active.bind fun active => active.indexOf? address

/-- The reply as a client of the pool is told of it. -/
def tell (pool : Pool config) : Reply → Told
  | .number (some address) => .slots [pool.slotOf? address]
  | .numbers addresses => .slots (addresses.map pool.slotOf?)
  | reply => .plain reply

theorem tell_ofAnswer_done
    {α : Type}
    (pool : Pool config)
    (answer : Except Stop α) :
    pool.tell (.ofAnswer (fun _ => .done) answer) =
      .plain (.ofAnswer (fun _ => .done) answer) := by
  cases answer <;> rfl

/-- The handles below a number name the live addresses, each address by one. -/
structure Registers
    (register : Nat → Option Nat)
    (given : Nat)
    (live : Finset Nat) :
    Prop where
  live :
    ∀ address, address ∈ live ↔ ∃ handle, register handle = some address
  distinct :
    ∀ handle other address, register handle = some address →
      register other = some address → handle = other
  unused : ∀ handle, given ≤ handle → register handle = none

namespace Registers

theorem none (given : Nat) : Registers (fun _ => .none) given ∅ where
  live address := by
    constructor
    · exact fun member => (Finset.notMem_empty _ member).elim
    · rintro ⟨handle, named⟩
      cases named
  distinct _ _ _ named := by cases named
  unused _ _ := rfl

variable {register : Nat → Option Nat} {given handle address : Nat}
variable {live : Finset Nat}

/-- A new address gets the next handle. -/
theorem give
    (registers : Registers register given live)
    (fresh : address ∉ live) :
    Registers (Function.update register given (some address)) (given + 1)
      (insert address live) := by
  have unknown (handle : Nat) : register handle ≠ some address :=
    fun named => fresh ((registers.live address).2 ⟨handle, named⟩)
  have next := registers.unused given (Nat.le_refl _)
  refine ⟨?_, ?_, ?_⟩
  · intro tested
    rw [Finset.mem_insert, registers.live]
    constructor
    · rintro (rfl | ⟨handle, named⟩)
      · exact ⟨given, Function.update_self ..⟩
      · refine ⟨handle, ?_⟩
        rw [Function.update_of_ne, named]
        rintro rfl
        cases next.symm.trans named
    · rintro ⟨handle, named⟩
      rcases eq_or_ne handle given with rfl | older
      · rw [Function.update_self] at named
        exact Or.inl (Option.some.inj named).symm
      · rw [Function.update_of_ne older] at named
        exact Or.inr ⟨handle, named⟩
  · intro handle other tested
    rcases eq_or_ne handle given with rfl | older
    · rcases eq_or_ne other handle with rfl | otherOlder
      · exact fun _ _ => rfl
      · rw [Function.update_self, Function.update_of_ne otherOlder]
        rintro same named
        cases same
        exact (unknown other named).elim
    · rcases eq_or_ne other given with rfl | otherOlder
      · rw [Function.update_self, Function.update_of_ne older]
        rintro named same
        cases same
        exact (unknown handle named).elim
      · rw [Function.update_of_ne older, Function.update_of_ne otherOlder]
        exact registers.distinct handle other tested
  · intro handle later
    rw [Function.update_of_ne (by omega)]
    exact registers.unused handle (by omega)

/-- An address that is live no more loses its handle. -/
theorem drop
    (registers : Registers register given live)
    (named : register handle = some address) :
    Registers (Function.update register handle .none) given
      (live.erase address) := by
  refine ⟨?_, ?_, ?_⟩
  · intro tested
    rw [Finset.mem_erase, registers.live]
    constructor
    · rintro ⟨differs, other, otherNamed⟩
      refine ⟨other, ?_⟩
      rw [Function.update_of_ne, otherNamed]
      rintro rfl
      exact differs (Option.some.inj (otherNamed.symm.trans named))
    · rintro ⟨other, otherNamed⟩
      rcases eq_or_ne other handle with rfl | another
      · rw [Function.update_self] at otherNamed
        cases otherNamed
      · rw [Function.update_of_ne another] at otherNamed
        refine ⟨?_, other, otherNamed⟩
        rintro rfl
        exact another (registers.distinct other handle tested otherNamed named)
  · intro first second tested
    rcases eq_or_ne first handle with rfl | firstOther
    · rw [Function.update_self]
      exact nofun
    · rcases eq_or_ne second handle with rfl | secondOther
      · rw [Function.update_self]
        exact fun _ => nofun
      · rw [Function.update_of_ne firstOther, Function.update_of_ne secondOther]
        exact registers.distinct first second tested
  · intro tested later
    rcases eq_or_ne tested handle with rfl | another
    · exact Function.update_self ..
    · rw [Function.update_of_ne another]
      exact registers.unused tested later

end Registers

/-- A client with the deals it made. -/
structure Client (config : Config) (σ : Type) where
  /-- All deals, the newest first. -/
  deals : List (Deal config σ)
  /-- The world that they led to. -/
  world : World config σ
  /-- The addresses of the live slots, by handle. -/
  register : Nat → Option Nat
  /-- How many handles were given out. -/
  given : Nat
  /-- What the client saw, the newest first. -/
  sights : List Sight

namespace Client

/-- A client that made no deal yet. -/
def start (provider : σ) : Client config σ :=
  ⟨[], ⟨idle, Memory.fresh provider⟩, fun _ => none, 0, []⟩

variable (client : Client config σ)

/-- The request of an errand, unless its handle is not that of a live slot. -/
def request? : Errand → Option (Request σ)
  | .allocate => some .allocate
  | .reserve additional => some (.reserve additional)
  | .remove handle => (client.register handle).map .remove
  | .contains handle => (client.register handle).map .contains
  | .clear => some .clear
  | .destroy => some .destroy
  | .slotsInUse => some .slotsInUse

/-- The handles of live slots after an errand with this reply. -/
def registered
    (errand : Errand)
    (reply : Reply) :
    Nat → Option Nat :=
  match errand, reply with
  | .allocate, .number (some address) =>
    Function.update client.register client.given (some address)
  | .remove handle, .done => Function.update client.register handle none
  | .clear, _ | .destroy, _ => fun _ => none
  | _, _ => client.register

/-- How many handles were given out after an errand with this reply. -/
def numbered
    (errand : Errand)
    (reply : Reply) :
    Nat :=
  match errand, reply with
  | .allocate, .number (some _) => client.given + 1
  | _, _ => client.given

variable [Provider σ]

/-- What the client sees of its next deal. -/
def sight (deal : Deal config σ) : Sight where
  told := deal.after.pool.tell deal.reply
  made := (deal :: client.deals).countP Deal.renews
  statistics := deal.after.pool.statistics
  queries := deal.queries

/-- The client after the deal with this request on an errand. -/
def deal
    (errand : Errand)
    (request : Request σ) :
    Client config σ :=
  let deal : Deal config σ := ⟨client.world, request⟩
  { deals := deal :: client.deals
    world := deal.after
    register := client.registered errand deal.reply
    given := client.numbered errand deal.reply
    sights := client.sight deal :: client.sights }

/-- The client after an errand, which is left out if its handle is not live. -/
def run (errand : Errand) : Client config σ :=
  match client.request? errand with
  | none => client
  | some request => client.deal errand request

/-- The client after these errands, the newest first. -/
def after (provider : σ) : List Errand → Client config σ
  | [] => start provider
  | errand :: earlier => (after provider earlier).run errand

section Handle

variable {client : Client config σ} {handle address : Nat}

theorem run_remove
    (named : client.register handle = some address) :
    client.run (.remove handle) =
      client.deal (.remove handle) (.remove address) := by
  rw [run, request?, named]
  rfl

theorem run_remove_of_unnamed
    (unnamed : client.register handle = none) :
    client.run (.remove handle) = client := by
  rw [run, request?, unnamed]
  rfl

theorem run_contains
    (named : client.register handle = some address) :
    client.run (.contains handle) =
      client.deal (.contains handle) (.contains address) := by
  rw [run, request?, named]
  rfl

theorem run_contains_of_unnamed
    (unnamed : client.register handle = none) :
    client.run (.contains handle) = client := by
  rw [run, request?, unnamed]
  rfl

end Handle

/-- An errand only adds to what the provider was asked. -/
theorem queries_suffix (errand : Errand) :
    client.world.memory.queries <:+
      (client.run errand).world.memory.queries := by
  unfold run
  cases client.request? errand with
  | none => exact List.suffix_rfl
  | some request =>
    have asked := Deal.queries_after ⟨client.world, request⟩
    exact ⟨_, asked.symm⟩

/-- The client gives back nothing but live slots, and knows each by one handle. -/
structure Honest : Prop where
  run : Run client.deals client.world
  abiding : Abiding client.deals
  registers : Registers client.register client.given (Pool.live client.deals)

namespace Honest

theorem start (provider : σ) :
    (Client.start provider : Client config σ).Honest where
  run := .start provider
  abiding := trivial
  registers := .none 0

variable {client : Client config σ}

/-- A handle of the client names a live address. -/
theorem mem_live
    (honest : client.Honest)
    {handle address : Nat}
    (named : client.register handle = some address) :
    address ∈ Pool.live client.deals :=
  (honest.registers.live address).2 ⟨handle, named⟩

/-- After a deal with this reply the handles are those it leads to. -/
theorem deal
    (honest : client.Honest)
    {errand : Errand}
    {request : Request σ}
    {reply : Reply}
    (replied : Deal.reply ⟨client.world, request⟩ = reply)
    (permitted : request.Permitted (Pool.live client.deals))
    (registers :
      Registers (client.registered errand reply) (client.numbered errand reply)
        (request.track reply (Pool.live client.deals))) :
    (client.deal errand request).Honest := by
  subst replied
  exact ⟨honest.run.next request, ⟨honest.abiding, permitted⟩, registers⟩

/-- Whatever the errand is, the client stays honest. -/
theorem errand
    [SeparatingProvider σ]
    (honest : client.Honest)
    (errand : Errand) :
    (client.run errand).Honest := by
  have balanced := honest.run.balanced
  have sound := balanced.sound
  have coupled := honest.run.coupled honest.abiding
  have registers := honest.registers
  cases errand with
  | allocate =>
    show (client.deal .allocate .allocate).Honest
    have reply := Deal.reply_allocate client.world
    rcases (allocate_spec balanced).answer_cases balanced coupled with
      ⟨address, answer, fresh⟩ | ⟨fault, answer⟩
    · rw [answer] at reply
      exact honest.deal reply trivial (registers.give fresh)
    · rw [answer] at reply
      exact honest.deal reply trivial registers
  | reserve additional =>
    show (client.deal (.reserve additional) (.reserve additional)).Honest
    have reply := Deal.reply_reserve client.world additional
    rcases reserve_answer_cases balanced additional with
      answer | ⟨fault, answer⟩
    · rw [answer] at reply
      exact honest.deal reply trivial registers
    · rw [answer] at reply
      exact honest.deal reply trivial registers
  | remove handle =>
    cases named : client.register handle with
    | none =>
      rw [run_remove_of_unnamed named]
      exact honest
    | some address =>
      rw [run_remove named]
      have member := honest.mem_live named
      have reply := Deal.reply_remove client.world address
      rcases coupled.remove_answer_cases sound member client.world.memory with
        answer | ⟨size, align, answer⟩
      · rw [answer] at reply
        exact honest.deal reply member (registers.drop named)
      · rw [answer] at reply
        exact honest.deal reply member registers
  | contains handle =>
    cases named : client.register handle with
    | none =>
      rw [run_contains_of_unnamed named]
      exact honest
    | some address =>
      rw [run_contains named]
      exact honest.deal rfl trivial registers
  | clear => exact honest.deal rfl trivial (.none client.given)
  | destroy => exact honest.deal rfl trivial (.none client.given)
  | slotsInUse =>
    have reply := Deal.reply_slotsInUse client.world
    rcases sound.exists_walk_toList_eq with ⟨addresses, walked⟩
    rw [walked] at reply
    exact honest.deal reply trivial registers

end Honest

/-- A client is honest after any errands. -/
theorem honest_after
    [SeparatingProvider σ]
    (provider : σ)
    (errands : List Errand) :
    (Client.after provider errands : Client config σ).Honest := by
  induction errands with
  | nil => exact .start provider
  | cons errand earlier ih => exact ih.errand errand

end Client

end SlabPool.Pool
